/-
  Kinds never mismatch when a compiled predicate is evaluated.

  `Formula.KindSafe` says of a formula and one record what every test in it is given: a comparison
  gets two values of one kind or a null, the items of a list are nulls or of the member's kind, a
  test of a text gets texts or a null to look in, a spatial test a geometry or a null, a union of
  bits gets bits or nulls, and a test of elements a list of records or a null. For a record that
  conforms it holds of every formula in which kinds match (`Formula.WellKinded.kindSafe`), by
  induction over the formula.

  Evaluation answers something for readings of any kinds. `Formula.holds?` is evaluation without
  those answers: where kinds mismatch, it has none. A formula that is safe for a record has an
  answer there, the same one (`Formula.KindSafe.holds?_eq`), although nothing is skipped: both
  sides of every conjunction and disjunction are asked.

  `Predicate.compileAll_kindSafe` puts this together for all lists of sets of built criteria.
-/
import Winnow.Proofs.WellKinded

namespace Winnow

variable {ι ρ : Type}

/-! ## What tests are given -/

/-- Two single values of one kind, or at least one null. -/
def Reading.Comparable (f g : Reading ρ) : Prop :=
  f = .null ∨ g = .null ∨ ∃ a b, f = .scalar a ∧ g = .scalar b ∧ a.kind = b.kind

/-- The bits of an enum, or a null. -/
def Reading.OfBits (f : Reading ρ) : Prop :=
  f = .null ∨ ∃ b, f = .scalar (.number (.unsigned b))

section

variable [Record ρ]

/-- Whatever is read on the way to the term is of the kind that is expected there, or null. -/
def Term.KindSafe (row : ρ) : Term → Prop
  | .member _ | .constant _ => True
  | .trim t | .normalize t => t.KindSafe row ∧ (t.read row).OfKind .text
  | .bits t => t.KindSafe row ∧ (t.read row).OfKind .enum
  | .bitOr a b =>
    (a.KindSafe row ∧ b.KindSafe row) ∧ (a.read row).OfBits ∧ (b.read row).OfBits

/-- Every test in the formula is given readings of the kinds that it expects. -/
def Formula.KindSafe (family : Family ι) : ι → Formula → ρ → Prop
  | _, .constant _, _ => True
  | i, .and f g, row => f.KindSafe family i row ∧ g.KindSafe family i row
  | i, .or f g, row => f.KindSafe family i row ∧ g.KindSafe family i row
  | i, .not f, row => f.KindSafe family i row
  | _, .compare _ a b, row =>
    (a.KindSafe row ∧ b.KindSafe row) ∧ (a.read row).Comparable (b.read row)
  | _, .textTest _ target argument, row =>
    (target.KindSafe row ∧ argument.KindSafe row) ∧
      (target.read row).OfKind .text ∧ (argument.read row).kind? = some .text
  | i, .oneOf items item, row =>
    item.KindSafe row ∧ ∃ path k, item = .member path ∧
      family.typeAt? i path.segments = some (.scalar k) ∧ k ≠ .array ∧
      (item.read row).OfKind k ∧ ∀ v ∈ items, v = .null ∨ v.kind? = some k
  | _, .spatial _ target _ _, row => target.KindSafe row ∧ (target.read row).OfKind .spatial
  | i, .any collection f, row =>
    ∃ element, family.typeAt? i collection.segments = some (.collection element) ∧
      (collection.read row = .null ∨ ∃ rows, collection.read row = .records rows ∧
        ∀ r ∈ rows, f.KindSafe family element r)

end

/-! ## Evaluation without an answer for mismatched kinds -/

/-- A change of a text; a null stays, and other readings cannot be changed. -/
def Term.onText? (change : String → String) : Reading ρ → Option (Reading ρ)
  | .null => some .null
  | .scalar (.text s) => some (.scalar (.text (change s)))
  | _ => none

/-- The bits of an enum; a null has null bits, and other readings have none. -/
def Term.bitsOf? : Reading ρ → Option (Reading ρ)
  | .null => some .null
  | .scalar (.enum b) => some (.scalar (.number (.unsigned b)))
  | _ => none

/-- The union of bits, null if one side is; other readings have none. -/
def Term.unionOf? : Reading ρ → Reading ρ → Option (Reading ρ)
  | .scalar (.number (.unsigned a)), .scalar (.number (.unsigned b)) =>
    some (.scalar (.number (.unsigned (a ||| b))))
  | .null, .null | .null, .scalar (.number (.unsigned _))
  | .scalar (.number (.unsigned _)), .null => some .null
  | _, _ => none

/-- The comparison of two values of one kind or of a null; other readings do not compare. -/
def Comparison.holds? (c : Comparison) : Reading ρ → Reading ρ → Option Bool
  | .scalar a, .scalar b =>
    if a.kind = b.kind then some (c.holds (.scalar a : Reading ρ) (.scalar b : Reading ρ))
    else none
  | .null, g => some (c.holds (.null : Reading ρ) g)
  | f, .null => some (c.holds f (.null : Reading ρ))
  | _, _ => none

/-- The test of a text or a null for a text; other readings are not tested. -/
def TextTest.holds? (t : TextTest) : Reading ρ → Reading ρ → Option Bool
  | .scalar (.text s), .scalar (.text part) => some (t.holdsOf s.toList part.toList)
  | .null, .scalar (.text _) => some false
  | _, _ => none

/-- The spatial test of a geometry, which fails for a null; other readings are not tested. -/
def Formula.passes? (t : SpatialTest) (geometry : Geometry) (distance : Option Double) :
    Reading ρ → Option Bool
  | .scalar (.geometry subject) => some (t.holds subject geometry distance)
  | .null => some false
  | _ => none

/-- The elements of a list of records; a null has none, and other readings are not asked. -/
def Formula.elements? : Reading ρ → Option (List ρ)
  | .records rows => some rows
  | .null => some []
  | _ => none

section

variable [Record ρ]

/-- Reads a term, unless kinds mismatch. -/
def Term.read? (row : ρ) : Term → Option (Reading ρ)
  | .member path => some (path.read row)
  | .constant v => some (.ofValue v)
  | .trim t => (t.read? row).bind (Term.onText? Winnow.trim)
  | .normalize t => (t.read? row).bind (Term.onText? normalizeText)
  | .bits t => (t.read? row).bind Term.bitsOf?
  | .bitOr a b => (a.read? row).bind fun f => (b.read? row).bind fun g => Term.unionOf? f g

/-- The formula holds of a record or not, unless kinds mismatch. -/
def Formula.holds? : Formula → ρ → Option Bool
  | .constant b, _ => some b
  | .and f g, row => do return (← f.holds? row) && (← g.holds? row)
  | .or f g, row => do return (← f.holds? row) || (← g.holds? row)
  | .not f, row => (f.holds? row).map (!·)
  | .compare c a b, row => do c.holds? (← a.read? row) (← b.read? row)
  | .textTest t target argument, row => do t.holds? (← target.read? row) (← argument.read? row)
  | .oneOf items item, row => do
    let f ← item.read? row
    let results ← items.mapM fun v => Comparison.eq.holds? (.ofValue v) f
    return results.any id
  | .spatial t target geometry distance, row => do
    passes? t geometry distance (← target.read? row)
  | .any collection f, row => do
    let rows ← elements? (collection.read row)
    let results ← rows.mapM f.holds?
    return results.any id

end

/-! ## Formulas in which kinds match are safe -/

theorem Reading.OfKind.eq_scalar {k : Kind} {f : Reading ρ} (hf : f.OfKind k)
    (hk : k ≠ .array) : f = .null ∨ ∃ a, f = .scalar a ∧ a.kind = k := by
  rcases hf with hf | hf
  · exact Or.inl hf
  · cases f with
    | scalar a => exact Or.inr ⟨a, rfl, Option.some.inj hf⟩
    | list items => exact absurd (Option.some.inj hf).symm hk
    | _ => exact absurd hf (by simp [Reading.kind?])

theorem Reading.ofKind_ofValue {k : Kind} {v : Value} (h : v = .null ∨ v.kind? = some k) :
    (Reading.ofValue v : Reading ρ).OfKind k := by
  rcases h with rfl | h
  · exact Or.inl rfl
  · exact Or.inr ((Reading.kind?_ofValue v).trans h)

theorem Reading.OfKind.comparable {k : Kind} {f g : Reading ρ} (hk : k ≠ .array)
    (hf : f.OfKind k) (hg : g.OfKind k) : f.Comparable g := by
  rcases hf.eq_scalar hk with hf | ⟨a, rfl, ha⟩
  · exact Or.inl hf
  · rcases hg.eq_scalar hk with hg | ⟨b, rfl, hb⟩
    · exact Or.inr (Or.inl hg)
    · exact Or.inr (Or.inr ⟨a, b, rfl, rfl, ha.trans hb.symm⟩)

theorem Reading.OfKind.ofBits {f : Reading ρ} (hf : f.OfKind .enum) :
    (Term.bitsOf f).OfBits := by
  rcases f.ofKind_enum_iff.mp hf with rfl | ⟨a, rfl⟩
  · exact Or.inl rfl
  · exact Or.inr ⟨a, rfl⟩

theorem Reading.OfBits.unionOf {f g : Reading ρ} (hf : f.OfBits) (hg : g.OfBits) :
    (Term.unionOf f g).OfBits := by
  rcases hf with rfl | ⟨a, rfl⟩
  · exact Or.inl rfl
  · rcases hg with rfl | ⟨b, rfl⟩
    · exact Or.inl rfl
    · exact Or.inr ⟨a ||| b, rfl⟩

theorem Reading.OfBits.ofKind {f : Reading ρ} (hf : f.OfBits) : f.OfKind .number :=
  hf.imp_right fun ⟨_, h⟩ => congrArg Reading.kind? h

theorem Reading.OfKind.onText {f : Reading ρ} (hf : f.OfKind .text) (change : String → String) :
    (Term.onText change f).OfKind .text := by
  rcases hf with rfl | hf
  · exact Or.inl rfl
  · obtain ⟨s, rfl⟩ := Reading.eq_text_of_kind? hf
    exact Or.inr rfl

section

variable [Record ρ]

/-- A term reads values of its kind, and so does all that it is made from. -/
theorem Term.HasKind.sound {family : Family ι} {i : ι} {t : Term} {k : Kind}
    (h : t.HasKind family i k) {row : ρ} (hrow : family.Conforms i row) :
    t.KindSafe row ∧ (t.read row).OfKind k := by
  induction h with
  | member ht => exact ⟨trivial, family.suits_readSegments ht hrow⟩
  | constant hv => exact ⟨trivial, Reading.ofKind_ofValue hv⟩
  | trim h ih | normalize h ih => exact ⟨ih, ih.2.onText _⟩
  | bits h ih => exact ⟨ih, ih.2.ofBits.ofKind⟩
  | bitOr ha hb iha ihb =>
    have hbits := And.intro iha.2.ofBits ihb.2.ofBits
    exact ⟨⟨⟨iha, ihb⟩, hbits⟩, (hbits.1.unionOf hbits.2).ofKind⟩

/-- **Where kinds match, evaluation is safe for every record that conforms.** -/
theorem Formula.WellKinded.kindSafe {family : Family ι} {i : ι} {f : Formula}
    (h : f.WellKinded family i) {row : ρ} (hrow : family.Conforms i row) :
    f.KindSafe family i row := by
  induction h generalizing row with
  | constant b => exact trivial
  | and hf hg ihf ihg | or hf hg ihf ihg => exact ⟨ihf hrow, ihg hrow⟩
  | not hf ih => exact ih hrow
  | nullTest c path => exact ⟨⟨trivial, trivial⟩, Or.inr (Or.inl rfl)⟩
  | compare c hk ha hb =>
    obtain ⟨hasafe, hakind⟩ := ha.sound hrow
    obtain ⟨hbsafe, hbkind⟩ := hb.sound hrow
    exact ⟨⟨hasafe, hbsafe⟩, hakind.comparable hk hbkind⟩
  | textTest t s ht =>
    obtain ⟨hsafe, hkind⟩ := ht.sound hrow
    exact ⟨⟨hsafe, trivial⟩, hkind, rfl⟩
  | @oneOf i items path k hk ht hitems =>
    exact ⟨trivial, path, k, rfl, ht, hk, family.suits_readSegments ht hrow, hitems⟩
  | spatial t geometry distance ht => exact ht.sound hrow
  | @any i element collection f ht hf ih =>
    refine ⟨element, ht, ?_⟩
    rcases family.suits_readSegments ht hrow with hnull | hsuits
    · exact Or.inl hnull
    · cases hread : MemberPath.readSegments collection.segments row with
      | records rows =>
        rw [hread] at hsuits
        exact Or.inr ⟨rows, hread, fun r hr => ih (hsuits r hr)⟩
      | _ =>
        rw [hread] at hsuits
        exact hsuits.elim

end

/-! ## Safe formulas have an answer -/

theorem Term.onText?_eq {f : Reading ρ} (hf : f.OfKind .text) (change : String → String) :
    Term.onText? change f = some (Term.onText change f) := by
  rcases hf with rfl | hf
  · rfl
  · obtain ⟨s, rfl⟩ := Reading.eq_text_of_kind? hf
    rfl

theorem Term.bitsOf?_eq {f : Reading ρ} (hf : f.OfKind .enum) :
    Term.bitsOf? f = some (Term.bitsOf f) := by
  rcases f.ofKind_enum_iff.mp hf with rfl | ⟨a, rfl⟩
  · rfl
  · rfl

theorem Term.unionOf?_eq {f g : Reading ρ} (hf : f.OfBits) (hg : g.OfBits) :
    Term.unionOf? f g = some (Term.unionOf f g) := by
  rcases hf with rfl | ⟨a, rfl⟩
  · rcases hg with rfl | ⟨b, rfl⟩
    · rfl
    · rfl
  · rcases hg with rfl | ⟨b, rfl⟩
    · rfl
    · rfl

theorem Comparison.holds?_eq (c : Comparison) {f g : Reading ρ} (h : f.Comparable g) :
    c.holds? f g = some (c.holds f g) := by
  rcases h with rfl | rfl | ⟨a, b, rfl, rfl, hkind⟩
  · cases g <;> rfl
  · cases f <;> rfl
  · rw [Comparison.holds?, if_pos hkind]

theorem TextTest.holds?_eq (t : TextTest) {f g : Reading ρ} (hf : f.OfKind .text)
    (hg : g.kind? = some .text) : t.holds? f g = some (t.holds f g) := by
  obtain ⟨part, rfl⟩ := Reading.eq_text_of_kind? hg
  rcases hf with rfl | hf
  · rfl
  · obtain ⟨s, rfl⟩ := Reading.eq_text_of_kind? hf
    rfl

theorem Formula.passes?_eq (t : SpatialTest) (geometry : Geometry) (distance : Option Double)
    {f : Reading ρ} (hf : f.OfKind .spatial) :
    passes? t geometry distance f = some (passes t geometry distance f) := by
  rcases hf.eq_scalar (by decide) with rfl | ⟨a, rfl, ha⟩
  · rfl
  · cases a with
    | geometry g => rfl
    | _ => exact absurd ha (by simp [Scalar.kind])

theorem mapM_eq_some_map {α β : Type} {g : α → Option β} {h : α → β} {xs : List α}
    (hgh : ∀ x ∈ xs, g x = some (h x)) : xs.mapM g = some (xs.map h) := by
  induction xs with
  | nil => rfl
  | cons x xs ih =>
    rw [List.mapM_cons, hgh x List.mem_cons_self, ih fun y hy => hgh y (List.mem_cons_of_mem x hy)]
    rfl

section

variable [Record ρ]

theorem Term.KindSafe.read?_eq {t : Term} {row : ρ} (h : t.KindSafe row) :
    t.read? row = some (t.read row) := by
  induction t with
  | member | constant => rfl
  | trim t ih | normalize t ih =>
    rw [Term.read?, ih h.1, Option.bind_some, Term.onText?_eq h.2]
    rfl
  | bits t ih =>
    rw [Term.read?, ih h.1, Option.bind_some, Term.bitsOf?_eq h.2]
    rfl
  | bitOr a b iha ihb =>
    rw [Term.read?, iha h.1.1, ihb h.1.2, Option.bind_some, Option.bind_some,
      Term.unionOf?_eq h.2.1 h.2.2]
    rfl

/-- Where evaluation is safe, it never falls back: evaluation that would have no answer for
mismatched kinds has one, and the same. -/
theorem Formula.KindSafe.holds?_eq {family : Family ι} {i : ι} {f : Formula} {row : ρ}
    (h : f.KindSafe family i row) : f.holds? row = some (f.holds row) := by
  induction f generalizing i row with
  | constant b => rfl
  | and f g ihf ihg | or f g ihf ihg =>
    rw [Formula.holds?, ihf h.1, ihg h.2]
    rfl
  | not f ih =>
    rw [Formula.holds?, ih h]
    rfl
  | compare c a b =>
    rw [Formula.holds?, h.1.1.read?_eq, h.1.2.read?_eq]
    exact c.holds?_eq h.2
  | textTest t target argument =>
    rw [Formula.holds?, h.1.1.read?_eq, h.1.2.read?_eq]
    exact t.holds?_eq h.2.1 h.2.2
  | oneOf items item =>
    obtain ⟨hsafe, path, k, -, -, hk, hitem, hitems⟩ := h
    have heq : items.mapM (fun v => Comparison.eq.holds? (.ofValue v) (item.read row)) =
        some (items.map fun v => Comparison.eq.holds (.ofValue v : Reading ρ) (item.read row)) := by
      refine mapM_eq_some_map fun v hv => Comparison.holds?_eq .eq ?_
      exact (Reading.ofKind_ofValue (hitems v hv)).comparable hk hitem
    rw [Formula.holds?, hsafe.read?_eq]
    simp only [Option.bind_eq_bind, Option.bind_some, heq, List.any_map]
    rfl
  | spatial t target geometry distance =>
    rw [Formula.holds?, h.1.read?_eq]
    exact passes?_eq t geometry distance h.2
  | any collection f ih =>
    obtain ⟨element, -, hnull | ⟨rows, hrows, hall⟩⟩ := h
    · rw [Formula.holds?, Formula.holds, hnull]
      rfl
    · have heq : rows.mapM f.holds? = some (rows.map f.holds) :=
        mapM_eq_some_map fun r hr => ih (hall r hr)
      rw [Formula.holds?, Formula.holds, hrows]
      simp only [elements?, elements, Option.bind_eq_bind, Option.bind_some, heq, List.any_map]
      rfl

/-- **Compiled predicates are safe in their kinds.**

    For every family of record types with distinct member names in which no member is declared to
    hold a list of values, all lists of sets of built criteria that compile, and every record that
    conforms: each test in the predicate is given readings of the kinds that it expects, and
    evaluation that has no answer for mismatched kinds has the predicate's answer. -/
theorem Predicate.compileAll_kindSafe {family : Family ι} {o : Options} {i : ι}
    {sets : List CriteriaSet} {p : Predicate} {row : ρ} (hd : family.DistinctNames)
    (hs : family.NoArrays) (hsets : ∀ s ∈ sets, ∀ c ∈ s.criteria, c.Built)
    (hp : Predicate.compileAll family o i sets = .ok p) (hrow : family.Conforms i row) :
    p.formula.KindSafe family i row ∧ p.formula.holds? row = some (p.accepts row) := by
  have hsafe := (Predicate.wellKinded_of_compileAll hd hs hsets hp).kindSafe hrow
  exact ⟨hsafe, hsafe.holds?_eq⟩

end

namespace Sample

theorem noArrays_shop : shop.NoArrays := by
  intro i
  cases i <;> decide

theorem compileAll_kindSafe_customer :
    ∃ p, Predicate.compileAll shop ⟨true⟩ .person
        [⟨[cityWithout "lis", noteWithout "heavy"]⟩] = .ok p ∧
      p.formula.KindSafe shop .person customer ∧
      p.formula.holds? customer = some (p.accepts customer) := by
  have hbuilt : ∀ s ∈ [(⟨[cityWithout "lis", noteWithout "heavy"]⟩ : CriteriaSet)],
      ∀ c ∈ s.criteria, c.Built := by
    intro s hs c hc
    rw [List.mem_singleton.mp hs] at hc
    rcases List.mem_cons.mp hc with rfl | hc
    · exact built_cityWithout "lis"
    · rw [List.mem_singleton.mp hc]
      exact built_noteWithout "heavy"
  obtain ⟨p, hp⟩ : ∃ p, Predicate.compileAll shop ⟨true⟩ .person
      [⟨[cityWithout "lis", noteWithout "heavy"]⟩] = .ok p := ⟨_, rfl⟩
  exact ⟨p, hp,
    Predicate.compileAll_kindSafe distinctNames_shop noArrays_shop hbuilt hp conforms_customer⟩

end Sample

end Winnow
