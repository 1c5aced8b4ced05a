/-
  Formulas in which kinds match.

  `Term.HasKind` gives a term the kind of what it reads, from the declared type of the member that
  it is made from; a null has every kind. In a formula that is `WellKinded` the two sides of a
  comparison have one kind, unless one of them is the constant null, the items of a list have the
  kind of the member, texts are tested against texts and geometries against geometries, and what
  is said of elements is said of a collection.

  Built criteria compile to formulas of this form (`MemberRule.wellKinded`), hence so do lists of
  sets of them (`Predicate.wellKinded_of_compileAll`). Three checks made far apart come together
  here: the operand against its type when the criterion is built (`Criterion.Sound`), its type
  against the member when the criterion is compiled (`Kind.accepts`), and the widening of
  characters to texts in between (`Value.kind?_widenTo`).
-/
import Winnow.Proofs.Compilation
import Winnow.Proofs.Construction
import Winnow.Proofs.Evaluation

namespace Winnow

variable {ι : Type}

/-! ## Kinds of terms and formulas -/

/-- No member is declared to hold a list of values. -/
def Family.NoArrays (family : Family ι) : Prop :=
  ∀ i, ∀ m ∈ (family i).members, m.type ≠ .scalar .array

/-- The term reads values of the kind, or nulls. -/
inductive Term.HasKind (family : Family ι) (i : ι) : Term → Kind → Prop where
  | member {path : MemberPath} {k : Kind}
      (h : family.typeAt? i path.segments = some (.scalar k)) : HasKind family i (.member path) k
  | constant {v : Value} {k : Kind} (h : v = .null ∨ v.kind? = some k) :
      HasKind family i (.constant v) k
  | trim {t : Term} (h : HasKind family i t .text) : HasKind family i (.trim t) .text
  | normalize {t : Term} (h : HasKind family i t .text) : HasKind family i (.normalize t) .text
  | bits {t : Term} (h : HasKind family i t .enum) : HasKind family i (.bits t) .number
  | bitOr {a b : Term} (ha : HasKind family i a .enum) (hb : HasKind family i b .enum) :
      HasKind family i (.bitOr (.bits a) (.bits b)) .number

/-- Kinds match throughout the formula. -/
inductive Formula.WellKinded (family : Family ι) : ι → Formula → Prop where
  | constant {i : ι} (b : Bool) : WellKinded family i (.constant b)
  | and {i : ι} {f g : Formula} (hf : WellKinded family i f) (hg : WellKinded family i g) :
      WellKinded family i (.and f g)
  | or {i : ι} {f g : Formula} (hf : WellKinded family i f) (hg : WellKinded family i g) :
      WellKinded family i (.or f g)
  | not {i : ι} {f : Formula} (hf : WellKinded family i f) : WellKinded family i (.not f)
  | nullTest {i : ι} (c : Comparison) (path : MemberPath) :
      WellKinded family i (.compare c (.member path) .null)
  | compare {i : ι} (c : Comparison) {a b : Term} {k : Kind} (hk : k ≠ .array)
      (ha : a.HasKind family i k) (hb : b.HasKind family i k) :
      WellKinded family i (.compare c a b)
  | textTest {i : ι} (t : TextTest) {target : Term} (s : String)
      (h : target.HasKind family i .text) :
      WellKinded family i (.textTest t target (.constant (.scalar (.text s))))
  | oneOf {i : ι} {items : List Value} {path : MemberPath} {k : Kind} (hk : k ≠ .array)
      (h : family.typeAt? i path.segments = some (.scalar k))
      (hitems : ∀ v ∈ items, v = .null ∨ v.kind? = some k) :
      WellKinded family i (.oneOf items (.member path))
  | spatial {i : ι} (t : SpatialTest) {target : Term} (geometry : Geometry)
      (distance : Option Double) (h : target.HasKind family i .spatial) :
      WellKinded family i (.spatial t target geometry distance)
  | any {i element : ι} {collection : MemberPath} {f : Formula}
      (h : family.typeAt? i collection.segments = some (.collection element))
      (hf : WellKinded family element f) : WellKinded family i (.any collection f)

/-! ## Operands -/

theorem Operator.of_comparison? {op : Operator} {comparison : Comparison}
    (h : op.comparison? = some comparison) :
    op.isMembership = false ∧ op ≠ .isNull ∧ op ≠ .isNotNull := by
  cases op <;> simp_all [Operator.comparison?, Operator.isMembership]

namespace Criterion

open Formula

/-- Widening to the kind of a member gives a value of that kind. -/
theorem widened_kind {kind k : Kind} {v : Value} (hv : v = .null ∨ v.kind? = some k)
    (ha : kind.accepts k = true) :
    v.widenTo kind = .null ∨ (v.widenTo kind).kind? = some kind := by
  rcases hv with rfl | hv
  · exact Or.inl rfl
  · exact Or.inr (Value.kind?_widenTo hv ha)

/-! ## Parts of formulas -/

variable {family : Family ι} {i : ι}

theorem sides_hasKind {normalize : Bool} {m : Term} {kind : Kind} {v : Value}
    (hn : normalize = true → kind = .text) (hm : m.HasKind family i kind)
    (hv : v = .null ∨ v.kind? = some kind) :
    (sides normalize m v).1.HasKind family i kind ∧
      (sides normalize m v).2.HasKind family i kind := by
  unfold sides
  split
  · obtain rfl := hn rfl
    exact ⟨.normalize hm, .constant (Or.inr rfl)⟩
  · exact ⟨hm, .constant hv⟩

theorem guardedIf_wellKinded (nullable : Bool) (path : MemberPath) {f : Formula}
    (hf : f.WellKinded family i) : (guardedIf nullable (.member path) f).WellKinded family i := by
  cases nullable with
  | false => exact hf
  | true => exact .and (.nullTest .ne path) hf

theorem negatedIf_wellKinded (negated : Bool) {f : Formula} (hf : f.WellKinded family i) :
    (negatedIf negated f).WellKinded family i := by
  cases negated with
  | false => exact hf
  | true => exact .not hf

theorem textTest_sides_wellKinded (normalize : Bool) (t : TextTest) {path : MemberPath}
    (s : String) (ht : family.typeAt? i path.segments = some (.scalar .text)) :
    (Formula.textTest t (sides normalize (.member path) (.scalar (.text s))).1
      (sides normalize (.member path) (.scalar (.text s))).2).WellKinded family i := by
  cases normalize with
  | false => exact .textTest t s (.member ht)
  | true => exact .textTest t (normalizeText s) (.normalize (.member ht))

/-! ## Rules -/

theorem ScalarRule.wellKinded {o : Options} {path : MemberPath} {kind : Kind} {nullable : Bool}
    {c : Criterion} {f : Formula} (h : ScalarRule o (.member path) kind nullable c f)
    (hc : c.Sound) (ht : family.typeAt? i path.segments = some (.scalar kind))
    (hk : kind ≠ .array) (ha : kind.accepts c.operandKind = true) : f.WellKinded family i := by
  have hm : (Term.member path).HasKind family i kind := .member ht
  have hn : (o.normalizeText && decide (kind = .text)) = true → kind = .text := by simp
  have hsingle : c.operator.isMembership = false → c.operator ≠ .isNull →
      c.operator ≠ .isNotNull →
      c.value.widenTo kind = .null ∨ (c.value.widenTo kind).kind? = some kind := by
    intro h1 h2 h3
    exact widened_kind (hc.kind_of_items?_none (hc.items?_eq_none h1 h2 h3)) ha
  cases h with
  | equal hop =>
    have hv := hsingle (by rw [hop]; rfl) (by simp [hop]) (by simp [hop])
    unfold equalFormula
    split
    · exact .nullTest .eq path
    · obtain ⟨ha, hb⟩ := sides_hasKind hn hm hv
      exact guardedIf_wellKinded nullable path (.compare .eq hk ha hb)
  | notEqual hop =>
    have hv := hsingle (by rw [hop]; rfl) (by simp [hop]) (by simp [hop])
    unfold notEqualFormula
    split
    · exact .nullTest .ne path
    · obtain ⟨ha, hb⟩ := sides_hasKind hn hm hv
      have hdiffers := Formula.WellKinded.compare .ne hk ha hb
      cases nullable with
      | false => exact hdiffers
      | true => exact .or (.nullTest .eq path) hdiffers
  | affix t s hop hkind hv =>
    subst hkind
    exact .and (.nullTest .ne path) (textTest_sides_wellKinded o.normalizeText t s ht)
  | order comparison hop hordered =>
    obtain ⟨h1, h2, h3⟩ := Operator.of_comparison? hop
    have hv := hsingle h1 h2 h3
    exact guardedIf_wellKinded nullable path (.compare comparison hk hm (.constant hv))
  | range hop hordered hhigh =>
    have hv := hsingle (by rw [hop]; rfl) (by simp [hop]) (by simp [hop])
    have hhigh' : (c.value2.widenTo kind).kind? = some kind := by
      cases hk2 : (c.value2.widenTo kind).kind? with
      | none => simp [hk2] at hhigh
      | some k =>
        rw [hk2, Option.any_some] at hhigh
        rcases Kind.accepts_iff.mp hhigh with rfl | ⟨rfl, -⟩
        · rfl
        · exact absurd hordered (by decide)
    exact guardedIf_wellKinded nullable path
      (.and (.compare .ge hk hm (.constant hv)) (.compare .le hk hm (.constant (Or.inr hhigh'))))
  | empty hop hkind =>
    subst hkind
    exact .compare .eq hk hm (.constant (Or.inr rfl))
  | notEmpty hop hkind =>
    subst hkind
    exact .compare .ne hk hm (.constant (Or.inr rfl))
  | blank hop hkind =>
    subst hkind
    exact .or (.nullTest .eq path) (.compare .eq hk (.trim hm) (.constant (Or.inr rfl)))
  | notBlank hop hkind =>
    subst hkind
    exact .and (.nullTest .ne path) (.compare .ne hk (.trim hm) (.constant (Or.inr rfl)))
  | oneOf items hop hv =>
    obtain ⟨vs, hvs, rfl⟩ := Value.widenTo_eq_list_iff.mp hv
    refine negatedIf_wellKinded _ (.oneOf hk ht ?_)
    intro w hw
    obtain ⟨v, hmem, rfl⟩ := List.mem_map.mp hw
    exact widened_kind (hc.item_kind hvs hmem) ha
  | contains s hop hkind hv =>
    subst hkind
    have htest := textTest_sides_wellKinded o.normalizeText .contains s ht
    split
    · exact guardedIf_wellKinded nullable path (.not htest)
    · exact htest

theorem EnumRule.wellKinded {path : MemberPath} {c : Criterion} {f : Formula}
    (h : EnumRule (.member path) c f) (hc : c.Sound) (hk : c.operandKind = .enum)
    (ht : family.typeAt? i path.segments = some (.scalar .enum)) : f.WellKinded family i := by
  have hm : (Term.bits (.member path)).HasKind family i .number := .bits (.member ht)
  have hsingle : c.value.items? = none →
      (Term.bits (.constant c.value)).HasKind family i .number := by
    intro hv
    have hvalue := hc.kind_of_items?_none hv
    rw [hk] at hvalue
    exact .bits (.constant hvalue)
  cases h with
  | equal hop =>
    exact .compare .eq (by decide) hm (hsingle (hc.items?_of_equality (Or.inl hop)))
  | notEqual hop =>
    exact .compare .ne (by decide) hm (hsingle (hc.items?_of_equality (Or.inr hop)))
  | oneOf items hop hv =>
    refine negatedIf_wellKinded _ (.oneOf (by decide) ht ?_)
    intro v hmem
    have hitem := hc.item_kind hv hmem
    rw [hk] at hitem
    exact hitem
  | flags hop hv =>
    have hvalue := hc.kind_of_items?_none hv
    rw [hk] at hvalue
    exact negatedIf_wellKinded _
      (.compare .eq (by decide) (.bitOr (.member ht) (.constant hvalue)) (hsingle hv))

theorem SpatialRule.wellKinded {path : MemberPath} {c : Criterion} {f : Formula}
    (h : SpatialRule (.member path) c f)
    (ht : family.typeAt? i path.segments = some (.scalar .spatial)) : f.WellKinded family i := by
  cases h with
  | test t g hop hv => exact .and (.nullTest .ne path) (.spatial t g _ (.member ht))

/-- The formula for a member of declared type is one in which kinds match. -/
theorem MemberRule.wellKinded {o : Options} {r : ResolvedMember ι} {c : Criterion} {f : Formula}
    (h : MemberRule o r c f) (hc : c.Sound)
    (ht : family.typeAt? i r.path.segments = some r.type) (hk : r.type ≠ .scalar .array) :
    f.WellKinded family i := by
  cases h with
  | isNull => exact .nullTest .eq r.path
  | isNotNull => exact .nullTest .ne r.path
  | enum htype hkind hf =>
    rw [htype] at ht
    exact hf.wellKinded hc hkind ht
  | spatial htype hf =>
    rw [htype] at ht
    exact hf.wellKinded ht
  | scalar kind htype hs ha hf =>
    rw [htype] at ht hk
    exact hf.wellKinded hc ht (fun h => hk (congrArg _ h)) ha

/-! ## Criteria and sets -/

theorem wellKinded_of_compileAt {o : Options} {segments : List String} {parameter : String}
    {c : Criterion} {f : Formula} (hd : family.DistinctNames) (hs : family.NoArrays)
    (hc : c.Built) (h : c.compileAt family o i segments parameter = .ok f) :
    f.WellKinded family i := by
  obtain ⟨r, hr, hm⟩ := compileAt_eq_ok_iff.mp h
  have hreaches := Family.resolve_eq_ok_iff.mp hr
  obtain ⟨j, m, hmem, htype, -, -⟩ := hreaches.exists_member
  exact (memberRule_of_memberFormula hm).wellKinded hc.sound (hreaches.typeAt?_segments hd)
    (htype ▸ hs j m hmem)

theorem wellKinded_of_compile {o : Options} {c : Criterion} {f : Formula}
    (hd : family.DistinctNames) (hs : family.NoArrays) (hc : c.Built)
    (h : c.compile family o i = .ok f) : f.WellKinded family i := by
  rcases compile_eq_ok_iff.mp h with
    ⟨segments, -, hf⟩ | ⟨base, inner, r, element, g, -, hr, ht, hg, rfl⟩
  · exact wellKinded_of_compileAt hd hs hc hf
  · have hcollection := (Family.resolve_eq_ok_iff.mp hr).typeAt?_segments hd
    rw [ht] at hcollection
    exact .any hcollection (wellKinded_of_compileAt hd hs hc hg)

end Criterion

/-- Built criteria, in sets that compile, make a predicate in which kinds match. -/
theorem Predicate.wellKinded_of_compileAll {family : Family ι} {o : Options} {i : ι}
    {sets : List CriteriaSet} {p : Predicate} (hd : family.DistinctNames) (hs : family.NoArrays)
    (hsets : ∀ s ∈ sets, ∀ c ∈ s.criteria, c.Built)
    (hp : Predicate.compileAll family o i sets = .ok p) : p.formula.WellKinded family i :=
  Predicate.compileAll_induction (.constant true) (fun _ _ => .and) (fun _ _ => .or)
    (fun s hmem c hc _ hf => Criterion.wellKinded_of_compile hd hs (hsets s hmem c hc) hf) hp

end Winnow
