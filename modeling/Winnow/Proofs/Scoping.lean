/-
  What the parameters of a compiled formula stand for.

  A path in a formula names the record that it starts at, the row or the element of a collection,
  and evaluation does not look at the name: it reads every path from the record at hand, and so
  does nothing to keep a path of the one kind out of the place of the other. A formula is
  `WellScoped` if its paths are where they belong: outside of a quantifier each starts at the row
  and its segments lead to a member of the row's type, inside each starts at the element and leads
  to a member of the element type, and no quantifier stands in another. In such a formula the names
  can be taken at their word: `Formula.holdsIn` looks each of them up, and comes to the same
  (`Formula.WellScoped.holdsIn_eq`).

  A compiled criterion speaks of one member and no other (`Criterion.MemberRule.isAbout`, rule by
  rule), so its formula is scoped as that member's path is, and connectors keep it so.
-/
import Winnow.Proofs.Compilation
import Winnow.Proofs.Construction
import Winnow.Proofs.SortKeyPath

namespace Winnow

variable {ι ρ : Type}

/-! ## The members that a formula speaks of -/

/-- Of the path of every member in the term, `P` holds. -/
def Term.Each (P : MemberPath → Prop) : Term → Prop
  | .member path => P path
  | .constant _ => True
  | .trim t | .normalize t | .bits t => t.Each P
  | .bitOr a b => a.Each P ∧ b.Each P

/-- Of the path of every member outside of a quantifier `P` holds, and of every quantifier, its
collection and what it asks of the elements, `Q`. -/
def Formula.Each (P : MemberPath → Prop) (Q : MemberPath → Formula → Prop) : Formula → Prop
  | .constant _ => True
  | .and f g | .or f g => f.Each P Q ∧ g.Each P Q
  | .not f => f.Each P Q
  | .compare _ a b | .textTest _ a b => a.Each P ∧ b.Each P
  | .oneOf _ item => item.Each P
  | .spatial _ target _ _ => target.Each P
  | .any collection f => Q collection f

theorem Term.Each.mono {P P' : MemberPath → Prop} (hP : ∀ path, P path → P' path) {t : Term}
    (h : t.Each P) : t.Each P' := by
  induction t with
  | member path => exact hP path h
  | constant => trivial
  | trim t ih | normalize t ih | bits t ih => exact ih h
  | bitOr a b iha ihb => exact ⟨iha h.1, ihb h.2⟩

theorem Formula.Each.mono {P P' : MemberPath → Prop} {Q Q' : MemberPath → Formula → Prop}
    (hP : ∀ path, P path → P' path) (hQ : ∀ path g, Q path g → Q' path g) {f : Formula}
    (h : f.Each P Q) : f.Each P' Q' := by
  induction f with
  | constant => trivial
  | and f g ihf ihg | or f g ihf ihg => exact ⟨ihf h.1, ihg h.2⟩
  | not f ih => exact ih h
  | compare | textTest => exact ⟨h.1.mono hP, h.2.mono hP⟩
  | oneOf | spatial => exact Term.Each.mono hP h
  | any collection f => exact hQ collection f h

/-- Every member in the formula is the one at the path, and there is no quantifier. -/
def Formula.IsAbout (path : MemberPath) (f : Formula) : Prop :=
  f.Each (· = path) fun _ _ => False

/-! ## A criterion speaks of one member -/

namespace Criterion

open Formula

variable {path : MemberPath}

theorem each_sides (normalize : Bool) (value : Value) :
    (sides normalize (.member path) value).1.Each (· = path) ∧
      (sides normalize (.member path) value).2.Each (· = path) := by
  unfold sides
  split <;> exact ⟨rfl, trivial⟩

theorem isAbout_guardedIf (nullable : Bool) {f : Formula} (hf : f.IsAbout path) :
    (guardedIf nullable (.member path) f).IsAbout path := by
  cases nullable with
  | false => exact hf
  | true => exact ⟨⟨rfl, trivial⟩, hf⟩

theorem isAbout_negatedIf (negated : Bool) {f : Formula} (hf : f.IsAbout path) :
    (negatedIf negated f).IsAbout path := by
  cases negated <;> exact hf

theorem ScalarRule.isAbout {o : Options} {kind : Kind} {nullable : Bool} {c : Criterion}
    {f : Formula} (h : ScalarRule o (.member path) kind nullable c f) : f.IsAbout path := by
  cases h with
  | equal =>
    unfold equalFormula
    split
    · exact ⟨rfl, trivial⟩
    · exact isAbout_guardedIf nullable (each_sides _ _)
  | notEqual =>
    unfold notEqualFormula
    split
    · exact ⟨rfl, trivial⟩
    · cases nullable with
      | false => exact each_sides _ _
      | true => exact ⟨⟨rfl, trivial⟩, each_sides _ _⟩
  | affix => exact ⟨⟨rfl, trivial⟩, each_sides _ _⟩
  | order => exact isAbout_guardedIf nullable ⟨rfl, trivial⟩
  | range => exact isAbout_guardedIf nullable ⟨⟨rfl, trivial⟩, ⟨rfl, trivial⟩⟩
  | empty | notEmpty => exact ⟨rfl, trivial⟩
  | blank | notBlank => exact ⟨⟨rfl, trivial⟩, ⟨rfl, trivial⟩⟩
  | oneOf => exact isAbout_negatedIf _ rfl
  | contains =>
    split
    · exact isAbout_guardedIf nullable (each_sides _ _)
    · exact each_sides _ _

theorem EnumRule.isAbout {c : Criterion} {f : Formula} (h : EnumRule (.member path) c f) :
    f.IsAbout path := by
  cases h with
  | equal | notEqual => exact ⟨rfl, trivial⟩
  | oneOf => exact isAbout_negatedIf _ rfl
  | flags => exact isAbout_negatedIf _ ⟨⟨rfl, trivial⟩, trivial⟩

theorem SpatialRule.isAbout {c : Criterion} {f : Formula} (h : SpatialRule (.member path) c f) :
    f.IsAbout path := by
  cases h with
  | test => exact ⟨⟨rfl, trivial⟩, rfl⟩

/-- The formula for a member is made from that member and constants. -/
theorem MemberRule.isAbout {o : Options} {r : ResolvedMember ι} {c : Criterion} {f : Formula}
    (h : MemberRule o r c f) : f.IsAbout r.path := by
  cases h with
  | isNull | isNotNull => exact ⟨rfl, trivial⟩
  | enum _ _ hf => exact hf.isAbout
  | spatial _ hf => exact hf.isAbout
  | scalar _ _ _ _ hf => exact hf.isAbout

end Criterion

/-! ## Scopes -/

/-- The path starts at the parameter, and its segments lead to a member of the record type. -/
def Family.Scopes (family : Family ι) (parameter : String) (i : ι) (path : MemberPath) : Prop :=
  path.parameter = parameter ∧ ∃ type, family.HasMember i path type

/-- The paths in the formula are where they belong, those of rows of the record type and those of
elements, and no quantifier stands in another. -/
def Formula.WellScoped (family : Family ι) (i : ι) (f : Formula) : Prop :=
  f.Each (family.Scopes rowParameter i) fun collection g =>
    ∃ element, collection.parameter = rowParameter ∧
      family.HasMember i collection (.collection element) ∧
      g.Each (family.Scopes elementParameter element) fun _ _ => False

namespace Criterion

variable {family : Family ι} {o : Options} {i : ι} {c : Criterion} {f : Formula}

/-- A criterion compiled for a member of a type speaks of members of that type only. -/
theorem scopes_of_compileAt {segments : List String} {parameter : String}
    (h : c.compileAt family o i segments parameter = .ok f) :
    f.Each (family.Scopes parameter i) fun _ _ => False := by
  obtain ⟨r, hr, hf⟩ := compileAt_eq_ok_iff.mp h
  have hreaches := Family.resolve_eq_ok_iff.mp hr
  refine (memberRule_of_memberFormula hf).isAbout.mono ?_ fun _ _ hany => hany
  rintro path rfl
  exact ⟨hreaches.parameter_eq, r.type, hreaches.hasMember⟩

theorem wellScoped_of_compile (h : c.compile family o i = .ok f) : f.WellScoped family i := by
  rcases compile_eq_ok_iff.mp h with
    ⟨segments, -, hf⟩ | ⟨base, inner, r, element, g, -, hr, ht, hg, rfl⟩
  · exact (scopes_of_compileAt hf).mono (fun _ hpath => hpath) fun _ _ hany => hany.elim
  · have hreaches := Family.resolve_eq_ok_iff.mp hr
    exact ⟨element, hreaches.parameter_eq, ht ▸ hreaches.hasMember, scopes_of_compileAt hg⟩

end Criterion

/-! ## Evaluation by names -/

/-- The records that names stand for. -/
abbrev Bindings (ρ : Type) := String → Option ρ

/-- One more name, which hides the record that it stood for. -/
def Bindings.with (env : Bindings ρ) (parameter : String) (r : ρ) : Bindings ρ :=
  fun name => if name = parameter then some r else env name

theorem Bindings.with_self (env : Bindings ρ) (parameter : String) (r : ρ) :
    env.with parameter r parameter = some r :=
  if_pos rfl

variable [Record ρ]

/-- Reads a path from the record that its parameter stands for, if it stands for one. -/
def MemberPath.readIn (env : Bindings ρ) (path : MemberPath) : Reading ρ :=
  match env path.parameter with
  | some r => path.read r
  | none => .null

/-- Reads a term, each member from the record that is named. -/
def Term.readIn (env : Bindings ρ) : Term → Reading ρ
  | .member path => path.readIn env
  | .constant v => .ofValue v
  | .trim t => onText Winnow.trim (t.readIn env)
  | .normalize t => onText normalizeText (t.readIn env)
  | .bits t => bitsOf (t.readIn env)
  | .bitOr a b => unionOf (a.readIn env) (b.readIn env)

/-- The formula holds where its names stand for records; a quantifier lets the element's name stand
for one element after the other. -/
def Formula.holdsIn : Formula → Bindings ρ → Bool
  | .constant b, _ => b
  | .and f g, env => f.holdsIn env && g.holdsIn env
  | .or f g, env => f.holdsIn env || g.holdsIn env
  | .not f, env => !f.holdsIn env
  | .compare c a b, env => c.holds (a.readIn env) (b.readIn env)
  | .textTest t target argument, env => t.holds (target.readIn env) (argument.readIn env)
  | .oneOf items item, env =>
    items.any fun v => (Reading.ofValue v : Reading ρ).equals (item.readIn env)
  | .spatial t target geometry distance, env => passes t geometry distance (target.readIn env)
  | .any collection f, env =>
    (elements (collection.readIn env)).any fun r => f.holdsIn (env.with elementParameter r)

theorem MemberPath.readIn_eq {env : Bindings ρ} {r : ρ} {path : MemberPath}
    (h : env path.parameter = some r) : path.readIn env = path.read r := by
  rw [readIn, h]

theorem Term.readIn_eq {env : Bindings ρ} {r : ρ} {t : Term}
    (h : t.Each fun path => env path.parameter = some r) : t.readIn env = t.read r := by
  induction t with
  | member path => exact MemberPath.readIn_eq h
  | constant => rfl
  | trim t ih | normalize t ih | bits t ih => simp only [readIn, read, ih h]
  | bitOr a b iha ihb => simp only [readIn, read, iha h.1, ihb h.2]

/-- Names do not matter where all outside of quantifiers stand for one record, and what is asked of
elements does not depend on them either. -/
theorem Formula.holdsIn_eq {env : Bindings ρ} {r : ρ} {f : Formula}
    (h : f.Each (fun path => env path.parameter = some r) fun collection g =>
      env collection.parameter = some r ∧
        ∀ element, g.holdsIn (env.with elementParameter element) = g.holds element) :
    f.holdsIn env = f.holds r := by
  induction f with
  | constant => rfl
  | and f g ihf ihg | or f g ihf ihg => simp only [holdsIn, holds, ihf h.1, ihg h.2]
  | not f ih => simp only [holdsIn, holds, ih h]
  | compare | textTest => simp only [holdsIn, holds, Term.readIn_eq h.1, Term.readIn_eq h.2]
  | oneOf | spatial => simp only [holdsIn, holds, Term.readIn_eq h]
  | any collection f =>
    obtain ⟨hcollection, helements⟩ := h
    simp only [holdsIn, holds, MemberPath.readIn_eq hcollection, helements]

omit [Record ρ] in
theorem Family.Scopes.with_eq {family : Family ι} {parameter : String} {i : ι} {path : MemberPath}
    (h : family.Scopes parameter i path) (env : Bindings ρ) (r : ρ) :
    env.with parameter r path.parameter = some r := by
  rw [h.1, Bindings.with_self]

/-- In a formula that is well scoped, the names stand for the records that are read. -/
theorem Formula.WellScoped.holdsIn_eq {family : Family ι} {i : ι} {f : Formula}
    (h : f.WellScoped family i) (env : Bindings ρ) (row : ρ) :
    f.holdsIn (env.with rowParameter row) = f.holds row := by
  refine Formula.holdsIn_eq (h.mono (fun _ hpath => hpath.with_eq env row) ?_)
  rintro collection g ⟨element, hparameter, hcollection, hg⟩
  have hbound : family.Scopes rowParameter i collection := ⟨hparameter, _, hcollection⟩
  refine ⟨hbound.with_eq env row, fun r => ?_⟩
  exact Formula.holdsIn_eq (hg.mono (fun _ hpath => hpath.with_eq _ r) fun _ _ hany => hany.elim)

/-! ## Compiled predicates -/

/-- **Compiled predicates are well scoped.**

    For every family of record types and every list of criteria sets that compiles for rows of one
    of them: each path outside of a quantifier starts at the row and leads to a member of the row's
    type by its own segments, and a quantifier's collection is such a path, to a collection. Each
    path inside starts at the element and leads to a member of the type of that collection's
    elements, and there is no quantifier inside another.

    So the predicate accepts the rows that it accepts when every path is read from the record that
    its parameter names, whatever other names stand for. -/
theorem Predicate.compileAll_wellScoped {family : Family ι} {o : Options} {i : ι}
    {sets : List CriteriaSet} {p : Predicate}
    (hp : Predicate.compileAll family o i sets = .ok p) :
    p.formula.WellScoped family i ∧
      ∀ (ρ : Type) [Record ρ] (env : Bindings ρ) (row : ρ),
        p.formula.holdsIn (env.with rowParameter row) = p.accepts row := by
  have hscoped : p.formula.WellScoped family i :=
    Predicate.compileAll_induction trivial (fun _ _ hf hg => ⟨hf, hg⟩)
      (fun _ _ hf hg => ⟨hf, hg⟩)
      (fun _ _ _ _ _ hf => Criterion.wellScoped_of_compile hf) hp
  exact ⟨hscoped, fun ρ _ env row => hscoped.holdsIn_eq env row⟩

namespace Sample

/-- A criterion for the address and one for the orders, where every name but the row's stands for
someone else. -/
theorem compileAll_wellScoped_customer :
    ∃ p, Predicate.compileAll shop ⟨true⟩ .person
        [⟨[cityWithout "lis", noteWithout "heavy"]⟩] = .ok p ∧
      p.formula.WellScoped shop .person ∧
      p.formula.holdsIn (Bindings.with (fun _ => some stranger) rowParameter customer) =
        p.accepts customer := by
  obtain ⟨p, hp⟩ : ∃ p, Predicate.compileAll shop ⟨true⟩ .person
      [⟨[cityWithout "lis", noteWithout "heavy"]⟩] = .ok p := ⟨_, rfl⟩
  obtain ⟨hscoped, hnamed⟩ := Predicate.compileAll_wellScoped hp
  exact ⟨p, hp, hscoped, hnamed Row (fun _ => some stranger) customer⟩

end Sample

end Winnow
