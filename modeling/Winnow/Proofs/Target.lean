/-
  The member that a criterion is about.

  A property path leads to a member of the row, or to one of the elements of a collection in the
  row. `Criterion.target` finds it from the path alone. `compile_eq_target` takes compilation apart
  at this place: first the target, then the formula for its member, then the question whether some
  record at hand holds it. So an error of the path is the same for all operators, operands and
  options, and what a formula asks of one member is all that the rows at the end are asked
  (`Target.holds_quantify`).
-/
import Winnow.Proofs.Compilation

namespace Winnow

variable {ι ρ : Type}

/-- A member of the row, or of the elements of a collection in it. -/
structure Target (ι : Type) where
  collection : Option MemberPath
  member : ResolvedMember ι

/-- What a criterion is about: the member at the end of its path. -/
def Criterion.target (family : Family ι) (i : ι) (c : Criterion) : Except Error (Target ι) := do
  match ← PropertyPath.parse c.property with
  | .plain segments =>
    let r ← family.resolve i segments rowParameter
    return ⟨none, r⟩
  | .bracketed base inner =>
    let r ← family.resolve i base rowParameter
    match r.type with
    | .collection element =>
      let s ← family.resolve element inner elementParameter
      return ⟨some r.path, s⟩
    | _ => .error (.notACollection (trim c.property) (r.path.segments.getLast?.getD "") r.owner)

namespace Target

/-- The formula, asked of the row, or of some element of the collection. -/
def quantify (t : Target ι) (f : Formula) : Formula :=
  match t.collection with
  | none => f
  | some collection => .any collection f

variable [Record ρ]

/-- The records that have the member: the row itself, or the elements of the collection. -/
def records (t : Target ι) (row : ρ) : List ρ :=
  match t.collection with
  | none => [row]
  | some collection => Formula.elements (collection.read row)

/-- What the records hold for the member. -/
def readings (t : Target ι) (row : ρ) : List (Reading ρ) :=
  (t.records row).map fun r => t.member.path.read r

theorem holds_quantify (t : Target ι) (f : Formula) (row : ρ) :
    (t.quantify f).holds row = (t.records row).any fun r => f.holds r := by
  obtain ⟨collection, member⟩ := t
  cases collection with
  | none => simp [quantify, records]
  | some collection => simp [quantify, records, Formula.holds]

end Target

namespace Criterion

/-- Compilation finds the target and makes the formula for its member. -/
theorem compile_eq_target (family : Family ι) (o : Options) (i : ι) (c : Criterion) :
    c.compile family o i =
      (c.target family i).bind fun t => (memberFormula family o t.member c).map t.quantify := by
  unfold target
  cases hs : PropertyPath.parse c.property with
  | error e => exact compile_of_parse_error hs
  | ok path =>
    cases path with
    | plain segments =>
      rw [compile_of_plain hs]
      simp only [compileAt, bind, Except.bind, pure, Except.pure]
      cases family.resolve i segments rowParameter with
      | error e => rfl
      | ok r =>
        show memberFormula family o r c =
          (memberFormula family o r c).map (Target.quantify ⟨none, r⟩)
        cases memberFormula family o r c <;> rfl
    | bracketed base inner =>
      cases hr : family.resolve i base rowParameter with
      | error e =>
        rw [compile_of_bracketed_error hs hr]
        simp only [hr, bind, Except.bind]
      | ok r =>
        cases ht : r.type with
        | scalar | record =>
          rw [compile_of_bracketed_other hs hr (by simp [ht])]
          simp only [hr, ht, bind, Except.bind]
        | collection element =>
          rw [compile_of_bracketed_collection hs hr ht]
          simp only [hr, ht, compileAt, bind, Except.bind, pure, Except.pure]
          cases family.resolve element inner elementParameter with
          | error e => rfl
          | ok s =>
            show (memberFormula family o s c).map (.any r.path) =
              (memberFormula family o s c).map (Target.quantify ⟨some r.path, s⟩)
            rfl

variable {family : Family ι} {o : Options} {i : ι} {c : Criterion} {t : Target ι}

theorem compile_of_target (h : c.target family i = .ok t) :
    c.compile family o i = (memberFormula family o t.member c).map t.quantify := by
  rw [compile_eq_target, h]
  rfl

/-- Two criteria with one path are about one member. -/
theorem target_of_property {c' : Criterion} (h : c'.property = c.property) :
    c'.target family i = c.target family i := by
  simp only [target, h]

/-- The predicate of a criterion asks for some record at hand that the formula for the member holds
of. -/
theorem compile_singleton_of_target (h : c.target family i = .ok t) {p : Predicate} :
    Predicate.compile family o i ⟨[c]⟩ = .ok p ↔
      ∃ f, memberFormula family o t.member c = .ok f ∧ p = ⟨t.quantify f⟩ := by
  rw [Predicate.compile_singleton, compile_of_target h]
  cases memberFormula family o t.member c with
  | error e => simp [Except.map]
  | ok f => simp [Except.map, eq_comm]

end Criterion

/-- A predicate with the formula of a target accepts the rows in which some record passes. -/
theorem Target.accepts_eq [Record ρ] (t : Target ι) (f : Formula) (row : ρ) :
    (⟨t.quantify f⟩ : Predicate).accepts row = (t.records row).any fun r => f.holds r :=
  t.holds_quantify f row

end Winnow
