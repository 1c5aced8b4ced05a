/-
  What comes of one step: the criterion that it describes, checked, resolved and compiled.

  `Step.predicate` is the predicate of a step that is taken on the empty set. It is found by the
  steps that the lemmas here take apart: the checks of the described criterion
  (`predicate_of_described?`), and the formula for its member, by the sort of the member
  (`memberFormula_of_ne`) and by the operator. `predicate_of_memberFormula` goes the other way: what
  there has to be for the step to come to a predicate.
-/
import Winnow.Proofs.Meaning
import Winnow.Proofs.WellTyped

namespace Winnow

variable {ι ρ : Type} {family : Family ι} {o : Options} {i : ι}

namespace Criterion

open Formula

/-! ## The formula for a member -/

/-- An operator by order makes a formula exactly for the kinds with an order. -/
theorem scalarFormula?_of_comparison? {c : Criterion} {comparison : Comparison}
    (hop : c.operator.comparison? = some comparison) (o : Options) (m : Term) (kind : Kind)
    (nullable : Bool) :
    scalarFormula? o m kind nullable c =
      if kind.accepts c.operandKind = true ∧ kind.isOrdered = true then
        some (guardedIf nullable m (.compare comparison m (.constant c.value)))
      else none := by
  obtain ⟨property, op, connector, value, value2, type⟩ := c
  unfold scalarFormula?
  cases ha : kind.accepts (operandKind ⟨property, op, connector, value, value2, type⟩) with
  | false => simp
  | true =>
    cases hk : kind.isOrdered with
    | false => cases op <;> cases hop <;> simp [Operator.isMembership]
    | true =>
      have hwiden := Value.widenTo_of_ne_text (ne_text_of_isOrdered hk) value
      cases op <;> cases hop <;> simp [Operator.isMembership, Operator.comparison?, hwiden]

theorem enumFormula?_of_ne_enum {c : Criterion} (h : c.operandKind ≠ .enum) (m : Term) :
    enumFormula? m c = none := by
  rw [enumFormula?, if_pos h]

variable {c : Criterion}

/-- The formula that there may be for a criterion, or the refusal of the criterion. -/
def orUnsupported (c : Criterion) (f? : Option Formula) : Except Error Formula :=
  f?.elim (.error c.unsupported) .ok

theorem orUnsupported_eq_ok_iff {f? : Option Formula} {f : Formula} :
    c.orUnsupported f? = .ok f ↔ f? = some f := by
  cases f? <;> simp [orUnsupported]

/-- Operators that are no null tests suit single values only. -/
theorem memberFormula_of_ne {r : ResolvedMember ι} (hnull : c.operator ≠ .isNull)
    (hnotNull : c.operator ≠ .isNotNull) :
    memberFormula family o r c =
      match r.type with
      | .scalar .enum => c.orUnsupported (enumFormula? (.member r.path) c)
      | .scalar .spatial => c.orUnsupported (spatialFormula? (.member r.path) c)
      | .scalar kind => c.orUnsupported (scalarFormula? o (.member r.path) kind r.nullable c)
      | type => .error (.unsupportedOperation c.operator (type.describe family)) := by
  unfold memberFormula
  dsimp only
  split
  · next hop => exact absurd hop hnull
  · next hop => exact absurd hop hnotNull
  · next ht _ _ =>
    rw [ht]
    cases enumFormula? (.member r.path) c <;> rfl
  · next ht _ _ =>
    rw [ht]
    cases spatialFormula? (.member r.path) c <;> rfl
  · next kind henum hspatial ht _ _ =>
    rw [ht]
    cases kind <;>
      first
        | exact absurd rfl henum
        | exact absurd rfl hspatial
        | (show _ = c.orUnsupported (scalarFormula? o (.member r.path) _ r.nullable c)
           cases scalarFormula? o (.member r.path) _ r.nullable c <;> rfl)
  · next hscalar =>
    cases ht : r.type with
    | scalar kind => exact absurd ht (hscalar kind)
    | _ => rfl

/-- Members that are neither enums nor geometries have the formulas for single values. -/
theorem memberFormula_of_scalar {r : ResolvedMember ι} {kind : Kind}
    (hnull : c.operator ≠ .isNull) (hnotNull : c.operator ≠ .isNotNull)
    (ht : r.type = .scalar kind) (henum : kind ≠ .enum) (hs : kind ≠ .spatial) :
    memberFormula family o r c =
      c.orUnsupported (scalarFormula? o (.member r.path) kind r.nullable c) := by
  rw [memberFormula_of_ne hnull hnotNull, ht]
  cases kind <;> first | exact absurd rfl henum | exact absurd rfl hs | rfl

end Criterion

/-! ## Steps -/

/-- What a criterion may find at the end of its path in a record that conforms, for a member with
single values. -/
theorem ofKind_read {r : ResolvedMember ι} {segments : List String} {kind : Kind}
    (hr : family.Reaches rowParameter i segments r) (ht : r.type = .scalar kind) [Record ρ] {row : ρ}
    (hrow : family.Conforms i row) :
    (r.path.read row).OfKind kind ∧ (r.path.read row = .null → r.nullable = true) := by
  rw [hr.read_eq_valueAt row]
  rcases hr.scalar_valueAt ht hrow with ⟨hnull, hn⟩ | hkind
  · exact ⟨Or.inl hnull, fun _ => hn⟩
  · exact ⟨Or.inr hkind, fun hnull => absurd hkind (by simp [hnull, Reading.kind?])⟩

namespace CriteriaSet

variable {st : Step} {c : Criterion}

/-- What comes of a step on its own: the predicate of the criterion that it adds. -/
def Step.predicate (family : Family ι) (o : Options) (i : ι) (st : Step) :
    Except Error Predicate :=
  (empty.step st).bind (Predicate.compile family o i)

/-- A step builds the criterion that it describes, which is then compiled. -/
theorem predicate_of_described? (h : st.described? = some c) :
    st.predicate family o i =
      (Criterion.typed c.type c.property c.operator c.value c.value2 c.connector).bind
        fun built => (built.compile family o i).map Predicate.mk := by
  rw [Step.predicate, step_of_described? empty h, append]
  cases Criterion.typed c.type c.property c.operator c.value c.value2 c.connector with
  | error e => rfl
  | ok built => exact Predicate.compile_singleton family o i built

/-- If the described criterion passes its checks and has a formula for the member at the end of its
path, the predicate is that formula. -/
theorem predicate_of_memberFormula {segments : List String} {r : ResolvedMember ι} {f : Formula}
    (h : st.described? = some c) (hall : ∀ k, c.Passes k)
    (hpath : PropertyPath.parse c.property = .ok (.plain segments))
    (hr : family.resolve i segments rowParameter = .ok r)
    (hf : Criterion.memberFormula family o r c = .ok f) :
    st.predicate family o i = .ok ⟨f⟩ := by
  have hbuilt : Criterion.typed c.type c.property c.operator c.value c.value2 c.connector = .ok c :=
    (c.decides_typed.1 c).mpr ⟨hall, rfl⟩
  have hcompile : c.compile family o i = .ok f := by
    rw [Criterion.compile_of_plain hpath]
    exact Criterion.compileAt_eq_ok_iff.mpr ⟨r, hr, hf⟩
  rw [predicate_of_described? h, hbuilt]
  show (c.compile family o i).map Predicate.mk = .ok ⟨f⟩
  rw [hcompile]
  rfl

/-- At a path without brackets there is a predicate only if the checks are passed, and it is the
formula for the member. -/
theorem memberFormula_of_predicate {segments : List String} {r : ResolvedMember ι} {p : Predicate}
    (h : st.described? = some c) (hpath : PropertyPath.parse c.property = .ok (.plain segments))
    (hr : family.resolve i segments rowParameter = .ok r)
    (hp : st.predicate family o i = .ok p) :
    (∀ k, c.Passes k) ∧ Criterion.memberFormula family o r c = .ok p.formula := by
  rw [predicate_of_described? h] at hp
  cases hbuilt : Criterion.typed c.type c.property c.operator c.value c.value2 c.connector with
  | error e =>
    rw [hbuilt] at hp
    exact absurd hp (by simp [Except.bind])
  | ok built =>
    obtain ⟨hall, rfl⟩ := (c.decides_typed.1 built).mp hbuilt
    rw [hbuilt] at hp
    have hcompile : built.compile family o i = .ok p.formula := by
      rw [← Predicate.compile_singleton_eq_ok_iff, Predicate.compile_singleton]
      exact hp
    rw [Criterion.compile_of_plain hpath, Criterion.compileAt_eq_ok_iff] at hcompile
    obtain ⟨r', hr', hf⟩ := hcompile
    obtain rfl : r = r' := by simpa [hr] using hr'
    exact ⟨hall, hf⟩

end CriteriaSet

end Winnow
