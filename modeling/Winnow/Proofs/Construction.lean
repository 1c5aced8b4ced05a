/-
  Criteria that exist: what checking an operand's type once, when a criterion is built, says of
  its value ever after.

  `Criterion.Built` are the criteria that can be obtained: from a value of a type, for a type
  without a value, and by another connector. `Value.Fits` says what a value of a type is as an
  operand: a null, a single value of the type's kind, or a list of nulls and values of the item
  kind. Conversion gives such values, whatever types are nested (`fits_toValue`); hence every
  built criterion has an operand that fits its type and an operator that the type supports
  (`Built.sound`).

  `Sound.kind_eq_operandKind` and `Sound.item_kind` are the forms in which compilation uses it: a
  single operand, and each item of a list, is of the kind that a member is checked for.
-/
import Winnow.Criteria.CriteriaSet

namespace Winnow

/-! ## Operands of a type -/

/-- What an operand of a type is. -/
def Value.Fits (t : OperandType) : Value → Prop
  | .null => True
  | .scalar s => s.kind = t.kind
  | .list items =>
    t.kind = .array ∧ ∃ k, t.element = some k ∧ ∀ v ∈ items, v = .null ∨ v.kind? = some k

theorem Value.Fits.kind? {t : OperandType} {v : Value} (h : v.Fits t) :
    v = .null ∨ v.kind? = some t.kind := by
  cases v with
  | null => exact Or.inl rfl
  | scalar s => exact Or.inr (congrArg some h)
  | list items => exact Or.inr (congrArg some h.1.symm)

/-- A null added to a type keeps its operands. -/
theorem Value.Fits.nullableOf {t : OperandType} {v : Value} (h : v.Fits t) (name : String) :
    v.Fits (.nullableOf t name) := by
  cases v <;> exact h

/-- Every value of a type is converted to an operand of the type. -/
theorem ValueType.fits_toValue (t : ValueType) (v : t.Carrier) :
    (t.toValue v).Fits t.operandType := by
  induction t with
  | scalar t => exact t.kind_toScalar v
  | optional inner ih =>
    cases v with
    | none => exact trivial
    | some w => exact (ih w).nullableOf _
  | sequence form item ih =>
    refine ⟨rfl, item.operandType.kind, rfl, ?_⟩
    intro w hw
    obtain ⟨a, _, rfl⟩ := List.mem_map.mp hw
    exact (ih a).kind?

/-- A value of a type that is not recorded as nullable is not converted to a null. -/
theorem ValueType.toValue_ne_null {t : ValueType} (h : t.operandType.nullable = false)
    (v : t.Carrier) : t.toValue v ≠ .null := by
  cases t with
  | scalar t => exact Value.noConfusion
  | optional inner => exact absurd h (by simp [operandType, OperandType.nullableOf])
  | sequence form item => exact Value.noConfusion

/-- The kind that a member is checked for is the operand's own, unless it is a list. -/
theorem OperandType.operandKind_of_ne_array {t : OperandType} (h : t.kind ≠ .array) :
    t.operandKind = t.kind := by
  unfold OperandType.operandKind
  split
  · next hk _ => exact absurd hk h
  · next => rfl

theorem OperandType.operandKind_of_element {t : OperandType} {k : Kind} (h : t.kind = .array)
    (he : t.element = some k) : t.operandKind = k := by
  unfold OperandType.operandKind
  rw [h, he]

/-! ## Building -/

namespace Criterion

/-- The criteria that can be obtained. -/
inductive Built : Criterion → Prop where
  | new {t : ValueType} {property : String} {op : Operator} {value : t.Carrier}
      {value2 : Option Value} {connector : Connector} {c : Criterion}
      (h : Criterion.new t property op value value2 connector = .ok c) : Built c
  | ofType {t : ValueType} {property : String} {op : Operator} {connector : Connector}
      {c : Criterion} (h : Criterion.ofType t property op connector = .ok c) : Built c
  | joined {c : Criterion} (connector : Connector) (h : Built c) :
      Built { c with connector := connector }

theorem typed_eq_ok_iff {t : OperandType} {property : String} {op : Operator}
    {value value2 : Value} {connector : Connector} {c : Criterion} :
    typed t property op value value2 connector = .ok c ↔
      fault? t property op value2 = none ∧ c = ⟨property, op, connector, value, value2, t⟩ := by
  unfold typed
  cases fault? t property op value2 with
  | none => simp [eq_comm]
  | some e => simp

/-- A criterion without a fault has an operator that its type supports. -/
theorem supports_of_fault? {t : OperandType} {property : String} {op : Operator}
    {value2 : Value} (h : fault? t property op value2 = none) : t.supports op = true := by
  unfold fault? at h
  split at h
  · exact absurd h (by simp)
  · split at h
    · exact absurd h (by simp)
    · next hs => simpa using hs

/-- The operator and the value of a criterion suit the type it was built with. -/
structure Sound (c : Criterion) : Prop where
  supports : c.type.supports c.operator = true
  fits : c.value.Fits c.type

theorem sound_of_typed {t : OperandType} {property : String} {op : Operator}
    {value value2 : Value} {connector : Connector} {c : Criterion}
    (h : typed t property op value value2 connector = .ok c) (hv : value.Fits t) : c.Sound := by
  obtain ⟨hf, rfl⟩ := typed_eq_ok_iff.mp h
  exact ⟨supports_of_fault? hf, hv⟩

theorem Built.sound {c : Criterion} (h : c.Built) : c.Sound := by
  induction h with
  | new h => exact sound_of_typed h (ValueType.fits_toValue _ _)
  | ofType h => exact sound_of_typed h trivial
  | joined connector _ ih => exact ⟨ih.supports, ih.fits⟩

/-- A single operand is of the kind that a member is checked for. -/
theorem Sound.kind_eq_operandKind {c : Criterion} (h : c.Sound) {s : Scalar}
    (hv : c.value = .scalar s) : s.kind = c.operandKind := by
  have hfits := h.fits
  rw [hv] at hfits
  have hk : c.type.kind ≠ .array := fun ha => s.kind_ne_array (hfits.trans ha)
  exact hfits.trans (OperandType.operandKind_of_ne_array hk).symm

/-- Each item of a list is null or of the kind that a member is checked for. -/
theorem Sound.item_kind {c : Criterion} (h : c.Sound) {items : List Value}
    (hv : c.value = .list items) {v : Value} (hmem : v ∈ items) :
    v = .null ∨ v.kind? = some c.operandKind := by
  have hfits := h.fits
  rw [hv] at hfits
  obtain ⟨ha, k, he, hitems⟩ := hfits
  have hk : c.operandKind = k := OperandType.operandKind_of_element ha he
  rw [hk]
  exact hitems v hmem

/-- A list is the operand of a test for membership, or of a null test, which reads none. -/
theorem Sound.operator_of_list {c : Criterion} (h : c.Sound) {items : List Value}
    (hv : c.value = .list items) :
    c.operator.isMembership = true ∨ c.operator = .isNull ∨ c.operator = .isNotNull := by
  have hfits := h.fits
  have hsupports := h.supports
  rw [hv] at hfits
  unfold OperandType.supports at hsupports
  rw [hfits.1] at hsupports
  cases hop : c.operator <;>
    simp_all [Kind.operators, OperandType.nullOperators, Operator.isMembership]

/-- Only a test for membership has a list, apart from null tests. -/
theorem Sound.items?_eq_none {c : Criterion} (hc : c.Sound)
    (hmembership : c.operator.isMembership = false) (hnull : c.operator ≠ .isNull)
    (hnotNull : c.operator ≠ .isNotNull) : c.value.items? = none := by
  cases hv : c.value with
  | list items =>
    rcases hc.operator_of_list hv with h | h | h
    · rw [h] at hmembership
      exact absurd hmembership (by simp)
    · exact absurd h hnull
    · exact absurd h hnotNull
  | _ => rfl

/-- A single operand is null or of the kind that a member is checked for. -/
theorem Sound.kind_of_items?_none {c : Criterion} (hc : c.Sound) (hv : c.value.items? = none) :
    c.value = .null ∨ c.value.kind? = some c.operandKind := by
  cases h : c.value with
  | null => exact Or.inl rfl
  | scalar s => exact Or.inr (congrArg some (hc.kind_eq_operandKind h))
  | list items =>
    rw [h] at hv
    exact absurd hv (by simp [Value.items?])

/-- Equality is no test for membership, so its operand is not a list. -/
theorem Sound.items?_of_equality {c : Criterion} (h : c.Sound)
    (hop : c.operator = .equal ∨ c.operator = .notEqual) : c.value.items? = none := by
  rcases hop with hop | hop
  · exact h.items?_eq_none (by rw [hop]; rfl) (by simp [hop]) (by simp [hop])
  · exact h.items?_eq_none (by rw [hop]; rfl) (by simp [hop]) (by simp [hop])

end Criterion

/-! ## Two criteria -/

namespace Sample

/-- The text of the city does not contain a part: a member that is not nullable, in a record that
may be null. -/
def cityWithout (part : String) : Criterion :=
  ⟨"address.city", .notContains, .and, .scalar (.text part), .null, .scalar .text "str"⟩

theorem built_cityWithout (part : String) : (cityWithout part).Built :=
  .new (show Criterion.new (.scalar (.text .borrowed)) "address.city" .notContains part none .and =
    .ok (cityWithout part) from rfl)

/-- Some order has a note without a part. -/
def noteWithout (part : String) : Criterion :=
  ⟨"orders[note]", .notContains, .and, .scalar (.text part), .null, .scalar .text "str"⟩

theorem built_noteWithout (part : String) : (noteWithout part).Built :=
  .new (show Criterion.new (.scalar (.text .borrowed)) "orders[note]" .notContains part none .and =
    .ok (noteWithout part) from rfl)

end Sample

end Winnow
