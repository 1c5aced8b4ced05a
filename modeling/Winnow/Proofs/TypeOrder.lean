/-
  The values of one type as sort keys.

  Whatever a type of members is, its values are read as nulls and single values of one kind, and its
  numbers are of one representation; so its values that are not NaNs are sort keys
  (`exists_isKey_toReading`), which the comparison of keys orders up to ties. A NaN compares to
  nothing and ties with every value that is not a null.

  `keyOrder_trans_iff`, the main statement, says for every type what comes of the two: the
  comparison is an order up to ties, except that a NaN between two numbers hides their order.
-/
import Winnow.Types.Operand
import Winnow.Proofs.KeyOrder
import Winnow.Proofs.OwnOrder

namespace Winnow

variable {ρ : Type}

/-! ## Values that are NaNs -/

/-- The value is a floating-point number and a NaN. -/
def ScalarType.isNaN : (t : ScalarType) → t.Carrier → Bool
  | .single, x => Binary.isNaN (f := .single) x
  | .double, x => Binary.isNaN (f := .double) x
  | _, _ => false

/-- The value is a NaN. A missing value and a sequence are not. -/
def ValueType.isNaN : (t : ValueType) → t.Carrier → Bool
  | .scalar t, v => t.isNaN v
  | .optional inner, v =>
    match (v : Option inner.Carrier) with
    | none => false
    | some w => inner.isNaN w
  | .sequence _ _, _ => false

/-- What is read from a member that holds a NaN. -/
def Reading.nan : Reading ρ := .scalar (.number (.float .nan))

theorem ScalarType.reading_of_isNaN {t : ScalarType} {v : t.Carrier} (h : t.isNaN v = true) :
    (t.reading v : Reading ρ) = .nan := by
  cases t with
  | single =>
    cases (v : Single) with
    | nan => rfl
    | _ => exact absurd h Bool.false_ne_true
  | double =>
    cases (v : Double) with
    | nan => rfl
    | _ => exact absurd h Bool.false_ne_true
  | _ => exact absurd h Bool.false_ne_true

theorem ValueType.toReading_of_isNaN {t : ValueType} {v : t.Carrier} (h : t.isNaN v = true) :
    (t.toReading v : Reading ρ) = .nan := by
  induction t with
  | scalar t => exact ScalarType.reading_of_isNaN h
  | optional inner ih =>
    cases v with
    | none => exact absurd h Bool.false_ne_true
    | some w => exact ih h
  | sequence form item => exact absurd h Bool.false_ne_true

/-! ## Values that are sort keys -/

namespace ScalarType

/-- The representation of the numbers of a type; of a type without numbers it means nothing. -/
def numberForm : ScalarType → NumberForm
  | .integer t => if t.isSigned then .signed else .unsigned
  | _ => .float

theorem form_toNumber (t : IntegerType) (n : t.Carrier) :
    (t.toNumber n).form = (integer t).numberForm ∧ (t.toNumber n).isNaN = false := by
  cases hs : t.isSigned <;>
    simp [IntegerType.toNumber, numberForm, hs, Number.form, Number.isNaN]

theorem isKey_toScalar {t : ScalarType} {v : t.Carrier} (h : t.isNaN v = false) :
    (t.toScalar v).IsKey t.kind t.numberForm := by
  refine ⟨t.kind_toScalar v, fun n hn => ?_⟩
  cases t with
  | integer t =>
    obtain rfl : t.toNumber v = n := by
      injection hn
    exact form_toNumber t v
  | single =>
    obtain rfl : Number.float (Binary.widen v) = n := by
      injection hn
    cases (v : Single) with
    | nan => exact absurd h (by decide)
    | _ => exact ⟨rfl, rfl⟩
  | double =>
    obtain rfl : Number.float v = n := by
      injection hn
    exact ⟨rfl, h⟩
  | _ => exact Scalar.noConfusion hn

theorem compare?_reading (t : ScalarType) (v w : t.Carrier) :
    (t.reading v : Reading ρ).compare? (t.reading w : Reading ρ) =
      (t.toScalar v).compare? (t.toScalar w) := by
  rw [t.reading_eq, t.reading_eq, Reading.compare?]

end ScalarType

/-- The values of one type, NaNs apart, are read as keys of one kind and representation. -/
theorem ValueType.exists_isKey_toReading (t : ValueType) :
    ∃ kind form, ∀ v : t.Carrier, t.isNaN v = false →
      (t.toReading v : Reading ρ).IsKey kind form := by
  induction t with
  | scalar t =>
    refine ⟨t.kind, t.numberForm, fun v hv => ?_⟩
    exact Or.inr (Or.inr ⟨_, t.reading_eq v, ScalarType.isKey_toScalar hv⟩)
  | optional inner ih =>
    obtain ⟨kind, form, hkey⟩ := ih
    refine ⟨kind, form, fun v hv => ?_⟩
    cases v with
    | none => exact Or.inl rfl
    | some w => exact hkey w hv
  | sequence form item =>
    exact ⟨.array, .float, fun v _ => Or.inr (Or.inl ⟨rfl, _, rfl⟩)⟩

/-! ## NaNs as keys -/

namespace Reading

theorem compare?_nan_left (a : Reading ρ) : (nan : Reading ρ).compare? a = none := by
  cases a with
  | scalar s =>
    cases s with
    | number n =>
      exact (Binary.compare?_eq_none_iff (x := (.nan : Double)) (y := n.toDouble)).mpr (Or.inl rfl)
    | _ => rfl
  | _ => rfl

theorem compare?_nan_right (a : Reading ρ) : a.compare? (nan : Reading ρ) = none := by
  rw [compare?_swap nan, compare?_nan_left]
  rfl

/-- A key comes after another if it is a null and the other is none, or if its value is greater. -/
theorem compareKeys_eq_gt_iff (a b : Reading ρ) :
    a.compareKeys b = .gt ↔ (a = .null ∧ b ≠ .null) ∨ a.compare? b = some .gt := by
  cases a with
  | null => cases b <;> simp [compareKeys, compare?]
  | scalar s =>
    cases b with
    | scalar s' =>
      simp only [compareKeys, compare?, reduceCtorEq, false_and, false_or]
      cases s.compare? s' <;> simp
    | _ => simp [compareKeys, compare?]
  | _ => cases b <;> simp [compareKeys, compare?]

/-- A NaN ties with every value that is not a null. -/
theorem compareKeys_nan_left {a : Reading ρ} (h : a ≠ .null) :
    (nan : Reading ρ).compareKeys a = .eq := by
  have hnone := compare?_nan_left a
  cases a with
  | null => exact absurd rfl h
  | scalar s => exact congrArg (Option.getD · .eq) hnone
  | _ => rfl

theorem compareKeys_nan_right {a : Reading ρ} (h : a ≠ .null) :
    a.compareKeys (nan : Reading ρ) = .eq := by
  rw [compareKeys_swap nan, compareKeys_nan_left h]
  rfl

theorem ne_null_of_compare? {a b : Reading ρ} {o : Ordering} (h : a.compare? b = some o) :
    a ≠ .null ∧ b ≠ .null := by
  constructor
  · rintro rfl
    exact absurd h (by simp [compare?])
  · rintro rfl
    exact absurd h (by cases a <;> simp [compare?])

end Reading

/-! ## The order of a type -/

namespace ValueType

/-- The order of two values of a type as sort keys, read from records of a type. -/
def keyOrder (ρ : Type) (t : ValueType) (x y : t.Carrier) : Ordering :=
  (t.toReading x : Reading ρ).compareKeys (t.toReading y : Reading ρ)

/-- A value comes before another in the order of their type. Where there is no value, nothing
does. -/
def Before : (t : ValueType) → t.Carrier → t.Carrier → Prop
  | .scalar t, x, y => t.Before x y
  | .optional inner, x, y =>
    match (x : Option inner.Carrier), (y : Option inner.Carrier) with
    | some v, some w => inner.Before v w
    | _, _ => False
  | .sequence _ _, _, _ => False

/-- Values of a type that has NaNs compare as greater if they are greater. -/
theorem compare?_gt_iff_of_isNaN {t : ValueType} {y : t.Carrier} (hy : t.isNaN y = true)
    (x z : t.Carrier) :
    (t.toReading x : Reading ρ).compare? (t.toReading z : Reading ρ) = some .gt ↔
      t.Before z x := by
  induction t with
  | scalar t =>
    have hordered : t.kind.isOrdered = true := by
      cases t <;> first | rfl | exact absurd hy Bool.false_ne_true
    exact (Eq.congr_left (t.compare?_reading x z)).trans
      (t.compare?_toScalar_gt_iff hordered x z)
  | optional inner ih =>
    cases y with
    | none => exact absurd hy Bool.false_ne_true
    | some w =>
      cases x with
      | none => cases z <;> simp [toReading, Before, Reading.compare?]
      | some v =>
        cases z with
        | none =>
          show (inner.toReading v : Reading ρ).compare? (.null : Reading ρ) = some .gt ↔ False
          cases (inner.toReading v : Reading ρ) <;> simp [Reading.compare?]
        | some u => exact ih hy v u
  | sequence form item => exact absurd hy Bool.false_ne_true

/-- If the ends of a chain of keys are in the opposite order, they are values, and a NaN stands
between them. -/
theorem isNaN_of_keyOrder_gt {t : ValueType} {x y z : t.Carrier} (hxy : t.keyOrder ρ x y ≠ .gt)
    (hyz : t.keyOrder ρ y z ≠ .gt) (hxz : t.keyOrder ρ x z = .gt) :
    t.isNaN y = true ∧
      (t.toReading x : Reading ρ).compare? (t.toReading z : Reading ρ) = some .gt := by
  have hgt : (t.toReading x : Reading ρ).compare? (t.toReading z : Reading ρ) = some .gt := by
    rcases (Reading.compareKeys_eq_gt_iff _ _).mp hxz with ⟨hx, hz⟩ | hgt
    · -- A null at the beginning is before nothing but nulls.
      have hy : (t.toReading y : Reading ρ) = .null := by
        by_contra hy
        exact hxy ((Reading.compareKeys_eq_gt_iff _ _).mpr (Or.inl ⟨hx, hy⟩))
      exact absurd ((Reading.compareKeys_eq_gt_iff _ _).mpr (Or.inl ⟨hy, hz⟩)) hyz
    · exact hgt
  refine ⟨?_, hgt⟩
  -- The ends compare, so they are not NaNs; with a third key there would be an order.
  have hx : t.isNaN x = false := by
    cases hx : t.isNaN x with
    | false => rfl
    | true =>
      rw [toReading_of_isNaN hx, Reading.compare?_nan_left] at hgt
      exact absurd hgt nofun
  have hz : t.isNaN z = false := by
    cases hz : t.isNaN z with
    | false => rfl
    | true =>
      rw [toReading_of_isNaN hz, Reading.compare?_nan_right] at hgt
      exact absurd hgt nofun
  cases hy : t.isNaN y with
  | true => rfl
  | false =>
    obtain ⟨kind, form, hkey⟩ := t.exists_isKey_toReading (ρ := ρ)
    have hle := (Reading.preordersOn_compareKeys kind form).trans (hkey x hx) (hkey y hy)
      (hkey z hz) (Ordering.isLE_iff_ne_gt.mpr hxy) (Ordering.isLE_iff_ne_gt.mpr hyz)
    exact absurd hxz (Ordering.isLE_iff_ne_gt.mp hle)

/-- A NaN ties with both of two numbers, and so hides their order. -/
theorem keyOrder_of_isNaN {t : ValueType} {x y z : t.Carrier} (hy : t.isNaN y = true)
    (h : (t.toReading x : Reading ρ).compare? (t.toReading z : Reading ρ) = some .gt) :
    t.keyOrder ρ x y = .eq ∧ t.keyOrder ρ y z = .eq ∧ t.keyOrder ρ x z = .gt := by
  obtain ⟨hx, hz⟩ := Reading.ne_null_of_compare? h
  refine ⟨?_, ?_, (Reading.compareKeys_eq_gt_iff _ _).mpr (Or.inr h)⟩
  · rw [keyOrder, toReading_of_isNaN hy, Reading.compareKeys_nan_right hx]
  · rw [keyOrder, toReading_of_isNaN hy, Reading.compareKeys_nan_left hz]

/-- **Sort keys of one type are ordered up to ties, unless a NaN stands between two numbers.**

    For every type and any three of its values, missing ones and NaNs among them: comparing two
    values the other way round reverses the comparison; and if the first does not come after the
    second and the second not after the third, the first does not come after the third. The one
    exception is a NaN as the second value, which ties with both others, where these are numbers of
    which the first is the greater. -/
theorem keyOrder_trans_iff (ρ : Type) (t : ValueType) (x y z : t.Carrier) :
    t.keyOrder ρ y x = (t.keyOrder ρ x y).swap ∧
    ((t.keyOrder ρ x y ≠ .gt → t.keyOrder ρ y z ≠ .gt → t.keyOrder ρ x z ≠ .gt) ↔
      ¬ (t.isNaN y = true ∧ t.Before z x)) := by
  refine ⟨Reading.compareKeys_swap _ _, ?_, ?_⟩
  · rintro h ⟨hy, hbefore⟩
    obtain ⟨hxy, hyz, hxz⟩ :=
      keyOrder_of_isNaN (ρ := ρ) hy ((compare?_gt_iff_of_isNaN hy x z).mpr hbefore)
    exact h (by simp [hxy]) (by simp [hyz]) hxz
  · intro h hxy hyz hxz
    obtain ⟨hy, hgt⟩ := isNaN_of_keyOrder_gt hxy hyz hxz
    exact h ⟨hy, (compare?_gt_iff_of_isNaN hy x z).mp hgt⟩

end ValueType

/-! ## A NaN between two and one -/

namespace Sample

/-- Doubles that may be missing. -/
def score : ValueType := .optional (.scalar .double)

/-- Two ties with a NaN and the NaN with one, but two comes after one. -/
theorem keyOrder_not_transitive_nan :
    score.keyOrder Row (some (Binary.ofInt 2 : Double)) (some (.nan : Double)) ≠ .gt ∧
    score.keyOrder Row (some (.nan : Double)) (some (Binary.ofInt 1 : Double)) ≠ .gt ∧
    score.keyOrder Row (some (Binary.ofInt 2 : Double)) (some (Binary.ofInt 1 : Double)) = .gt := by
  decide +kernel

end Sample

end Winnow
