/-
  The values of each type in the type's own terms.

  `ScalarType.Same` and `ScalarType.Before` say when two values of a type are equal and when one
  comes first: integers and lengths of time by size, floating-point numbers by their places on the
  line, moments by the calendar or by their instant, everything else by being the same value. None
  of it mentions the single values that values of a type stand for.

  `compare?_toScalar_eq_iff` and `compare?_toScalar_lt_iff` are the two results: equality and order
  of single values, to which every type is converted, are those of the type, except that values of
  an enum type are equal as the words they become (`ScalarType.Alike`). The other conversions lose
  nothing: the number of an integer is that integer (`integer?_toNumber`), and a single keeps its
  place among the doubles (`compare?_widen`). A word is the lowest 64 bits of an integer. It tells
  apart the values of an enum whose integers are of one type of 64 bits, of either sign
  (`bits_inj`), and those of a form of flags only if that form has at most 64 bits
  (`flags_bits_injective_iff`).
-/
import Mathlib.Data.List.Nodup
import Winnow.Types.Scalar
import Winnow.Proofs.CalendarOrder
import Winnow.Proofs.Evaluation

namespace Winnow

/-! ## Integers -/

namespace IntegerForm

/-- The form of 64 bits with the same sign. -/
def wide (f : IntegerForm) : IntegerForm := if f.isSigned then int64 else nat64

/-- Every integer of a form of at most 64 bits is one of the form of 64 bits. -/
theorem Admits.wide {f : IntegerForm} {n : Int} (hbits : f.bits ≤ 64) (h : f.Admits n) :
    f.wide.Admits n := by
  have hpow : pow2 f.bits ≤ pow2 64 := pow2_le hbits
  unfold Admits at h
  unfold IntegerForm.wide
  split at h
  · next hs =>
    simp only [hs, if_true, Admits, int64]
    omega
  · next hs =>
    simp only [hs, Admits, nat64, Bool.false_eq_true, if_false]
    omega

theorem int64_admits_iff {n : Int} : int64.Admits n ↔ -2 ^ 63 ≤ n ∧ n < 2 ^ 63 := by
  have h : (pow2 64 : Int) = 2 ^ 64 := rfl
  simp only [Admits, int64, if_true, h]
  omega

theorem nat64_admits_iff {n : Int} : nat64.Admits n ↔ 0 ≤ n ∧ n < 2 ^ 64 := by
  have h : (pow2 64 : Int) = 2 ^ 64 := rfl
  simp only [Admits, nat64, Bool.false_eq_true, if_false, h]

/-- A form of more than 64 bits has two integers that differ by all the words there are. -/
theorem exists_admits_of_lt {f : IntegerForm} (h : 64 < f.bits) :
    ∃ m n, f.Admits m ∧ f.Admits n ∧ n = m + 2 ^ 64 := by
  have hpow : pow2 65 ≤ pow2 f.bits := pow2_le h
  have h65 : pow2 65 = 2 ^ 65 := rfl
  cases hs : f.isSigned with
  | true =>
    refine ⟨-2 ^ 64, 0, ?_, ?_, by omega⟩ <;>
      · simp only [Admits, hs, if_true]
        omega
  | false =>
    refine ⟨0, 2 ^ 64, ?_, ?_, by omega⟩ <;>
      · simp only [Admits, hs, Bool.false_eq_true, if_false]
        omega

/-- Integers have the same word exactly if they differ by a multiple of the number of words. -/
theorem ofInt_eq_iff {m n : Int} :
    UInt64.ofInt m = UInt64.ofInt n ↔ m % 2 ^ 64 = n % 2 ^ 64 := by
  rw [← UInt64.toNat_inj, UInt64.ofInt, UInt64.ofInt, UInt64.toNat_ofNat', UInt64.toNat_ofNat']
  omega

/-- Two integers of one type of 64 bits have the same word only if they are equal. -/
theorem ofInt_inj {m n : Int}
    (h : (int64.Admits m ∧ int64.Admits n) ∨ nat64.Admits m ∧ nat64.Admits n) :
    UInt64.ofInt m = UInt64.ofInt n ↔ m = n := by
  simp only [int64_admits_iff, nat64_admits_iff] at h
  rw [ofInt_eq_iff]
  omega

end IntegerForm

namespace IntegerType

/-- The number that stands for an integer is that integer. -/
theorem integer?_toNumber (t : IntegerType) (n : t.Carrier) :
    (t.toNumber n).integer? = some n.val := by
  have hwide := IntegerForm.Admits.wide t.bits_le n.property
  unfold toNumber
  unfold IntegerForm.wide at hwide
  split at hwide
  · next hs =>
    rw [IntegerForm.int64_admits_iff] at hwide
    rw [if_pos hs, Number.integer?, Int64.toInt_ofInt_of_le hwide.1 hwide.2]
  · next hs =>
    rw [IntegerForm.nat64_admits_iff] at hwide
    rw [if_neg hs, Number.integer?, UInt64.ofInt, UInt64.toNat_ofNat',
      Int.emod_eq_of_lt hwide.1 hwide.2]
    simp only [Option.some.injEq]
    omega

end IntegerType

namespace EnumForm

/-- The integer that stands for a value of an enum type determines the value. -/
theorem discriminant_inj (f : EnumForm) {v w : f.Carrier} :
    f.discriminant v = f.discriminant w ↔ v = w := by
  refine ⟨fun h => ?_, fun h => by rw [h]⟩
  cases f with
  | variants vs =>
    exact Subtype.ext (List.inj_on_of_nodup_map vs.distinct v.property w.property h)
  | flags f => exact Subtype.ext h

/-- The integers that stand for the values are all of one type of 64 bits. -/
def FitsWord (f : EnumForm) : Prop :=
  (∀ v : f.Carrier, IntegerForm.int64.Admits (f.discriminant v)) ∨
    ∀ v : f.Carrier, IntegerForm.nat64.Admits (f.discriminant v)

theorem FitsWord.pair {f : EnumForm} (h : f.FitsWord) (v w : f.Carrier) :
    (IntegerForm.int64.Admits (f.discriminant v) ∧ IntegerForm.int64.Admits (f.discriminant w)) ∨
      IntegerForm.nat64.Admits (f.discriminant v) ∧
        IntegerForm.nat64.Admits (f.discriminant w) :=
  h.imp (fun hall => ⟨hall v, hall w⟩) fun hall => ⟨hall v, hall w⟩

/-- Variants fit in a word if their discriminants are of one representation of 64 bits. -/
theorem variants_fitsWord_iff {vs : Variants} : (variants vs).FitsWord ↔
    (∀ v ∈ vs.named, IntegerForm.int64.Admits v.2) ∨
      ∀ v ∈ vs.named, IntegerForm.nat64.Admits v.2 :=
  or_congr Subtype.forall Subtype.forall

/-- Flags fit in a word if their form has at most 64 bits. -/
theorem flags_fitsWord {f : IntegerForm} (h : f.bits ≤ 64) : (flags f).FitsWord := by
  have hwide : ∀ v : f.Carrier, f.wide.Admits v.val := fun v => v.property.wide h
  unfold IntegerForm.wide at hwide
  split at hwide
  · exact Or.inl hwide
  · exact Or.inr hwide

/-- The word of the integer that stands for a value determines the value, if the integers fit. -/
theorem bits_inj {f : EnumForm} (h : f.FitsWord) {v w : f.Carrier} :
    f.bits v = f.bits w ↔ v = w := by
  rw [← f.discriminant_inj]
  exact IntegerForm.ofInt_inj (h.pair v w)

/-- **Words tell flags apart exactly if these have at most 64 bits.** -/
theorem flags_bits_injective_iff (f : IntegerForm) :
    Function.Injective (flags f).bits ↔ f.bits ≤ 64 := by
  constructor
  · intro hinj
    refine Nat.le_of_not_lt fun hbits => ?_
    obtain ⟨m, n, hm, hn, hmn⟩ := IntegerForm.exists_admits_of_lt hbits
    have hword : UInt64.ofInt m = UInt64.ofInt n := by
      rw [IntegerForm.ofInt_eq_iff]
      omega
    have hval : m = n := congrArg Subtype.val (@hinj ⟨m, hm⟩ ⟨n, hn⟩ hword)
    omega
  · exact fun hbits _ _ hword => (bits_inj (flags_fitsWord hbits)).mp hword

end EnumForm

/-! ## Floating-point numbers -/

namespace Binary

variable {f : Format}

/-- Two numbers are at the same place of the line. A NaN is at none. -/
def SamePlace (x y : Binary f) : Prop := ∃ p, x.position? = some p ∧ y.position? = some p

/-- A number is before another on the line. -/
def Below (x y : Binary f) : Prop :=
  ∃ p q, x.position? = some p ∧ y.position? = some q ∧ p < q

theorem compare?_eq_iff {x y : Binary f} : x.compare? y = some .eq ↔ x.SamePlace y := by
  unfold compare? SamePlace
  cases x.position? with
  | none => simp
  | some p => cases y.position? <;> simp [eq_comm (a := p)]

theorem compare?_lt_iff {x y : Binary f} : x.compare? y = some .lt ↔ x.Below y := by
  unfold compare? Below
  cases x.position? <;> cases y.position? <;> simp [Int.compare_eq_lt]

/-- An infinity is beyond every finite number. -/
theorem compare_signed_top (s s' : Bool) {u top : Nat} (h : u < top) :
    compare (signed s top) (signed s' u) = if s then .lt else .gt := by
  cases s <;> cases s' <;> simp only [signed, if_true, Bool.false_eq_true, if_false] <;>
    first
      | exact Int.compare_eq_lt.mpr (by omega)
      | exact Int.compare_eq_gt.mpr (by omega)

theorem compare_signed_signed (s s' : Bool) {m n : Nat} (hm : 0 < m) (hn : 0 < n) :
    compare (signed s m) (signed s' m) = compare (signed s n) (signed s' n) := by
  have hlt : ∀ {k : Nat}, 0 < k → compare (-(k : Int)) k = .lt := fun _ =>
    Int.compare_eq_lt.mpr (by omega)
  have hgt : ∀ {k : Nat}, 0 < k → compare (k : Int) (-k) = .gt := fun _ =>
    Int.compare_eq_gt.mpr (by omega)
  cases s <;> cases s' <;> simp only [signed, if_true, Bool.false_eq_true, if_false]
  · simp
  · rw [hgt hm, hgt hn]
  · rw [hlt hm, hlt hn]
  · simp

/-- Widening keeps comparisons. -/
theorem compare?_widen (x y : Single) : (widen x).compare? (widen y) = x.compare? y := by
  have htop : pow2 Format.single.top ≤ pow2 Format.double.top := pow2_le (by decide)
  cases x with
  | nan => rfl
  | infinite s =>
    cases y with
    | nan => rfl
    | infinite s' =>
      exact congrArg some (compare_signed_signed s s' (pow2_pos _) (pow2_pos _))
    | finite s' u fits =>
      refine congrArg some ?_
      rw [compare_signed_top s s' fits.1, compare_signed_top s s' (fits.1.trans_le htop)]
  | finite s u fits =>
    cases y with
    | nan => rfl
    | infinite s' =>
      refine congrArg some ?_
      rw [Std.OrientedOrd.eq_swap, compare_signed_top s' s (fits.1.trans_le htop),
        Std.OrientedOrd.eq_swap (a := signed s u), compare_signed_top s' s fits.1]
    | finite s' u' fits' => rfl

end Binary

/-! ## Values of a type -/

namespace ScalarType

/-- Two values are equal as values of their type: numbers if they are at the same place of the line,
moments with an offset if they are the same instant, others if they are the same. -/
def Same : (t : ScalarType) → t.Carrier → t.Carrier → Prop
  | .single, x, y => Binary.SamePlace (f := .single) x y
  | .double, x, y => Binary.SamePlace (f := .double) x y
  | .offsetDateTime, a, b => OffsetDateTime.instant a = OffsetDateTime.instant b
  | _, v, w => v = w

/-- Two values are equal as the single values that they become: those of an enum type if the words
of their integers are, others if they are equal as values of their type. -/
def Alike : (t : ScalarType) → t.Carrier → t.Carrier → Prop
  | .enum e, v, w => e.form.bits v = e.form.bits w
  | t, v, w => t.Same v w

/-- The integers that stand for the values of the type, if it is an enum, fit in a word. -/
def FitsWord : ScalarType → Prop
  | .enum e => e.form.FitsWord
  | _ => True

/-- Where integers fit in a word, values are alike only if they are equal. -/
theorem alike_eq_same {t : ScalarType} (h : t.FitsWord) : t.Alike = t.Same := by
  funext v w
  cases t with
  | enum e => exact propext (EnumForm.bits_inj h)
  | _ => rfl

/-- A value comes before another in the order of their type. Types without an order have none. -/
def Before : (t : ScalarType) → t.Carrier → t.Carrier → Prop
  | .integer _, m, n => m.val < n.val
  | .single, x, y => Binary.Below (f := .single) x y
  | .double, x, y => Binary.Below (f := .double) x y
  | .date, a, b => Date.Before a b
  | .dateTime, a, b => DateTime.Before a b
  | .offsetDateTime, a, b => OffsetDateTime.instant a < OffsetDateTime.instant b
  | .universalDateTime, a, b => DateTime.Before a b
  | .time, a, b => Clock.Before a b
  | .duration, a, b => Span.nanos a < Span.nanos b
  | _, _, _ => False

theorem some_compare_eq_iff {α : Type} [Ord α] [Std.LawfulEqOrd α] {a b : α} :
    some (compare a b) = some .eq ↔ a = b := by
  rw [Option.some.injEq, Std.compare_eq_iff_eq]

theorem some_compareInt_lt_iff {a b : Int} : some (compare a b) = some .lt ↔ a < b := by
  rw [Option.some.injEq, Int.compare_eq_lt]

theorem some_compareNat_lt_iff {a b : Nat} : some (compare a b) = some .lt ↔ a < b := by
  rw [Option.some.injEq, Nat.compare_eq_lt]

/-- The numbers that stand for integers are compared as these. -/
theorem compare?_toNumber (t : IntegerType) (m n : t.Carrier) :
    (t.toNumber m).compare? (t.toNumber n) = some (compare m.val n.val) := by
  unfold Number.compare?
  rw [t.integer?_toNumber, t.integer?_toNumber]

theorem compare?_toNumber_eq_iff (t : IntegerType) (m n : t.Carrier) :
    (t.toNumber m).compare? (t.toNumber n) = some .eq ↔ m = n := by
  rw [compare?_toNumber, some_compare_eq_iff, Subtype.ext_iff]

theorem compare?_toNumber_lt_iff (t : IntegerType) (m n : t.Carrier) :
    (t.toNumber m).compare? (t.toNumber n) = some .lt ↔ m.val < n.val := by
  rw [compare?_toNumber, some_compareInt_lt_iff]

theorem compare?_widen_eq_iff (x y : Single) :
    (Binary.widen x).compare? (Binary.widen y) = some .eq ↔ x.SamePlace y := by
  rw [Binary.compare?_widen, Binary.compare?_eq_iff]

theorem compare?_widen_lt_iff (x y : Single) :
    (Binary.widen x).compare? (Binary.widen y) = some .lt ↔ x.Below y := by
  rw [Binary.compare?_widen, Binary.compare?_lt_iff]

theorem nanos_inj (a b : Span) : a.nanos = b.nanos ↔ a = b := by
  cases a
  cases b
  simp

/-- Single values compare as equal exactly if the values that they stand for are alike. -/
theorem compare?_toScalar_eq_iff (t : ScalarType) (ht : t.kind ≠ .spatial) (v w : t.Carrier) :
    (t.toScalar v).compare? (t.toScalar w) = some .eq ↔ t.Alike v w := by
  cases t with
  | integer t => exact compare?_toNumber_eq_iff t v w
  | single => exact compare?_widen_eq_iff v w
  | double => exact Binary.compare?_eq_iff
  | bool | char | text => exact some_compare_eq_iff
  | date => exact some_compare_eq_iff.trans Date.rank_inj
  | dateTime => exact some_compare_eq_iff.trans DateTime.rank_inj
  | offsetDateTime => exact some_compare_eq_iff
  | universalDateTime => exact some_compare_eq_iff.trans OffsetDateTime.instant_universal_inj
  | time => exact some_compare_eq_iff.trans Clock.rank_inj
  | duration => exact some_compare_eq_iff.trans (nanos_inj v w)
  | guid => exact some_compare_eq_iff.trans Guid.value_inj
  | enum => exact some_compare_eq_iff
  | geometry => exact absurd rfl ht

/-- Single values are in order exactly if the values that they stand for are. -/
theorem compare?_toScalar_lt_iff (t : ScalarType) (ht : t.kind.isOrdered = true)
    (v w : t.Carrier) : (t.toScalar v).compare? (t.toScalar w) = some .lt ↔ t.Before v w := by
  cases t with
  | integer t => exact compare?_toNumber_lt_iff t v w
  | single => exact compare?_widen_lt_iff v w
  | double => exact Binary.compare?_lt_iff
  | date => exact some_compareInt_lt_iff.trans Date.rank_lt_iff
  | dateTime => exact some_compareInt_lt_iff.trans DateTime.rank_lt_iff
  | offsetDateTime => exact some_compareInt_lt_iff
  | universalDateTime => exact some_compareInt_lt_iff.trans OffsetDateTime.instant_universal_lt_iff
  | time => exact some_compareNat_lt_iff.trans Clock.rank_lt_iff
  | duration => exact some_compareInt_lt_iff
  | _ => exact absurd ht (by simp [kind, Kind.isOrdered])

theorem compare?_toScalar_gt_iff (t : ScalarType) (ht : t.kind.isOrdered = true)
    (v w : t.Carrier) : (t.toScalar v).compare? (t.toScalar w) = some .gt ↔ t.Before w v := by
  rw [← t.compare?_toScalar_lt_iff ht, Scalar.compare?_swap (t.toScalar v)]
  cases (t.toScalar v).compare? (t.toScalar w) with
  | none => simp
  | some o => cases o <;> simp

end ScalarType

end Winnow
