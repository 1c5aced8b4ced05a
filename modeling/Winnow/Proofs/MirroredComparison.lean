/-
  Comparison from either side. Whether two readings compare, which is the greater and whether they
  are equal does not depend on which of them stands on the left, and integers are compared as
  integers, though they are words of two kinds.

  * `Comparison.holds_mirror`: every comparison of two readings is the mirrored one of the two in
    the other order. Formulas rely on it: a list of constants is searched with the constant on the
    left, and a single constant stands on the right.
  * `Number.compareWords?_eq`: comparison by words, where a signed word that is negative is below
    every unsigned one and any other is first converted, is comparison of the integers.
  * `Comparison.holds_weak_eq`: greater or equal is greater, or equal. For nulls it is not, as two
    nulls are equal and do not compare, nor for geometries.
-/
import Winnow.Proofs.Meaning
import Winnow.Value.Row

namespace Winnow

variable {ρ σ : Type}

/-! ## Comparisons mirrored -/

/-- The comparison that holds of two readings in the other order. -/
def Comparison.mirror : Comparison → Comparison
  | eq => eq
  | ne => ne
  | gt => lt
  | ge => le
  | lt => gt
  | le => ge

theorem Comparison.accepts_mirror (c : Comparison) (o : Ordering) :
    c.mirror.accepts o.swap = c.accepts o := by
  cases c <;> cases o <;> rfl

theorem Comparison.holds_mirror (c : Comparison) (a : Reading ρ) (b : Reading σ) :
    c.mirror.holds b a = c.holds a b := by
  have hordered : (b.compare? a).any c.mirror.accepts = (a.compare? b).any c.accepts := by
    rw [Reading.compare?_swap a b, Option.any_map]
    exact congrArg (Option.any · (a.compare? b)) (funext c.accepts_mirror)
  cases c with
  | eq => exact Reading.equals_comm b a
  | ne => exact congrArg not (Reading.equals_comm b a)
  | gt | ge | lt | le => exact hordered

/-! ## Words of two kinds -/

namespace Number

/-- The unsigned word of the same number, unless the number is negative. -/
def unsignedWord? (m : Int64) : Option UInt64 := if 0 ≤ m then some m.toUInt64 else none

/-- Compares a signed word with an unsigned one: as unsigned words, and a negative number is less
than all of them. -/
def compareMixed (m : Int64) (n : UInt64) : Ordering :=
  match unsignedWord? m with
  | some k => compare k n
  | none => .lt

/-- Compares two numbers by their words. -/
def compareWords? : Number → Number → Option Ordering
  | .signed m, .signed n => some (compare m n)
  | .unsigned m, .unsigned n => some (compare m n)
  | .float x, .float y => x.compare? y
  | .signed m, .unsigned n => some (compareMixed m n)
  | .unsigned m, .signed n => some (compareMixed n m).swap
  | a, b => a.toDouble.compare? b.toDouble

theorem compare_signed (m n : Int64) : compare m n = compare m.toInt n.toInt := by
  show compareOfLessAndEq m n = compareOfLessAndEq m.toInt n.toInt
  simp only [compareOfLessAndEq, Int64.lt_iff_toInt_lt, Int64.toInt_inj]

theorem compare_unsigned (m n : UInt64) :
    compare m n = compare (m.toNat : Int) (n.toNat : Int) := by
  show compareOfLessAndEq m n = compareOfLessAndEq (m.toNat : Int) (n.toNat : Int)
  simp only [compareOfLessAndEq, UInt64.lt_iff_toNat_lt, Int.ofNat_lt, Int.ofNat_inj,
    UInt64.toNat_inj]

theorem compareMixed_eq (m : Int64) (n : UInt64) :
    compareMixed m n = compare m.toInt (n.toNat : Int) := by
  unfold compareMixed unsignedWord?
  by_cases hm : 0 ≤ m
  · have hword : (m.toUInt64.toNat : Int) = m.toInt := by
      rw [Int64.toNat_toUInt64_of_le hm, Int64.cast_toNatClampNeg m hm]
    rw [if_pos hm, ← hword]
    exact compare_unsigned m.toUInt64 n
  · have hnegative : m.toInt < 0 := by
      rw [Int64.le_iff_toInt_le] at hm
      simpa using hm
    rw [if_neg hm]
    exact (Int.compare_eq_lt.mpr (Int.lt_of_lt_of_le hnegative (Int.natCast_nonneg _))).symm

/-- Comparison of two words of whatever kinds is comparison of the integers they stand for. -/
theorem compareWords?_eq (a b : Number) : a.compareWords? b = a.compare? b := by
  cases a with
  | signed m =>
    cases b with
    | signed n => exact congrArg some (compare_signed m n)
    | unsigned n => exact congrArg some (compareMixed_eq m n)
    | float y => rfl
  | unsigned m =>
    cases b with
    | signed n =>
      have hswap : (compareMixed n m).swap = compare (m.toNat : Int) n.toInt := by
        rw [compareMixed_eq, ← Std.OrientedOrd.eq_swap]
      exact congrArg some hswap
    | unsigned n => exact congrArg some (compare_unsigned m n)
    | float y => rfl
  | float x => cases b <;> rfl

theorem compare?_of_integers {a b : Number} {i j : Int} (ha : a.integer? = some i)
    (hb : b.integer? = some j) : a.compare? b = some (compare i j) := by
  rw [compare?, ha, hb]

end Number

/-! ## Greater or equal -/

/-- Equality is what comparison says it is, but for nulls and for geometries. -/
theorem Reading.equals_iff_compare? {a : Reading ρ} (hnull : a ≠ .null)
    (hkind : a.kind? ≠ some .spatial) (b : Reading σ) :
    a.equals b = true ↔ a.compare? b = some .eq := by
  cases a with
  | null => exact absurd rfl hnull
  | scalar s =>
    cases b with
    | scalar t =>
      have hequals : s.equals t = (s.compare? t == some .eq) :=
        Scalar.equals_eq_compare? fun hs => hkind (congrArg some hs)
      show s.equals t = true ↔ s.compare? t = some .eq
      rw [hequals, beq_iff_eq]
    | _ => simp [equals, compare?]
  | _ => simp [equals, compare?]

theorem Comparison.holds_weak_eq {a : Reading ρ} (hnull : a ≠ .null)
    (hkind : a.kind? ≠ some .spatial) (b : Reading σ) :
    ge.holds a b = (gt.holds a b || eq.holds a b) ∧
      le.holds a b = (lt.holds a b || eq.holds a b) := by
  have hequal : eq.holds a b = true ↔ a.compare? b = some .eq :=
    Reading.equals_iff_compare? hnull hkind b
  constructor
  · rw [Bool.eq_iff_iff, Bool.or_eq_true, holds_ge_iff, holds_gt_iff, hequal]
  · rw [Bool.eq_iff_iff, Bool.or_eq_true, holds_le_iff, holds_lt_iff, hequal]

/-! ## The laws of comparison -/

/-- **Comparison is the same from either side, and exact on integers.**

    For all readings, of records of whatever types: in the other order two of them compare to the
    reversed result, to none if they do not compare; they are equal either way round; and each
    comparison is the mirrored one in the other order.

    Two numbers compare as their words do, and if both are integers, signed or unsigned, the words
    compare as the integers.

    Of a reading that is neither a null nor a geometry, greater or equal is greater, or equal, and
    less or equal is less, or equal. -/
theorem Reading.comparison_mirrored (ρ σ : Type) :
    (∀ (a : Reading ρ) (b : Reading σ),
      b.compare? a = (a.compare? b).map Ordering.swap ∧ b.equals a = a.equals b ∧
        ∀ c : Comparison, c.mirror.holds b a = c.holds a b) ∧
    (∀ m n : Number,
      (scalar (.number m) : Reading ρ).compare? (scalar (.number n) : Reading σ) =
          m.compareWords? n ∧
        ∀ i j, m.integer? = some i → n.integer? = some j →
          m.compareWords? n = some (compare i j)) ∧
    ∀ (a : Reading ρ) (b : Reading σ), a ≠ .null → a.kind? ≠ some .spatial →
      Comparison.ge.holds a b = (Comparison.gt.holds a b || Comparison.eq.holds a b) ∧
        Comparison.le.holds a b = (Comparison.lt.holds a b || Comparison.eq.holds a b) := by
  refine ⟨fun a b => ?_, fun m n => ?_, fun a b hnull hkind => ?_⟩
  · exact ⟨compare?_swap a b, equals_comm b a, fun c => c.holds_mirror a b⟩
  · refine ⟨(m.compareWords?_eq n).symm, fun i j hi hj => ?_⟩
    rw [Number.compareWords?_eq, Number.compare?_of_integers hi hj]
  · exact Comparison.holds_weak_eq hnull hkind b

namespace Sample

/-- The number of the greatest unsigned word. -/
def greatest : Number := .unsigned 18446744073709551615

/-- The number of the least signed word. -/
def least : Number := .signed (-9223372036854775808)

theorem comparison_mirrored_extremes :
    greatest.compareWords? least = some .gt ∧
      Comparison.ge.holds (.scalar (.number greatest) : Reading Row)
          (.scalar (.number least) : Reading Row) =
        (Comparison.gt.holds (.scalar (.number greatest) : Reading Row)
            (.scalar (.number least) : Reading Row) ||
          Comparison.eq.holds (.scalar (.number greatest) : Reading Row)
            (.scalar (.number least) : Reading Row)) := by
  obtain ⟨-, hnumbers, hordered⟩ := Reading.comparison_mirrored Row Row
  have hwords := (hnumbers greatest least).2 18446744073709551615 (-9223372036854775808) rfl rfl
  exact ⟨hwords, (hordered _ _ (by simp) (by decide)).1⟩

end Sample

end Winnow
