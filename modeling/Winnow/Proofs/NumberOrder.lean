/-
  Numbers of different representations in one order.

  Two integers are compared as integers, and as soon as one side is a double both are compared as
  doubles. The conversion of an integer rounds it to the nearest double, a tie to the even
  significand. It keeps the order (`ofIntPlace_mono`): magnitudes of one quantum are rounded in
  their order, and a rounded magnitude does not pass the power of two at which the next quantum
  begins (`nearest_le`, `le_nearest`). It loses nothing up to `2^53` (`ofIntPlace_of_le`).

  What the conversion may do is to make two integers one double, to which both are then equal.
  `comparison_transitive_iff`, the main statement: this is the only way in which comparisons fail to
  be transitive, and the integers are then beyond the precision of a double.
-/
import Mathlib.Data.Nat.Log
import Winnow.Proofs.OwnOrder

namespace Winnow

/-! ## Rounding keeps the order -/

/-- The quotient is rounded up if the remainder is more than a half, or a half of an odd one. -/
theorem roundDiv_eq (n d : Nat) :
    roundDiv n d = n / d +
      if d < 2 * (n % d) ∨ d = 2 * (n % d) ∧ n / d % 2 = 1 then 1 else 0 := by
  unfold roundDiv
  dsimp only
  split_ifs <;> omega

theorem div_le_roundDiv (n d : Nat) : n / d ≤ roundDiv n d := by
  rw [roundDiv_eq]
  exact Nat.le_add_right _ _

theorem roundDiv_mono {m n : Nat} (h : m ≤ n) (d : Nat) : roundDiv m d ≤ roundDiv n d := by
  rcases Nat.lt_or_eq_of_le (Nat.div_le_div_right (c := d) h) with hlt | heq
  · calc roundDiv m d ≤ m / d + 1 := roundDiv_le m d
      _ ≤ n / d := hlt
      _ ≤ roundDiv n d := div_le_roundDiv n d
  · -- Of one quotient, the remainders are in the order of the numbers.
    have hrest : m % d ≤ n % d := by
      have hm := Nat.div_add_mod m d
      have hn := Nat.div_add_mod n d
      rw [heq] at hm
      omega
    rw [roundDiv_eq, roundDiv_eq, heq]
    split_ifs <;> omega

theorem roundDiv_of_dvd {n d : Nat} (hd : 0 < d) (h : d ∣ n) : roundDiv n d = n / d := by
  rw [roundDiv_eq, Nat.mod_eq_zero_of_dvd h, if_neg (by omega), Nat.add_zero]

namespace Format

variable {f : Format}

theorem quantum_mono (f : Format) {m n : Nat} (h : m ≤ n) (d : Nat) :
    f.quantum m d ≤ f.quantum n d := by
  have hlog : Nat.log2 (m / d) ≤ Nat.log2 (n / d) := by
    rw [Nat.log2_eq_log_two, Nat.log2_eq_log_two]
    exact Nat.log_mono_right (Nat.div_le_div_right h)
  unfold quantum
  omega

/-- A magnitude is rounded to no more than the least one of the next quantum. -/
theorem nearest_le (f : Format) (n d : Nat) :
    f.nearest n d ≤ pow2 (f.precision + f.quantum n d) := by
  have hround := roundDiv_le n (d * pow2 (f.quantum n d))
  have hquotient := f.div_quantum_lt n d
  rw [nearest, pow2_add]
  exact Nat.mul_le_mul_right _ (by omega)

/-- Above the coarsest unit, a magnitude is rounded to no less than the least one of its quantum. -/
theorem le_nearest {n d : Nat} (h : f.least < f.quantum n d) :
    pow2 (f.precision + f.quantum n d - 1) ≤ f.nearest n d := by
  have hp := f.precision_pos
  have hq : f.quantum n d = Nat.log2 (n / d) + 1 - f.precision := by
    unfold quantum at h ⊢
    omega
  have hexponent : f.precision + f.quantum n d - 1 = Nat.log2 (n / d) := by omega
  have hne : n / d ≠ 0 := by
    intro hzero
    rw [hzero, Nat.log2_zero] at hq
    omega
  have hdiv : pow2 (f.precision - 1) ≤ n / (d * pow2 (f.quantum n d)) := by
    rw [← Nat.div_div_eq_div_mul, Nat.le_div_iff_mul_le (pow2_pos _), ← pow2_add]
    have hsum : f.precision - 1 + f.quantum n d = Nat.log2 (n / d) := by omega
    rw [hsum]
    exact Nat.log2_self_le hne
  have hsplit : f.precision + f.quantum n d - 1 = f.precision - 1 + f.quantum n d := by omega
  rw [hsplit, pow2_add, nearest]
  exact Nat.mul_le_mul_right _ (Nat.le_trans hdiv (div_le_roundDiv _ _))

theorem nearest_mono (f : Format) {m n : Nat} (h : m ≤ n) (d : Nat) :
    f.nearest m d ≤ f.nearest n d := by
  rcases Nat.lt_or_eq_of_le (f.quantum_mono h d) with hlt | heq
  · calc f.nearest m d ≤ pow2 (f.precision + f.quantum m d) := f.nearest_le m d
      _ ≤ pow2 (f.precision + f.quantum n d - 1) := pow2_le (by omega)
      _ ≤ f.nearest n d := le_nearest (Nat.lt_of_le_of_lt (Nat.le_max_left _ _) hlt)
  · rw [nearest, nearest, heq]
    exact Nat.mul_le_mul_right _ (roundDiv_mono h _)

/-- A magnitude of the format is rounded to itself. -/
theorem nearest_of_fits {u : Nat} (h : f.Fits u) : f.nearest u 1 = u := by
  obtain ⟨-, e, he, m, hm, rfl⟩ := h
  have hq : f.quantum (m * pow2 e) 1 ≤ e := by
    have hlt : m * pow2 e < pow2 (f.precision + e) := by
      rw [pow2_add]
      exact Nat.mul_lt_mul_of_pos_right hm (pow2_pos e)
    have hp := f.precision_pos
    unfold quantum
    rw [Nat.div_one]
    by_cases hzero : m * pow2 e = 0
    · rw [hzero, Nat.log2_zero]
      omega
    · have hlog := (Nat.log2_lt hzero).mpr hlt
      omega
  have hdvd : pow2 (f.quantum (m * pow2 e) 1) ∣ m * pow2 e :=
    Dvd.dvd.mul_left (Nat.pow_dvd_pow 2 hq) m
  rw [nearest, Nat.one_mul, roundDiv_of_dvd (pow2_pos _) hdvd, Nat.div_mul_cancel hdvd]

/-- The magnitude that `n / d` units become, where the top stands for an infinity. -/
def rounded (f : Format) (n d : Nat) : Nat := min (f.nearest n d) (pow2 f.top)

theorem rounded_mono (f : Format) {m n : Nat} (h : m ≤ n) (d : Nat) :
    f.rounded m d ≤ f.rounded n d := by
  have hnearest := f.nearest_mono h d
  unfold rounded
  omega

theorem rounded_of_fits {u : Nat} (h : f.Fits u) : f.rounded u 1 = u := by
  rw [rounded, nearest_of_fits h, Nat.min_eq_left (Nat.le_of_lt h.1)]

end Format

/-! ## Integers as doubles -/

namespace Binary

variable {f : Format}

theorem signed_mono {s t : Bool} {m n : Nat} (hst : t = true → s = true)
    (hpos : s = false → t = false → m ≤ n) (hneg : s = true → t = true → n ≤ m) :
    signed s m ≤ signed t n := by
  unfold signed
  cases s <;> cases t <;> simp_all

/-- The place of the number that an integer is rounded to. -/
def ofIntPlace (f : Format) (i : Int) : Int := signed (i < 0) (f.rounded (i.natAbs * one) 1)

theorem position?_round (negative : Bool) (n d : Nat) :
    (round negative n d : Binary f).position? = some (signed negative (f.rounded n d)) := by
  unfold round Format.rounded
  split
  · next h => rw [position?, Nat.min_eq_left (Nat.le_of_lt h)]
  · next h => rw [position?, Nat.min_eq_right (Nat.not_lt.mp h)]

theorem position?_ofInt (i : Int) : (ofInt i : Binary f).position? = some (ofIntPlace f i) :=
  position?_round _ _ _

theorem ofIntPlace_mono {i j : Int} (h : i ≤ j) : ofIntPlace f i ≤ ofIntPlace f j := by
  have hrounded : ∀ {m n : Nat}, m ≤ n → f.rounded (m * one) 1 ≤ f.rounded (n * one) 1 :=
    fun hmn => f.rounded_mono (Nat.mul_le_mul_right one hmn) 1
  unfold ofIntPlace
  refine signed_mono ?_ ?_ ?_
  · simp only [decide_eq_true_eq]
    omega
  · simp only [decide_eq_false_iff_not]
    intro hi hj
    exact hrounded (by omega)
  · simp only [decide_eq_true_eq]
    intro hi hj
    exact hrounded (by omega)

/-- Up to `2^53` a whole number is a double. -/
theorem fits_of_le {n : Nat} (h : n ≤ pow2 53) : Format.double.Fits (n * one) := by
  have htop : pow2 53 * one < pow2 Format.double.top := by
    rw [one, ← pow2_add]
    exact pow2_lt (by decide)
  refine ⟨Nat.lt_of_le_of_lt (Nat.mul_le_mul_right _ h) htop, ?_⟩
  rcases Nat.lt_or_eq_of_le h with hlt | rfl
  · exact ⟨1074, Nat.zero_le _, n, hlt, rfl⟩
  · refine ⟨53 + 1074, Nat.zero_le _, 1, by decide, ?_⟩
    rw [Nat.one_mul, pow2_add, one]

theorem ofIntPlace_of_le {i : Int} (h : i.natAbs ≤ pow2 53) : ofIntPlace .double i = i * one := by
  rw [ofIntPlace, Format.rounded_of_fits (fits_of_le h), signed]
  split
  · next hneg =>
    rw [decide_eq_true_eq] at hneg
    rw [Int.natCast_mul, Int.ofNat_natAbs_of_nonpos (Int.le_of_lt hneg), Int.neg_mul, Int.neg_neg]
  · next hpos =>
    rw [decide_eq_true_eq] at hpos
    rw [Int.natCast_mul, Int.natAbs_of_nonneg (Int.not_lt.mp hpos)]

theorem one_pos : 0 < (one : Int) := Int.natCast_pos.mpr (pow2_pos _)

/-- An integer that is less than `2^53` and another have different doubles. -/
theorem ofIntPlace_ne {i j : Int} (hi : i.natAbs < pow2 53) (h : i ≠ j) :
    ofIntPlace .double i ≠ ofIntPlace .double j := by
  have hplace : ofIntPlace .double i = i * one := ofIntPlace_of_le (Nat.le_of_lt hi)
  -- The neighbour of `i` on the side of `j` is a double too, and `j` is not before it.
  rcases Int.lt_or_gt_of_ne h with hlt | hgt
  · have hnext : ofIntPlace .double (i + 1) = (i + 1) * one := ofIntPlace_of_le (by omega)
    have hle : ofIntPlace .double (i + 1) ≤ ofIntPlace .double j := ofIntPlace_mono (by omega)
    rw [hnext, Int.add_mul, Int.one_mul] at hle
    have hone := one_pos
    omega
  · have hprevious : ofIntPlace .double (i - 1) = (i - 1) * one := ofIntPlace_of_le (by omega)
    have hle : ofIntPlace .double j ≤ ofIntPlace .double (i - 1) := ofIntPlace_mono (by omega)
    rw [hprevious, Int.sub_mul, Int.one_mul] at hle
    have hone := one_pos
    omega

end Binary

/-! ## Comparison of numbers -/

namespace Number

/-- A number is less than another or equal to it. -/
def AtMost (a b : Number) : Prop := a.compare? b = some .lt ∨ a.compare? b = some .eq

/-- A double stands between two integers, `m` and `n`, that are both converted to it. -/
structure MeetAt (a b c : Number) (m n : Int) : Prop where
  left : a.integer? = some m
  right : c.integer? = some n
  double : ∃ x, b = .float x ∧ (Binary.ofInt m).SamePlace x ∧ (Binary.ofInt n).SamePlace x

theorem MeetAt.symm {a b c : Number} {m n : Int} (h : a.MeetAt b c m n) : c.MeetAt b a n m where
  left := h.right
  right := h.left
  double := by
    obtain ⟨x, hb, hm, hn⟩ := h.double
    exact ⟨x, hb, hn, hm⟩

variable {a b c : Number} {m n : Int}

theorem position?_of_integer? (h : a.integer? = some m) :
    a.toDouble.position? = some (Binary.ofIntPlace .double m) := by
  rw [← Binary.position?_ofInt]
  cases a with
  | signed k => rw [toDouble, Option.some.inj h]
  | unsigned k => rw [toDouble, Option.some.inj h]
  | float x => exact absurd h (by simp [integer?])

theorem eq_float_of_integer? (h : a.integer? = none) : ∃ x, a = .float x := by
  cases a with
  | float x => exact ⟨x, rfl⟩
  | _ => exact absurd h (by simp [integer?])

theorem atMost_iff_of_integers (ha : a.integer? = some m) (hb : b.integer? = some n) :
    a.AtMost b ↔ m ≤ n := by
  have hcompare : a.compare? b = some (compare m n) := by rw [compare?, ha, hb]
  rw [AtMost, hcompare, Option.some.injEq, Option.some.injEq, Int.compare_eq_lt,
    Int.compare_eq_eq, Int.le_iff_lt_or_eq]

/-- With a double on one side, numbers are in the order of their places as doubles. -/
theorem atMost_iff_of_double (h : a.integer? = none ∨ b.integer? = none) :
    a.AtMost b ↔ ∃ p q, a.toDouble.position? = some p ∧ b.toDouble.position? = some q ∧ p ≤ q := by
  have hcompare : a.compare? b = a.toDouble.compare? b.toDouble := by
    unfold compare?
    rcases h with h | h
    · rw [h]
    · rw [h]
      cases a.integer? <;> rfl
  rw [AtMost, hcompare, Binary.compare?]
  cases a.toDouble.position? with
  | none => simp
  | some p =>
    cases b.toDouble.position? with
    | none => simp
    | some q => simp [Int.compare_eq_lt, Int.le_iff_lt_or_eq]

/-- Numbers in order are in the same order as doubles. -/
theorem AtMost.places (h : a.AtMost b) :
    ∃ p q, a.toDouble.position? = some p ∧ b.toDouble.position? = some q ∧ p ≤ q := by
  cases ha : a.integer? with
  | none => exact (atMost_iff_of_double (Or.inl ha)).mp h
  | some m =>
    cases hb : b.integer? with
    | none => exact (atMost_iff_of_double (Or.inr hb)).mp h
    | some n =>
      exact ⟨_, _, position?_of_integer? ha, position?_of_integer? hb,
        Binary.ofIntPlace_mono ((atMost_iff_of_integers ha hb).mp h)⟩

theorem compare?_eq_iff_atMost : a.compare? b = some .eq ↔ a.AtMost b ∧ b.AtMost a := by
  rw [AtMost, AtMost, compare?_swap a b]
  cases a.compare? b with
  | none => simp
  | some o => cases o <;> simp

/-- Integers that meet at a double are equal to it. -/
theorem MeetAt.atMost (h : a.MeetAt b c m n) : a.AtMost b ∧ b.AtMost a := by
  obtain ⟨x, rfl, ⟨p, hm, hx⟩, -⟩ := h.double
  have ha := position?_of_integer? h.left
  rw [Binary.position?_ofInt] at hm
  rw [hm] at ha
  exact ⟨(atMost_iff_of_double (Or.inr rfl)).mpr ⟨p, p, ha, hx, Int.le_refl p⟩,
    (atMost_iff_of_double (Or.inl rfl)).mpr ⟨p, p, hx, ha, Int.le_refl p⟩⟩

/-- Integers that are in one order on two sides of a double and in the other by themselves meet
there. -/
theorem meetAt_of_lt (ha : a.integer? = some m) (hc : c.integer? = some n)
    (hb : b.integer? = none) (hab : a.AtMost b) (hbc : b.AtMost c) (h : n < m) :
    a.MeetAt b c m n := by
  obtain ⟨x, rfl⟩ := eq_float_of_integer? hb
  obtain ⟨p, q, hp, hq, hpq⟩ := hab.places
  obtain ⟨q', r, hq', hr, hqr⟩ := hbc.places
  obtain rfl : q = q' := Option.some.inj (hq.symm.trans hq')
  rw [position?_of_integer? ha, Option.some.injEq] at hp
  rw [position?_of_integer? hc, Option.some.injEq] at hr
  subst hp hr
  have hmono : Binary.ofIntPlace .double n ≤ Binary.ofIntPlace .double m :=
    Binary.ofIntPlace_mono (Int.le_of_lt h)
  have hm : Binary.ofIntPlace .double m = q := by omega
  have hn : Binary.ofIntPlace .double n = q := by omega
  exact ⟨ha, hc, x, rfl, ⟨q, by rw [Binary.position?_ofInt, hm], hq⟩,
    ⟨q, by rw [Binary.position?_ofInt, hn], hq⟩⟩

/-- A double at one end is in the order of both steps. -/
theorem AtMost.trans_of_double (h : a.integer? = none ∨ c.integer? = none) (hab : a.AtMost b)
    (hbc : b.AtMost c) : a.AtMost c := by
  obtain ⟨p, q, hp, hq, hpq⟩ := hab.places
  obtain ⟨q', r, hq', hr, hqr⟩ := hbc.places
  obtain rfl : q = q' := Option.some.inj (hq.symm.trans hq')
  exact (atMost_iff_of_double h).mpr ⟨p, r, hp, hr, Int.le_trans hpq hqr⟩

/-- Two steps of one order make a third, unless they lead from an integer to a lower one through
a double that is both. -/
theorem atMost_trans_iff (a b c : Number) :
    (a.AtMost b → b.AtMost c → a.AtMost c) ↔ ∀ m n, a.MeetAt b c m n → m ≤ n := by
  constructor
  · intro h m n hmeet
    exact (atMost_iff_of_integers hmeet.left hmeet.right).mp
      (h hmeet.atMost.1 hmeet.symm.atMost.2)
  · intro h hab hbc
    cases ha : a.integer? with
    | none => exact AtMost.trans_of_double (Or.inl ha) hab hbc
    | some m =>
      cases hc : c.integer? with
      | none => exact AtMost.trans_of_double (Or.inr hc) hab hbc
      | some n =>
        rw [atMost_iff_of_integers ha hc]
        cases hb : b.integer? with
        | some k =>
          exact Int.le_trans ((atMost_iff_of_integers ha hb).mp hab)
            ((atMost_iff_of_integers hb hc).mp hbc)
        | none =>
          by_contra hlt
          exact hlt (h m n (meetAt_of_lt ha hc hb hab hbc (Int.not_le.mp hlt)))

theorem compare?_eq_trans_iff (a b c : Number) :
    (a.compare? b = some .eq → b.compare? c = some .eq → a.compare? c = some .eq) ↔
      ∀ m n, a.MeetAt b c m n → m = n := by
  simp only [compare?_eq_iff_atMost]
  constructor
  · intro h m n hmeet
    obtain ⟨hac, hca⟩ := h hmeet.atMost ⟨hmeet.symm.atMost.2, hmeet.symm.atMost.1⟩
    exact Int.le_antisymm ((atMost_iff_of_integers hmeet.left hmeet.right).mp hac)
      ((atMost_iff_of_integers hmeet.right hmeet.left).mp hca)
  · intro h hab hbc
    constructor
    · exact (atMost_trans_iff a b c).mpr (fun m n hmeet => Int.le_of_eq (h m n hmeet)) hab.1 hbc.1
    · refine (atMost_trans_iff c b a).mpr (fun n m hmeet => ?_) hbc.2 hab.2
      exact Int.le_of_eq (h m n hmeet.symm).symm

/-- Different integers that meet at a double are beyond its precision. -/
theorem MeetAt.le_natAbs (h : a.MeetAt b c m n) (hne : m ≠ n) : 2 ^ 53 ≤ m.natAbs := by
  obtain ⟨x, -, ⟨p, hm, hp⟩, ⟨q, hn, hq⟩⟩ := h.double
  rw [Binary.position?_ofInt, Option.some.injEq] at hm hn
  obtain rfl : p = q := Option.some.inj (hp.symm.trans hq)
  by_contra hlt
  exact Binary.ofIntPlace_ne (Nat.not_le.mp hlt) hne (hm.trans hn.symm)

/-- **Comparisons of numbers are transitive unless two integers are one double.**

    For any three numbers in any representations: if the first is at most the second and the second
    at most the third, then the first is at most the third; and if the steps are equalities, so is
    the whole. The one exception is a double in the middle that two different integers at the ends
    are both converted to, where the first law fails if the first integer is the greater and the
    second law fails in any case. Both integers are then at least `2^53` in magnitude. A NaN is at
    most nothing and equal to nothing, so it need not be excluded. -/
theorem comparison_transitive_iff (a b c : Number) :
    ((a.AtMost b → b.AtMost c → a.AtMost c) ↔ ∀ m n, a.MeetAt b c m n → m ≤ n) ∧
    ((a.compare? b = some .eq → b.compare? c = some .eq → a.compare? c = some .eq) ↔
      ∀ m n, a.MeetAt b c m n → m = n) ∧
    ∀ m n, a.MeetAt b c m n → m ≠ n → 2 ^ 53 ≤ m.natAbs ∧ 2 ^ 53 ≤ n.natAbs :=
  ⟨atMost_trans_iff a b c, compare?_eq_trans_iff a b c,
    fun _ _ hmeet hne => ⟨hmeet.le_natAbs hne, hmeet.symm.le_natAbs hne.symm⟩⟩

end Number

/-! ## The first integer that is no double -/

namespace Sample

/-- The integer after `2^53` is equal to the double `2^53`, which is equal to the integer `2^53`. -/
theorem not_transitive_beyond_precision :
    (Number.signed 9007199254740993).compare? (.float (Binary.ofInt 9007199254740992)) =
      some .eq ∧
    (Number.float (Binary.ofInt 9007199254740992)).compare? (.signed 9007199254740992) =
      some .eq ∧
    (Number.signed 9007199254740993).compare? (.signed 9007199254740992) = some .gt := by
  decide +kernel

end Sample

end Winnow
