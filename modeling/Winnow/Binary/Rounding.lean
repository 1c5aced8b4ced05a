/-
  Rounding a quotient to the nearest number of a format, a tie to the even significand; the
  conversions of integers and of decimals that come from it.
-/
import Winnow.Binary.Basic

namespace Winnow

/-- `n / d` rounded to the nearest whole number, a tie to the even one. -/
def roundDiv (n d : Nat) : Nat :=
  let q := n / d
  let r := n % d
  if 2 * r < d then q
  else if d < 2 * r then q + 1
  else if q % 2 = 0 then q else q + 1

theorem roundDiv_le (n d : Nat) : roundDiv n d ≤ n / d + 1 := by
  unfold roundDiv
  dsimp only
  split
  · omega
  · split
    · omega
    · split <;> omega

namespace Format

/-- The exponent of the last binary digit that the format keeps of `n / d` units. -/
def quantum (f : Format) (n d : Nat) : Nat := max f.least (Nat.log2 (n / d) + 1 - f.precision)

/-- The magnitude nearest to `n / d` units, of a tie the one with the even significand; it may
reach the top of the format. -/
def nearest (f : Format) (n d : Nat) : Nat :=
  roundDiv n (d * pow2 (f.quantum n d)) * pow2 (f.quantum n d)

theorem div_quantum_lt (f : Format) (n d : Nat) :
    n / (d * pow2 (f.quantum n d)) < pow2 f.precision := by
  rw [← Nat.div_div_eq_div_mul]
  apply (Nat.div_lt_iff_lt_mul (pow2_pos _)).mpr
  rw [← pow2_add]
  refine Nat.lt_of_lt_of_le Nat.lt_log2_self (pow2_le ?_)
  unfold quantum
  omega

theorem fits_nearest {f : Format} {n d : Nat} (h : f.nearest n d < pow2 f.top) :
    f.Fits (f.nearest n d) := by
  refine ⟨h, ?_⟩
  have hle : f.least ≤ f.quantum n d := Nat.le_max_left _ _
  have hm := roundDiv_le n (d * pow2 (f.quantum n d))
  have hd := f.div_quantum_lt n d
  by_cases hp : roundDiv n (d * pow2 (f.quantum n d)) < pow2 f.precision
  · exact ⟨_, hle, _, hp, rfl⟩
  · -- a carry out of the significand: half of it, with one more zero
    have he : roundDiv n (d * pow2 (f.quantum n d)) = pow2 f.precision := by omega
    have hpos := f.precision_pos
    refine ⟨f.quantum n d + 1, by omega, pow2 (f.precision - 1),
      pow2_lt (by omega), ?_⟩
    rw [nearest, he, ← pow2_add, ← pow2_add]
    congr 1
    omega

end Format

namespace Binary

variable {f : Format}

/-- The number of the format nearest to `± n / d` units. -/
def round (negative : Bool) (n d : Nat) : Binary f :=
  if h : f.nearest n d < pow2 f.top then .finite negative (f.nearest n d) (Format.fits_nearest h)
  else .infinite negative

/-- The number nearest to a whole number. -/
def ofInt (i : Int) : Binary f := round (i < 0) (i.natAbs * one) 1

/-- The number nearest to `± digits · 10^exponent`. -/
def ofDecimal (negative : Bool) (digits : Nat) (exponent : Int) : Binary f :=
  if exponent < 0 then round negative (digits * one) (pow10 exponent.natAbs)
  else round negative (digits * pow10 exponent.natAbs * one) 1

end Binary

end Winnow
