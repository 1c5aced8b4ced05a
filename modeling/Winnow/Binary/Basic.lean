/-
  Binary floating-point numbers, as values and not as words: a number of a format is a NaN, an
  infinity, or a sign and a whole number of units of `2^-1074`, the least positive double. Every
  format here is a subset of the doubles, so all formats share the unit, and comparison of two
  numbers is comparison of two integers.
-/

namespace Winnow

/-- The power `2^k`. -/
def pow2 (k : Nat) : Nat := Nat.pow 2 k

/-- The power `10^k`. -/
def pow10 (k : Nat) : Nat := Nat.pow 10 k

theorem pow2_pos (k : Nat) : 0 < pow2 k := Nat.two_pow_pos k

theorem pow2_add (j k : Nat) : pow2 (j + k) = pow2 j * pow2 k := Nat.pow_add 2 j k

theorem pow2_le {j k : Nat} (h : j ≤ k) : pow2 j ≤ pow2 k := Nat.pow_le_pow_right (by decide) h

theorem pow2_lt {j k : Nat} (h : j < k) : pow2 j < pow2 k := Nat.pow_lt_pow_right (by decide) h

/-- A binary format: the digits of its significands, the exponent of its coarsest unit that
still divides all its numbers, and the exponent that bounds its magnitudes. The two exponents
count units of `2^-1074`. -/
structure Format where
  precision : Nat
  least : Nat
  top : Nat
  precision_pos : 0 < precision := by decide

namespace Format

/-- The doubles: 53 binary digits, units of `2^-1074`, magnitudes below `2^1024`. -/
def double : Format := { precision := 53, least := 0, top := 2098 }

/-- The singles: 24 binary digits, units of `2^-149`, magnitudes below `2^128`. -/
def single : Format := { precision := 24, least := 925, top := 1202 }

/-- `u` units are a magnitude of the format: at most `precision` binary digits followed by at
least `least` zeros, and below the top. -/
def Fits (f : Format) (u : Nat) : Prop :=
  u < pow2 f.top ∧ ∃ e, f.least ≤ e ∧ ∃ m, m < pow2 f.precision ∧ u = m * pow2 e

theorem fits_zero (f : Format) : f.Fits 0 :=
  ⟨pow2_pos _, f.least, Nat.le_refl _, 0, pow2_pos _, by simp⟩

theorem single_fits_double {u : Nat} (h : single.Fits u) : double.Fits u := by
  obtain ⟨ht, e, _, m, hm, hu⟩ := h
  refine ⟨Nat.lt_of_lt_of_le ht (pow2_le (by decide)), e,
    Nat.zero_le _, m, ?_, hu⟩
  exact Nat.lt_of_lt_of_le hm (pow2_le (by decide))

end Format

/-- A number of a binary format. Zero has two signs, and all NaNs are one. -/
inductive Binary (f : Format) where
  | nan
  | infinite (negative : Bool)
  | finite (negative : Bool) (units : Nat) (fits : f.Fits units)

/-- The double-precision numbers. -/
abbrev Double := Binary .double

/-- The single-precision numbers. -/
abbrev Single := Binary .single

/-- A comparison and the one the other way round find the same things equal. -/
theorem map_swap_beq_eq (o : Option Ordering) :
    (o.map Ordering.swap == some .eq) = (o == some .eq) := by
  cases o with
  | none => rfl
  | some o => cases o <;> rfl

namespace Binary

variable {f : Format}

instance : DecidableEq (Binary f)
  | .nan, .nan => isTrue rfl
  | .infinite a, .infinite b =>
    if h : a = b then isTrue (h ▸ rfl) else isFalse (fun e => h (Binary.infinite.inj e))
  | .finite a u _, .finite b v _ =>
    if h : a = b ∧ u = v then
      isTrue (by obtain ⟨rfl, rfl⟩ := h; rfl)
    else isFalse (fun e => by cases e; exact h ⟨rfl, rfl⟩)
  | .nan, .infinite _ | .nan, .finite .. | .infinite _, .nan | .infinite _, .finite ..
  | .finite .., .nan | .finite .., .infinite _ => isFalse (fun e => by cases e)

/-- The number of units in one. -/
def one : Nat := pow2 1074

/-- The positive zero. -/
def zero : Binary f := .finite false 0 f.fits_zero

instance : Inhabited (Binary f) := ⟨zero⟩

/-- `n` units with a sign, as an integer. -/
def signed (negative : Bool) (n : Nat) : Int := if negative then -(n : Int) else n

/-- The place of a number on the line, in units, with the infinities beyond every finite
number; a NaN has none. -/
def position? : Binary f → Option Int
  | .nan => none
  | .infinite negative => some (signed negative (pow2 f.top))
  | .finite negative units _ => some (signed negative units)

/-- The number is a NaN. -/
def isNaN : Binary f → Bool
  | .nan => true
  | _ => false

/-- Compares two numbers by their places; a NaN compares to nothing. The zeros are equal. -/
def compare? (x y : Binary f) : Option Ordering :=
  match x.position?, y.position? with
  | some a, some b => some (compare a b)
  | _, _ => none

/-- Numeric equality: the zeros are equal, and a NaN equals nothing. -/
def eq (x y : Binary f) : Bool := x.compare? y == some .eq

def lt (x y : Binary f) : Bool := x.compare? y == some .lt

def le (x y : Binary f) : Bool := x.compare? y == some .lt || x.compare? y == some .eq

theorem compare?_eq_none_iff {x y : Binary f} :
    x.compare? y = none ↔ x.isNaN = true ∨ y.isNaN = true := by
  cases x <;> cases y <;> simp [compare?, position?, isNaN]

theorem compare?_swap (x y : Binary f) : y.compare? x = (x.compare? y).map Ordering.swap := by
  unfold compare?
  cases x.position? <;> cases y.position? <;>
    first | rfl | exact congrArg some Std.OrientedOrd.eq_swap

theorem eq_swap (x y : Binary f) : y.eq x = x.eq y := by
  unfold eq
  rw [compare?_swap x y, map_swap_beq_eq]

/-- The same number with the other sign. -/
def neg : Binary f → Binary f
  | .nan => .nan
  | .infinite s => .infinite (!s)
  | .finite s u h => .finite (!s) u h

/-- The same magnitude without a sign. -/
def abs : Binary f → Binary f
  | .nan => .nan
  | .infinite _ => .infinite false
  | .finite _ u h => .finite false u h

/-- The double of the same value as a single. -/
def widen : Single → Double
  | .nan => .nan
  | .infinite s => .infinite s
  | .finite s u h => .finite s u (Format.single_fits_double h)

end Binary

end Winnow
