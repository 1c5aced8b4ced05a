/-
  Arithmetic on doubles: each operation is its exact result, rounded once.
-/
import Winnow.Binary.Rounding

namespace Winnow

/-- The whole part of a square root, found one binary digit at a time. -/
def floorSqrt (n : Nat) : Nat :=
  if n = 0 then 0
  else
    let r := 2 * floorSqrt (n / 4)
    if (r + 1) * (r + 1) ≤ n then r + 1 else r
termination_by n
decreasing_by omega

namespace Binary

variable {f : Format}

/-- The number nearest to a whole number of units; an exact zero takes the given sign. -/
def ofUnits (zeroNegative : Bool) (i : Int) : Binary f :=
  round (if i = 0 then zeroNegative else i < 0) i.natAbs 1

/-- The sum. Infinities of two signs have none, and a sum that is zero is negative only if both
terms are. -/
def add : Binary f → Binary f → Binary f
  | .nan, _ | _, .nan => .nan
  | .infinite a, .infinite b => if a = b then .infinite a else .nan
  | .infinite a, .finite .. => .infinite a
  | .finite .., .infinite b => .infinite b
  | .finite a u _, .finite b v _ => ofUnits (a && b) (signed a u + signed b v)

def sub (x y : Binary f) : Binary f := x.add y.neg

/-- The product; zero times an infinity has no value. -/
def mul : Binary f → Binary f → Binary f
  | .nan, _ | _, .nan => .nan
  | .infinite a, .infinite b => .infinite (a != b)
  | .infinite a, .finite b v _ => if v = 0 then .nan else .infinite (a != b)
  | .finite a u _, .infinite b => if u = 0 then .nan else .infinite (a != b)
  | .finite a u _, .finite b v _ => round (a != b) (u * v) one

/-- The quotient; a number over zero is an infinity, zero over zero has no value. -/
def div : Binary f → Binary f → Binary f
  | .nan, _ | _, .nan => .nan
  | .infinite _, .infinite _ => .nan
  | .infinite a, .finite b _ _ => .infinite (a != b)
  | .finite a _ _, .infinite b => .finite (a != b) 0 f.fits_zero
  | .finite a u _, .finite b v _ =>
    if v = 0 then (if u = 0 then .nan else .infinite (a != b))
    else round (a != b) (u * one) v

/-- The length `√(x² + y²)` of a vector. The root is taken of sixteen times the sum of squares,
and its last digit says whether the root is exact, so one rounding follows. -/
def hypot : Binary f → Binary f → Binary f
  | .infinite _, _ | _, .infinite _ => .infinite false
  | .nan, _ | _, .nan => .nan
  | .finite _ u _, .finite _ v _ =>
    let square := 16 * (u * u + v * v)
    let root := floorSqrt square
    round false (2 * root + if root * root = square then 0 else 1) 8

/-- The smaller of two numbers; a NaN gives way to the other. -/
def min (x y : Binary f) : Binary f :=
  if x.isNaN then y else if y.isNaN then x else if y.lt x then y else x

/-- The larger of two numbers; a NaN gives way to the other. -/
def max (x y : Binary f) : Binary f :=
  if x.isNaN then y else if y.isNaN then x else if x.lt y then y else x

instance : Add (Binary f) := ⟨add⟩
instance : Sub (Binary f) := ⟨sub⟩
instance : Mul (Binary f) := ⟨mul⟩
instance : Div (Binary f) := ⟨div⟩
instance : Neg (Binary f) := ⟨neg⟩

/-- The largest finite number of the format. -/
def greatest : Binary f := round false (pow2 f.top - pow2 (f.top - f.precision)) 1

end Binary

end Winnow
