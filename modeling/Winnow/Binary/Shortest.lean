/-
  The shortest decimal of a number: the fewest digits that read back as the number, and of the
  decimals with that many digits the nearest one, of two equally near the larger.
-/
import Winnow.Binary.Rounding

namespace Winnow

/-- The decimal `digits · 10^exponent`. -/
structure Decimal where
  digits : Nat
  exponent : Int
  deriving DecidableEq, Repr

namespace Decimal

/-- The number of decimal digits of a natural number. -/
def length (n : Nat) : Nat := (Nat.toDigits 10 n).length

/-- Moves the zeros at the end of the digits, at most `fuel` of them, into the exponent. -/
def trimZeros : Nat → Decimal → Decimal
  | 0, d => d
  | fuel + 1, d =>
    if d.digits ≠ 0 ∧ d.digits % 10 = 0 then trimZeros fuel ⟨d.digits / 10, d.exponent + 1⟩ else d

end Decimal

/-- The reals that round to a number, in quarters of a unit. -/
structure RoundingInterval where
  low : Nat
  high : Nat
  closed : Bool

namespace RoundingInterval

/-- The interval of a positive magnitude: half the gap to either neighbour, where the gap below
a power of two is half the gap above it; the ends round to the number when its significand is
even. -/
def of (f : Format) (u : Nat) : RoundingInterval :=
  let e := f.quantum u 1
  let m := u / pow2 e
  let below := if m = pow2 (f.precision - 1) ∧ f.least < e then pow2 e else pow2 (e + 1)
  ⟨4 * u - below, 4 * u + pow2 (e + 1), m % 2 = 0⟩

/-- The interval contains the quotient `n / d` of quarters. -/
def contains (i : RoundingInterval) (n d : Nat) : Bool :=
  if i.closed then i.low * d ≤ n && n ≤ i.high * d else i.low * d < n && n < i.high * d

end RoundingInterval

namespace Format

/-- One step of the decimal grid `10^t`, as a quotient of quarters of a unit. -/
def gridStep (t : Int) : Nat × Nat :=
  if t < 0 then (4 * Binary.one, pow10 t.natAbs) else (4 * pow10 t.natAbs * Binary.one, 1)

/-- The point of the grid `10^t` that stands for `u`, if a neighbour of `u` on the grid reads
back as `u`: the nearer neighbour, of two equally near the larger. -/
def onGrid? (f : Format) (u : Nat) (t : Int) : Option Nat :=
  let (n, d) := gridStep t
  let i := RoundingInterval.of f u
  let c := 4 * u * d / n
  let below := i.contains (c * n) d
  let above := i.contains ((c + 1) * n) d
  if below && above then
    if 4 * u * d - c * n < (c + 1) * n - 4 * u * d then some c else some (c + 1)
  else if below then some c
  else if above then some (c + 1)
  else none

/-- The number of digits before the point of `u` units; for a magnitude below one, less the
zeros that follow the point. Scaled by `10^324`, every positive magnitude is at least one. -/
def leadingPlace (u : Nat) : Int := Decimal.length (u * pow10 324 / Binary.one) - 324

/-- The shortest decimal of a positive magnitude. Seventeen digits always suffice for a
double. -/
def shortest (f : Format) (u : Nat) : Decimal :=
  let place := leadingPlace u
  let found := (List.range 17).findSome? fun (k : Nat) =>
    let t := place - (k + 1)
    (f.onGrid? u t).map fun c => Decimal.trimZeros 18 ⟨c, t⟩
  found.getD ⟨0, 0⟩

end Format

end Winnow
