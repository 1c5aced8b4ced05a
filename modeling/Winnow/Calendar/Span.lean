/-
  Lengths of time, to the nanosecond, forwards or backwards.
-/
import Winnow.Calendar.Date

namespace Winnow

/-- A length of time. -/
structure Span where
  nanos : Int
  deriving DecidableEq

namespace Span

/-- The length of a number of seconds and a number of nanoseconds. -/
def ofParts (seconds nanos : Int) : Span := ⟨seconds * 1000000000 + nanos⟩

/-- The fraction of a second without the zeros at its end. -/
def fractionText (nano : Nat) : String :=
  let ds := (padded 9 nano).toList
  String.ofList (ds.reverse.dropWhile (· = '0')).reverse

/-- A sign for a length that goes backwards, `P`, and the seconds with their fraction between
`T` and `S`; no time at all is zero days. -/
def text (s : Span) : String :=
  let n := s.nanos.natAbs
  let fraction := n % 1000000000
  (if s.nanos < 0 then "-" else "") ++
    if n = 0 then "P0D"
    else "PT" ++ toString (n / 1000000000) ++
      (if fraction = 0 then "" else "." ++ fractionText fraction) ++ "S"

/-- The whole seconds, rounded backwards, and the nanoseconds after them. -/
def partsText (s : Span) : String :=
  "TimeDelta \x7b secs: " ++ toString (s.nanos / 1000000000) ++ ", nanos: " ++
    toString (s.nanos % 1000000000) ++ " \x7d"

end Span

end Winnow
