/-
  Numbers: signed and unsigned 64-bit integers and doubles. Integers are compared as integers
  whatever their representation; a comparison with a double is one of doubles.
-/
import Winnow.Binary.Text
import Winnow.Binary.Rounding

namespace Winnow

/-- A number in one of three representations. -/
inductive Number where
  | signed (n : Int64)
  | unsigned (n : UInt64)
  | float (x : Double)
  deriving DecidableEq

namespace Number

/-- The integer, if the number is represented as one. -/
def integer? : Number → Option Int
  | .signed n => some n.toInt
  | .unsigned n => some n.toNat
  | .float _ => none

/-- The nearest double. -/
def toDouble : Number → Double
  | .signed n => Binary.ofInt n.toInt
  | .unsigned n => Binary.ofInt n.toNat
  | .float x => x

/-- Compares two integers as integers, other numbers as doubles; a NaN compares to nothing. -/
def compare? (a b : Number) : Option Ordering :=
  match a.integer?, b.integer? with
  | some m, some n => some (compare m n)
  | _, _ => a.toDouble.compare? b.toDouble

/-- Two numbers have one representation and are equal in it. -/
def same : Number → Number → Bool
  | .signed a, .signed b => a = b
  | .unsigned a, .unsigned b => a = b
  | .float a, .float b => a.eq b
  | _, _ => false

/-- A number without any mark of its representation. -/
def text : Number → String
  | .signed n => toString n.toInt
  | .unsigned n => toString n.toNat
  | .float x => x.text .plain

/-- The representation and the number; a whole double keeps its point. -/
def inspect : Number → String
  | .signed n => "I64(" ++ toString n.toInt ++ ")"
  | .unsigned n => "U64(" ++ toString n.toNat ++ ")"
  | .float x => "F64(" ++ x.text .precise ++ ")"

theorem compare?_swap (a b : Number) : b.compare? a = (a.compare? b).map Ordering.swap := by
  unfold compare?
  cases a.integer? <;> cases b.integer? <;>
    first
      | exact Binary.compare?_swap _ _
      | exact congrArg some Std.OrientedOrd.eq_swap

end Number

end Winnow
