/-
  Single values that are not null, by kind: their order, their equality and their text.
-/
import Winnow.Kind
import Winnow.Value.Number
import Winnow.Text.Quoted
import Winnow.Calendar.Moment
import Winnow.Calendar.Span
import Winnow.Guid
import Winnow.Geometry.Shape

namespace Winnow

/-- A single value that is not null. An enum or a set of flags is its bits. -/
inductive Scalar where
  | bool (b : Bool)
  | char (c : Char)
  | text (s : String)
  | number (n : Number)
  | date (d : Date)
  | dateTime (d : DateTime)
  | offsetDateTime (d : OffsetDateTime)
  | time (t : Clock)
  | duration (s : Span)
  | guid (g : Guid)
  | enum (bits : UInt64)
  | geometry (g : Geometry)

namespace Scalar

def kind : Scalar → Kind
  | .bool _ => .boolean
  | .char _ => .char
  | .text _ => .text
  | .number _ => .number
  | .date _ => .date
  | .dateTime _ => .dateTime
  | .offsetDateTime _ => .dateTimeOffset
  | .time _ => .time
  | .duration _ => .duration
  | .guid _ => .guid
  | .enum _ => .enum
  | .geometry _ => .spatial

theorem kind_ne_array (s : Scalar) : s.kind ≠ .array := by
  cases s <;> exact Kind.noConfusion

/-- Compares two values of one kind: texts by their characters' codes, moments by the time they
stand for, enums by their bits. Values of two kinds and geometries compare to nothing. -/
def compare? : Scalar → Scalar → Option Ordering
  | .bool a, .bool b => some (compare a b)
  | .char a, .char b => some (compare a b)
  | .text a, .text b => some (compare a b)
  | .number a, .number b => a.compare? b
  | .date a, .date b => some (compare a.rank b.rank)
  | .dateTime a, .dateTime b => some (compare a.rank b.rank)
  | .offsetDateTime a, .offsetDateTime b => some (compare a.instant b.instant)
  | .time a, .time b => some (compare a.rank b.rank)
  | .duration a, .duration b => some (compare a.nanos b.nanos)
  | .guid a, .guid b => some (compare a.value b.value)
  | .enum a, .enum b => some (compare a b)
  | _, _ => none

/-- Two values are equal: geometries if they are the same, others if their comparison says
so. -/
def equals : Scalar → Scalar → Bool
  | .geometry a, .geometry b => a.same b
  | a, b => a.compare? b == some .eq

/-- Two values are equal and, if they are numbers, of one representation. -/
def same : Scalar → Scalar → Bool
  | .number a, .number b => a.same b
  | a, b => a.equals b

theorem compare?_swap (a b : Scalar) : b.compare? a = (a.compare? b).map Ordering.swap := by
  cases a <;> cases b <;>
    first
      | rfl
      | exact Number.compare?_swap _ _
      | exact congrArg some Std.OrientedOrd.eq_swap

theorem equals_comm (a b : Scalar) : a.equals b = b.equals a := by
  cases a <;> cases b <;>
    first
      | exact Geometry.same_comm _ _
      | exact (congrArg (· == some .eq) (compare?_swap _ _)).trans (map_swap_beq_eq _)

/-- The text of a value; texts and characters are quoted. -/
def shown : Scalar → String
  | .bool b => toString b
  | .char c => quoteChar c
  | .text s => quoteText s
  | .number n => n.text
  | .date d => d.text
  | .dateTime d => d.textWith " "
  | .offsetDateTime d => d.text
  | .time t => t.text
  | .duration s => s.text
  | .guid g => g.text
  | .enum bits => toString bits.toNat
  | .geometry g => g.text

/-- The form of a value and its content; `textForm` names the form of a text. -/
def inspect (textForm : String) : Scalar → String
  | .bool b => "Bool(" ++ toString b ++ ")"
  | .char c => "Char(" ++ quoteChar c ++ ")"
  | .text s => textForm ++ "(" ++ quoteText s ++ ")"
  | .number n => "Number(" ++ n.inspect ++ ")"
  | .date d => "Date(" ++ d.text ++ ")"
  | .dateTime d => "DateTime(" ++ d.textWith "T" ++ ")"
  | .offsetDateTime d => "DateTimeOffset(" ++ d.compactText ++ ")"
  | .time t => "Time(" ++ t.text ++ ")"
  | .duration s => "Duration(" ++ s.partsText ++ ")"
  | .guid g => "Guid(" ++ g.text ++ ")"
  | .enum bits => "Enum(" ++ toString bits.toNat ++ ")"
  | .geometry g => "Geometry(" ++ g.text ++ ")"

end Scalar

end Winnow
