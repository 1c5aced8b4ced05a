/-
  Kinds of values and the operators each kind accepts; the type of an operand, which decides
  whether a criterion may carry an operator at all.
-/
import Winnow.Operator

namespace Winnow

/-- The kind of a value or of a scalar member. -/
inductive Kind where
  | text
  | char
  | number
  | boolean
  | date
  | dateTime
  | dateTimeOffset
  | time
  | duration
  | guid
  | enum
  | array
  | spatial
  deriving DecidableEq, Repr

namespace Kind

/-- Every kind, in declaration order. -/
def all : List Kind :=
  [text, char, number, boolean, date, dateTime, dateTimeOffset, time, duration, guid, enum,
    array, spatial]

theorem mem_all (k : Kind) : k ∈ all := by cases k <;> decide

/-- The name a kind is shown with. -/
def name : Kind → String
  | text => "text"
  | char => "char"
  | number => "number"
  | boolean => "boolean"
  | date => "date"
  | dateTime => "datetime"
  | dateTimeOffset => "datetime-offset"
  | time => "time"
  | duration => "duration"
  | guid => "guid"
  | enum => "enum"
  | array => "array"
  | spatial => "spatial"

/-- The constructor's name, as listings of a schema's members show it. -/
def label : Kind → String
  | text => "Text"
  | char => "Char"
  | number => "Number"
  | boolean => "Boolean"
  | date => "Date"
  | dateTime => "DateTime"
  | dateTimeOffset => "DateTimeOffset"
  | time => "Time"
  | duration => "Duration"
  | guid => "Guid"
  | enum => "Enum"
  | array => "Array"
  | spatial => "Spatial"

/-- Reads a kind from its exact name. -/
def ofName? (s : String) : Option Kind := all.find? (·.name == s)

/-- The kinds whose values are text or a character. -/
def isText : Kind → Bool
  | text | char => true
  | _ => false

/-- The kinds with an order that the relational operators use. -/
def isOrdered : Kind → Bool
  | number | date | dateTime | dateTimeOffset | time | duration => true
  | _ => false

/-- The operators that a value of a kind accepts when it cannot be null. -/
def operators : Kind → List Operator
  | text | char =>
    [.equal, .notEqual, .startsWith, .endsWith, .isEmpty, .isNotEmpty, .isNull, .isNotNull,
      .isNullOrWhiteSpace, .isNotNullOrWhiteSpace, .isIn, .notIn, .contains, .notContains]
  | number | date | dateTime | dateTimeOffset | time | duration =>
    [.equal, .notEqual, .greaterThan, .greaterThanOrEqual, .lessThan, .lessThanOrEqual, .between]
  | boolean | guid => [.equal, .notEqual]
  | enum => [.equal, .notEqual, .isIn, .notIn, .contains, .notContains]
  | array => [.isIn, .notIn, .contains, .notContains]
  | spatial =>
    [.covers, .crosses, .touches, .overlaps, .coveredBy, .disjoint, .intersects, .within,
      .isWithinDistance]

/-- A member of kind `member` can be compared to a constant of kind `value`: the kinds agree,
or a character is compared to a text. -/
def accepts (member value : Kind) : Bool :=
  member == value || (member == text && value == char)

theorem accepts_self (k : Kind) : k.accepts k = true := by cases k <;> rfl

theorem accepts_iff {m v : Kind} : m.accepts v = true ↔ v = m ∨ (m = text ∧ v = char) := by
  cases m <;> cases v <;> decide

end Kind

/-- The type of an operand: the kind of its values, whether it can be null, the kind of its
items when it is an array, and the name it is reported with. -/
structure OperandType where
  kind : Kind
  nullable : Bool
  element : Option Kind
  name : String
  deriving DecidableEq, Repr

namespace OperandType

/-- A scalar type that has no null. -/
def scalar (kind : Kind) (name : String) : OperandType := ⟨kind, false, none, name⟩

/-- An array whose items have the type `item`. -/
def arrayOf (item : OperandType) (name : String) : OperandType :=
  ⟨.array, false, some item.kind, name⟩

/-- The type `inner` with a null added; its kind and item kind stay. -/
def nullableOf (inner : OperandType) (name : String) : OperandType :=
  { inner with nullable := true, name := name }

/-- The operators that a null adds to any kind. -/
def nullOperators : List Operator := [.isNull, .isNotNull]

/-- A value of the type may be the operand of `op`. -/
def supports (t : OperandType) (op : Operator) : Bool :=
  t.kind.operators.contains op || (t.nullable && nullOperators.contains op)

/-- The kind that a member has to have to be compared to the operand: that of the items for
an array. -/
def operandKind (t : OperandType) : Kind :=
  match t.kind, t.element with
  | .array, some element => element
  | kind, _ => kind

end OperandType

end Winnow
