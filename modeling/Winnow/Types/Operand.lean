/-
  The types of operands and of scalar members: single values, optional ones and sequences, nested
  at will. An operand's type and the value it stands for are found by two recursions over the
  type, which agree. What a member of a type is read as is found by a third (`toReading`), which
  does not go through operands.
-/
import Winnow.Types.Scalar
import Winnow.Value.Reading

namespace Winnow

/-- A type of sequences of items: growing ones, slices, or arrays of one length. -/
inductive SequenceForm where
  | vector
  | slice
  | array (length : Nat)
  deriving DecidableEq, Repr

namespace SequenceForm

/-- A sequence of the form may have a length. -/
def admits : SequenceForm → Nat → Bool
  | array length, n => n = length
  | _, _ => true

/-- The name of a sequence of items of a type. -/
def name (form : SequenceForm) (item : String) : String :=
  match form with
  | vector => "alloc::vec::Vec<" ++ item ++ ">"
  | slice => "[" ++ item ++ "]"
  | array length => "[" ++ item ++ "; " ++ toString length ++ "]"

/-- The name of a sequence inside another type: a slice has a mark before it. -/
def innerName (form : SequenceForm) (item : String) : String :=
  match form with
  | slice => "&" ++ form.name item
  | _ => form.name item

end SequenceForm

/-- What is read from a member of a type that holds a value. -/
def ScalarType.reading {ρ : Type} : (t : ScalarType) → t.Carrier → Reading ρ
  | .integer t, n => .scalar (.number (t.toNumber n))
  | .single, x => .scalar (.number (.float (Binary.widen x)))
  | .double, x => .scalar (.number (.float x))
  | .bool, b => .scalar (.bool b)
  | .char, c => .scalar (.char c)
  | .text _, s => .scalar (.text s)
  | .date, d => .scalar (.date d)
  | .dateTime, d => .scalar (.dateTime d)
  | .offsetDateTime, d => .scalar (.offsetDateTime d)
  | .universalDateTime, d => .scalar (.offsetDateTime (.universal d))
  | .time, t => .scalar (.time t)
  | .duration, s => .scalar (.duration s)
  | .guid, g => .scalar (.guid g)
  | .enum e, v => .scalar (.enum (e.form.bits v))
  | .geometry _, g => .scalar (.geometry g.val)

/-- A member is read as the single value that its value stands for. -/
theorem ScalarType.reading_eq {ρ : Type} (t : ScalarType) (v : t.Carrier) :
    (t.reading v : Reading ρ) = .scalar (t.toScalar v) := by
  cases t <;> rfl

/-- A type of operands. -/
inductive ValueType where
  | scalar (t : ScalarType)
  | optional (inner : ValueType)
  | sequence (form : SequenceForm) (item : ValueType)

namespace ValueType

/-- The values of a type. -/
def Carrier : ValueType → Type
  | .scalar t => t.Carrier
  | .optional inner => Option inner.Carrier
  | .sequence form item => { vs : List item.Carrier // form.admits vs.length = true }

/-- The name of a type inside another. -/
def innerName : ValueType → String
  | .scalar t => t.innerName
  | .optional inner => "core::option::Option<" ++ inner.innerName ++ ">"
  | .sequence form item => form.innerName item.innerName

/-- The name that an operand of a type is reported with. -/
def name : ValueType → String
  | .scalar t => t.name
  | .optional inner => (optional inner).innerName
  | .sequence form item => form.name item.innerName

/-- The type of an operand, found once from its type alone. -/
def operandType : ValueType → OperandType
  | .scalar t => .scalar t.kind t.name
  | .optional inner => .nullableOf inner.operandType (optional inner).name
  | .sequence form item => .arrayOf item.operandType (sequence form item).name

/-- The value that a value of a type stands for. -/
def toValue : (t : ValueType) → t.Carrier → Value
  | .scalar t, v => .scalar (t.toScalar v)
  | .optional inner, v =>
    match (v : Option inner.Carrier) with
    | none => .null
    | some w => inner.toValue w
  | .sequence _ item, vs => .list (vs.val.map item.toValue)

/-- A member may have the type: a single value that owns its text, or an optional one. -/
def isMemberType : ValueType → Bool
  | .scalar (.text .owned) => true
  | .scalar (.text _) => false
  | .scalar _ => true
  | .optional inner => inner.isMemberType
  | .sequence _ _ => false

/-- What is read from a member of a type that holds a value. -/
def toReading {ρ : Type} : (t : ValueType) → t.Carrier → Reading ρ
  | .scalar t, v => t.reading v
  | .optional inner, v =>
    match (v : Option inner.Carrier) with
    | none => .null
    | some w => inner.toReading w
  | .sequence _ item, vs => .list (vs.val.map item.toValue)

/-- Members and operands of a type agree: a member is read as the value that an operand stands
for. -/
theorem toReading_eq {ρ : Type} (t : ValueType) (v : t.Carrier) :
    (t.toReading v : Reading ρ) = .ofValue (t.toValue v) := by
  induction t with
  | scalar t => exact t.reading_eq v
  | optional inner ih =>
    cases v with
    | none => rfl
    | some w => exact ih w
  | sequence form item => rfl

end ValueType

end Winnow
