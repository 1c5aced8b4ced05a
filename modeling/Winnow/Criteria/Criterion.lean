/-
  A criterion: an operator and its operands for a member that is named by a path. The operator
  and the operands are checked against the operand's type when the criterion is built; whether
  there is such a member is found out when it is compiled.
-/
import Winnow.Error
import Winnow.Types.Operand
import Winnow.Text.Blank

namespace Winnow

/-- A criterion. The second value bounds a range from above or is a distance. -/
structure Criterion where
  property : String
  operator : Operator
  connector : Connector
  value : Value
  value2 : Value
  type : OperandType

namespace Criterion

/-- The kind that a member has to have to be compared to the operand. -/
def operandKind (c : Criterion) : Kind := c.type.operandKind

/-- The text has no character that is not white space. -/
def isBlankText (s : String) : Bool := (trimChars s.toList).isEmpty

/-- What the second value lacks for the operator: a range needs an upper bound of the operand's
kind, a bounded distance needs a number. -/
def secondFault? (t : OperandType) (op : Operator) (value2 : Value) : Option Error :=
  match op with
  | .between =>
    match value2.kind? with
    | none => some (.invalidArgument .noUpperBound)
    | some k => if t.operandKind.accepts k then none else some (.unsupportedOperation op t.name)
  | .isWithinDistance =>
    if value2.number?.isSome then none else some (.invalidArgument .noDistance)
  | _ => none

/-- What is wrong with a criterion for an operand of a type, the path first, then the operator,
then the second value. -/
def fault? (t : OperandType) (property : String) (op : Operator) (value2 : Value) :
    Option Error :=
  if isBlankText property then some (.invalidArgument .blankProperty)
  else if !t.supports op then some (.unsupportedOperation op t.name)
  else secondFault? t op value2

/-- The criterion with an operand that has been converted from a value of a type. -/
def typed (t : OperandType) (property : String) (op : Operator) (value value2 : Value)
    (connector : Connector) : Except Error Criterion :=
  match fault? t property op value2 with
  | some e => .error e
  | none => .ok ⟨property, op, connector, value, value2, t⟩

/-- The criterion with an operand of a type. -/
def new (t : ValueType) (property : String) (op : Operator) (value : t.Carrier)
    (value2 : Option Value) (connector : Connector) : Except Error Criterion :=
  typed t.operandType property op (t.toValue value) (value2.getD .null) connector

/-- The criterion without an operand, for a member that is expected to be of a type. -/
def ofType (t : ValueType) (property : String) (op : Operator) (connector : Connector) :
    Except Error Criterion :=
  typed t.operandType property op .null .null connector

end Criterion

end Winnow
