/-
  Schemas: the record types of a family, which refer to each other by index and may do so in
  circles, and the members that they declare.
-/
import Winnow.Kind
import Winnow.Types.Operand

namespace Winnow

/-- The type of a member: a single value, a nested record or a list of nested records. -/
inductive MemberType (ι : Type) where
  | scalar (kind : Kind)
  | record (next : ι)
  | collection (element : ι)
  deriving DecidableEq, Repr

/-- A member of a record type. -/
structure Member (ι : Type) where
  name : String
  type : MemberType ι
  nullable : Bool
  deriving DecidableEq, Repr

/-- A record type: its name and its members, in order. -/
structure RecordType (ι : Type) where
  name : String
  members : List (Member ι)

/-- The record types that refer to each other by an index. -/
abbrev Family (ι : Type) : Type := ι → RecordType ι

/-- An ASCII letter in lower case, any other character as it is. -/
def foldCase (s : String) : List Char := s.toList.map Char.toLower

/-- Two names differ at most in the case of ASCII letters. -/
def sameName (a b : String) : Bool := foldCase a = foldCase b

namespace MemberType

variable {ι : Type}

/-- The type as messages describe it. -/
def describe (family : Family ι) : MemberType ι → String
  | scalar kind => kind.name
  | record next => "record " ++ (family next).name
  | collection element => "collection of " ++ (family element).name

/-- The form of a type and what it is made of. -/
def inspect (family : Family ι) : MemberType ι → String
  | scalar kind => "Scalar(" ++ kind.label ++ ")"
  | record next => "Record(" ++ quoteText (family next).name ++ ")"
  | collection element => "Collection(" ++ quoteText (family element).name ++ ")"

end MemberType

/-- What a declared type says of a member: the kind of its values, and that it may be null. -/
def ValueType.member {ι : Type} (t : ValueType) (name : String) : Member ι :=
  ⟨name, .scalar t.operandType.kind, t.operandType.nullable⟩

/-- The member with a name: the one of exactly that name, or else the first that differs only in
the case of ASCII letters. -/
def RecordType.member? {ι : Type} (t : RecordType ι) (name : String) : Option (Member ι) :=
  (t.members.find? (·.name == name)).or (t.members.find? fun m => sameName m.name name)

end Winnow
