/-
  The code that is generated for a model: the constants that hold the names of its members, the
  declarations that its schema is made from, and the arms that its members are read by. The lists
  are written side by side, one field after another.
-/
import Winnow.Derive.Model

namespace Winnow

/-- How a field is read: as a single value, as a nested record or as a list of nested records. -/
inductive ReadForm where
  | single
  | record
  | records
  deriving DecidableEq, Repr

/-- The form in which a member of a shape is read. -/
def MemberShape.form : MemberShape → ReadForm
  | .scalar _ => .single
  | .record _ _ => .record
  | .collection _ _ => .records

/-- An arm that reads a member: the name of the member, the field that it is read from, the form,
and that a missing value is read as a null. -/
structure ReadArm where
  name : String
  source : String
  form : ReadForm
  optional : Bool
  deriving DecidableEq, Repr

/-- The declaration of a member. -/
structure MemberDecl where
  name : String
  shape : MemberShape

/-- Generated code: the constants with the names that they hold, the declarations and the arms,
each in the order of the fields. -/
structure ModelCode where
  typeName : String
  constants : List (String × String)
  members : List MemberDecl
  arms : List ReadArm

namespace ModelCode

/-- What a field is declared as, and how it is read. -/
def declare (o : FieldOptions) (type : TypeExpr) :
    Except ModelFault (MemberShape × ReadForm × Bool) :=
  let inner := type.optionInner?.getD type
  let optional := type.optionInner?.isSome
  if o.nested then .ok (.record inner optional, .record, optional)
  else if o.collection then
    match inner.element? with
    | some element => .ok (.collection element optional, .records, optional)
    | none => .error .notASequence
  else .ok (.scalar type, .single, false)

/-- Writes what is generated for a field after what is there; for a skipped field it is nothing. -/
def addField (rule : Option RenameRule) (code : ModelCode) (field : ItemField) :
    Except ModelFault ModelCode := do
  let o ← FieldOptions.ofAttributes field.attributes
  if o.skip then return code
  let name := Naming.memberName o.rename rule field.name
  let constant := Naming.constantName name
  if !isIdentifier constant.toList then throw (.constantNotAName constant)
  let (shape, form, optional) ← declare o field.type
  return { code with
    constants := code.constants ++ [(constant, name)]
    members := code.members ++ [⟨name, shape⟩]
    arms := code.arms ++ [⟨name, field.name, form, optional⟩] }

/-- Generates the code for an item. -/
def generate (item : Item) : Except ModelFault ModelCode := do
  if !item.generics.isEmpty then throw .generic
  let fields ← DerivedModel.fieldsOf item.body
  let rule ← RenameRule.ofAttributes item.attributes
  fields.foldlM (addField rule) ⟨item.name, [], [], []⟩

end ModelCode

end Winnow
