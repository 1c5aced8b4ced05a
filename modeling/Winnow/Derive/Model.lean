/-
  Models of record types: from the description of an item, the members of its schema, the constants
  that hold their names, and the fields that they are read from.
-/
import Winnow.Derive.Item
import Winnow.Derive.Naming

namespace Winnow

/-- Why no model can be derived for an item. -/
inductive ModelFault where
  | generic
  | notNamedFields
  | notARecord
  | attributeWithoutParts
  | unknownRule (name : String)
  | ruleNotText
  | unknownItemPart
  | unknownWord
  | nameNotText
  | unknownFieldPart
  | nestedCollection
  | notASequence
  | constantNotAName (name : String)
  deriving DecidableEq, Repr

namespace ModelFault

/-- The message that is shown for a fault. -/
def message : ModelFault → String
  | generic => "Model cannot be derived for generic structs"
  | notNamedFields => "Model can only be derived for structs with named fields"
  | notARecord => "Model can only be derived for structs"
  | attributeWithoutParts => "expected attribute arguments in parentheses: #[criteria(...)]"
  | unknownRule name =>
    "unknown rename rule: '" ++ name ++ "'. Expected one of: PascalCase, camelCase"
  | ruleNotText => "rename_all must be a string literal"
  | unknownItemPart => "unknown criteria attribute. Expected: rename_all = \"...\""
  | unknownWord => "expected one of: skip, nested, collection"
  | nameNotText => "rename must be a string literal"
  | unknownFieldPart =>
    "unknown criteria attribute. Expected: skip, nested, collection, or rename = \"...\""
  | nestedCollection => "a field cannot be both nested and a collection"
  | notASequence => "collection fields must be a sequence type such as Vec<T>"
  | constantNotAName name => "'" ++ name ++ "' is not an identifier"

end ModelFault

/-! ## Attributes -/

/-- The parts of the attribute that is read; without it there are none. -/
def criteriaParts (attributes : List Attribute) : Except ModelFault (List Meta) :=
  match Attribute.criteria? attributes with
  | none => .ok []
  | some ⟨_, some metas⟩ => .ok metas
  | some ⟨_, none⟩ => .error .attributeWithoutParts

namespace RenameRule

/-- Takes one part of an item's attribute; the last rule counts. -/
def read (_ : Option RenameRule) : Meta → Except ModelFault (Option RenameRule)
  | .assign "rename_all" (some name) =>
    match ofName? name with
    | some rule => .ok (some rule)
    | none => .error (.unknownRule name)
  | .assign "rename_all" none => .error .ruleNotText
  | _ => .error .unknownItemPart

/-- The rule that the attributes of an item give. -/
def ofAttributes (attributes : List Attribute) : Except ModelFault (Option RenameRule) := do
  let metas ← criteriaParts attributes
  metas.foldlM read none

end RenameRule

/-- What the attributes of a field say. -/
structure FieldOptions where
  skip : Bool
  rename : Option String
  nested : Bool
  collection : Bool
  deriving DecidableEq, Repr

namespace FieldOptions

def plain : FieldOptions := ⟨false, none, false, false⟩

/-- Takes one part of a field's attribute; the last name counts. -/
def read (o : FieldOptions) : Meta → Except ModelFault FieldOptions
  | .word "skip" => .ok { o with skip := true }
  | .word "nested" => .ok { o with nested := true }
  | .word "collection" => .ok { o with collection := true }
  | .word _ => .error .unknownWord
  | .assign "rename" (some name) => .ok { o with rename := some name }
  | .assign "rename" none => .error .nameNotText
  | _ => .error .unknownFieldPart

/-- The options that the attributes of a field give. -/
def ofAttributes (attributes : List Attribute) : Except ModelFault FieldOptions := do
  let metas ← criteriaParts attributes
  let o ← metas.foldlM read plain
  if o.nested && o.collection then .error .nestedCollection else .ok o

end FieldOptions

/-! ## Members -/

/-- What a derived member is: a single value of a type, or a nested record or a list of nested
records of a type, which may be missing. -/
inductive MemberShape where
  | scalar (type : TypeExpr)
  | record (type : TypeExpr) (nullable : Bool)
  | collection (element : TypeExpr) (nullable : Bool)

namespace MemberShape

/-- The shape of a member that is read from a field of a type. -/
def ofField (o : FieldOptions) (type : TypeExpr) : Except ModelFault MemberShape :=
  let inner := type.optionInner?.getD type
  let nullable := type.optionInner?.isSome
  if o.nested then .ok (.record inner nullable)
  else if o.collection then
    match inner.element? with
    | some element => .ok (.collection element nullable)
    | none => .error .notASequence
  else .ok (.scalar type)

/-- The type that a member is declared with. -/
def type : MemberShape → TypeExpr
  | .scalar type | .record type _ | .collection type _ => type

/-- That a member may be missing, for those whose type does not say it. -/
def nullable? : MemberShape → Option Bool
  | .scalar _ => none
  | .record _ nullable | .collection _ nullable => some nullable

end MemberShape

/-- A derived member: its name, the constant that holds its name, the field that it is read from,
and its shape. -/
structure DerivedMember where
  name : String
  constant : String
  source : String
  shape : MemberShape

/-- A derived model: the name of its type and its members, in order. -/
structure DerivedModel where
  name : String
  members : List DerivedMember

namespace DerivedModel

/-- The member that is derived from a field, if it is not skipped. The constant is formed before
the type is looked at. -/
def member? (rule : Option RenameRule) (field : ItemField) :
    Except ModelFault (Option DerivedMember) := do
  let o ← FieldOptions.ofAttributes field.attributes
  if o.skip then return none
  let name := Naming.memberName o.rename rule field.name
  let constant := Naming.constantName name
  if !isIdentifier constant.toList then throw (.constantNotAName constant)
  let shape ← MemberShape.ofField o field.type
  return some ⟨name, constant, field.name, shape⟩

/-- The fields of an item, which has to be a record with named fields. -/
def fieldsOf : ItemBody → Except ModelFault (List ItemField)
  | .record fields => .ok fields
  | .tuple _ | .unit => .error .notNamedFields
  | .union | .enum _ => .error .notARecord

/-- Derives the model of an item. -/
def derive (item : Item) : Except ModelFault DerivedModel := do
  if !item.generics.isEmpty then throw .generic
  let fields ← fieldsOf item.body
  let rule ← RenameRule.ofAttributes item.attributes
  let members ← fields.mapM (member? rule)
  return ⟨item.name, members.filterMap id⟩

end DerivedModel

end Winnow
