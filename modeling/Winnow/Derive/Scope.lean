/-
  The types that generated code is compiled with, and what the compiled code does.

  Generated code names types by the way they are written. A scope says what is behind a written
  type: its values, the single value or the record that a value is, and the values that options and
  sequences hold. The code compiles in a scope if every type is what the code takes it for and no
  two constants have one name; then it gives a schema and a function that reads members by name.
-/
import Winnow.Derive.Code
import Winnow.Schema.Basic

namespace Winnow

/-! ## Scopes -/

/-- A type with single values: the member type that it has, and the value of that type which each
of its values is. -/
structure SingleType (α : Type) where
  type : ValueType
  isMemberType : type.isMemberType = true
  value : α → type.Carrier

/-- What written types are. Record types have an index, and their values are read as records. -/
structure Scope (ι ρ : Type) where
  /-- The values of a type. -/
  Carrier : TypeExpr → Type
  /-- The type as one with single values. -/
  single? : (t : TypeExpr) → Option (SingleType (Carrier t))
  /-- The record type that the type has a schema of. -/
  model? : TypeExpr → Option ι
  /-- The record that each value of the type is. -/
  record? : (t : TypeExpr) → Option (Carrier t → ρ)
  /-- The type as an option: the type of the values in it, and the value in each, if any. -/
  option? : (t : TypeExpr) → Option ((inner : TypeExpr) × (Carrier t → Option (Carrier inner)))
  /-- The type as a sequence: the type of the items, and the items of each value. -/
  items? : (t : TypeExpr) → Option ((item : TypeExpr) × (Carrier t → List (Carrier item)))

variable {ι ρ : Type}

namespace Scope

variable (scope : Scope ι ρ)

/-- An instance of a record with the fields: a value for each. -/
def Instance : List ItemField → Type
  | [] => Unit
  | field :: fields => scope.Carrier field.type × Instance fields

/-- A field of the instances: its type and its value in each. -/
structure Projection (fields : List ItemField) where
  type : TypeExpr
  value : scope.Instance fields → scope.Carrier type

/-- The field with a name. -/
def field? : (fields : List ItemField) → String → Option (scope.Projection fields)
  | [], _ => none
  | field :: fields, name =>
    if field.name == name then some ⟨field.type, fun self => self.1⟩
    else (field? fields name).map fun p => ⟨p.type, fun self => p.value self.2⟩

end Scope

/-! ## Compiled code -/

/-- The member that a declaration gives, if its type can be declared so. -/
def MemberDecl.member? (scope : Scope ι ρ) (d : MemberDecl) : Option (Member ι) :=
  match d.shape with
  | .scalar t => (scope.single? t).map fun s => s.type.member d.name
  | .record t nullable => (scope.model? t).map fun i => ⟨d.name, .record i, nullable⟩
  | .collection t nullable => (scope.model? t).map fun i => ⟨d.name, .collection i, nullable⟩

/-- Reads the values of a type in a form, if they have that form. -/
def ReadForm.reader? (scope : Scope ι ρ) (t : TypeExpr) :
    ReadForm → Option (scope.Carrier t → Reading ρ)
  | .single => (scope.single? t).map fun s v => s.type.toReading (s.value v)
  | .record => (scope.record? t).map fun toRecord v => .record (toRecord v)
  | .records =>
    (scope.items? t).bind fun sequence =>
      (scope.record? sequence.1).map fun toRecord v =>
        .records ((sequence.2 v).map toRecord)

/-- Reads the values of a type by an arm. An arm for values that may be missing takes the type
for an option. -/
def ReadArm.reader? (scope : Scope ι ρ) (arm : ReadArm) (t : TypeExpr) :
    Option (scope.Carrier t → Reading ρ) :=
  if arm.optional then
    (scope.option? t).bind fun option =>
      (arm.form.reader? scope option.1).map fun read v => (option.2 v).elim .null read
  else arm.form.reader? scope t

/-- A name with what is read under it. -/
structure CompiledArm (scope : Scope ι ρ) (fields : List ItemField) where
  name : String
  read : scope.Instance fields → Reading ρ

/-- An arm reads the field that it names. -/
def ReadArm.compile? (scope : Scope ι ρ) (fields : List ItemField) (arm : ReadArm) :
    Option (CompiledArm scope fields) :=
  (scope.field? fields arm.source).bind fun p =>
    (arm.reader? scope p.type).map fun read => ⟨arm.name, fun self => read (p.value self)⟩

/-- Compiled code: the schema, and the arms in order. -/
structure CompiledModel (scope : Scope ι ρ) (fields : List ItemField) where
  schema : RecordType ι
  arms : List (CompiledArm scope fields)

/-- Compiles generated code for a record with the fields. Neither two fields nor two constants may
have one name. -/
def ModelCode.compile? (scope : Scope ι ρ) (fields : List ItemField) (code : ModelCode) :
    Option (CompiledModel scope fields) :=
  if (fields.map ItemField.name).Nodup ∧ (code.constants.map Prod.fst).Nodup then do
    let members ← code.members.mapM (MemberDecl.member? scope)
    let arms ← code.arms.mapM (ReadArm.compile? scope fields)
    return ⟨⟨code.typeName, members⟩, arms⟩
  else none

/-- What an instance answers for a name: what the first arm with exactly that name reads. -/
def CompiledModel.field? {scope : Scope ι ρ} {fields : List ItemField}
    (model : CompiledModel scope fields) (self : scope.Instance fields) (name : String) :
    Option (Reading ρ) :=
  (model.arms.find? (·.name == name)).map (·.read self)

end Winnow
