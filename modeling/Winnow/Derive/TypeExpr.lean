/-
  Types as they are written in the description of an item: their text, and the types that optional
  and sequence types are made from.
-/

namespace Winnow

mutual

/-- A type: a path whose last name may have arguments, or one built from other types. -/
inductive TypeExpr where
  | path (names : List String) (arguments : List TypeArgument)
  | array (item : TypeExpr) (length : Nat)
  | slice (item : TypeExpr)
  | reference (target : TypeExpr)
  | tuple (items : List TypeExpr)

/-- An argument of a type. -/
inductive TypeArgument where
  | lifetime (name : String)
  | type (t : TypeExpr)

end

namespace TypeExpr

instance : Inhabited TypeExpr := ⟨.tuple []⟩

/-- Items between brackets, with commas between them. -/
def enclosed (left right : String) (items : List String) : String :=
  left ++ ",".intercalate items ++ right

/-- A tuple of one item keeps a comma after it. -/
def tupleText : List String → String
  | [item] => enclosed "(" ",)" [item]
  | items => enclosed "(" ")" items

mutual

/-- The text of a type, without blanks. -/
def text : TypeExpr → String
  | .path names arguments =>
    "::".intercalate names ++
      if arguments.isEmpty then "" else enclosed "<" ">" (argumentTexts arguments)
  | .array item length => "[" ++ item.text ++ ";" ++ toString length ++ "]"
  | .slice item => "[" ++ item.text ++ "]"
  | .reference target => "&" ++ target.text
  | .tuple items => tupleText (texts items)

/-- The texts of a list of types. -/
def texts : List TypeExpr → List String
  | [] => []
  | t :: ts => t.text :: texts ts

/-- The texts of the arguments of a type. -/
def argumentTexts : List TypeArgument → List String
  | [] => []
  | .lifetime name :: rest => name :: argumentTexts rest
  | .type t :: rest => t.text :: argumentTexts rest

end

/-- The types among the arguments of a type. -/
def typeArguments (arguments : List TypeArgument) : List TypeExpr :=
  arguments.filterMap fun
    | .type t => some t
    | .lifetime _ => none

/-- The only type among the arguments of a type. -/
def singleArgument? (arguments : List TypeArgument) : Option TypeExpr :=
  match typeArguments arguments with
  | [t] => some t
  | _ => none

/-- The type that an optional type adds a null to. A type is optional if its last name is
`Option` and it has one type as an argument. -/
def optionInner? : TypeExpr → Option TypeExpr
  | .path names arguments =>
    if names.getLast? = some "Option" then singleArgument? arguments else none
  | _ => none

/-- The type of the items of a sequence: an array, a slice, a reference to a sequence, or a type
with one type as an argument, which may be a slice. -/
def element? : TypeExpr → Option TypeExpr
  | .array item _ => some item
  | .slice item => some item
  | .reference target => target.element?
  | .path _ arguments =>
    match singleArgument? arguments with
    | some (.slice item) => some item
    | other => other
  | .tuple _ => none

end TypeExpr

end Winnow
