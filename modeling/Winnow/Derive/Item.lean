/-
  Descriptions of the items that models and enums are derived for.
-/
import Winnow.Derive.TypeExpr

namespace Winnow

/-- One part of an attribute: a word, a word with a value, or a word with parts of its own. -/
inductive Meta where
  | word (name : String)
  | assign (name : String) (text : Option String)
  | list (name : String)
  deriving DecidableEq, Repr

/-- An attribute of an item or a field, with its parts in brackets if it has brackets. -/
structure Attribute where
  name : String
  metas : Option (List Meta)
  deriving DecidableEq, Repr

namespace Attribute

/-- The attribute that is read; others are passed over. -/
def criteria? (attributes : List Attribute) : Option Attribute :=
  attributes.find? (·.name == "criteria")

end Attribute

/-- A named field. -/
structure ItemField where
  name : String
  type : TypeExpr
  attributes : List Attribute

/-- What a variant carries. -/
inductive VariantShape where
  | unit
  | tuple
  | named
  deriving DecidableEq, Repr

/-- A variant of an enum. -/
structure Variant where
  name : String
  shape : VariantShape
  deriving DecidableEq, Repr

/-- What an item is. -/
inductive ItemBody where
  | record (fields : List ItemField)
  | tuple (fields : List TypeExpr)
  | unit
  | union
  | enum (variants : List Variant)

/-- An item: its name, its generic parameters, its attributes, and what it is. -/
structure Item where
  name : String
  generics : List String
  attributes : List Attribute
  body : ItemBody

end Winnow
