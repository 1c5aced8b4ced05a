/-
  Enums: from the description of an item, how its values become bits.
-/
import Winnow.Derive.Item

namespace Winnow

/-- Why an item is not an enum whose values have bits. -/
inductive EnumFault where
  | generic
  | noVariants
  | variantWithData
  | notOneField
  | notAnEnum
  deriving DecidableEq, Repr

namespace EnumFault

/-- The message that is shown for a fault. -/
def message : EnumFault → String
  | generic => "CriteriaEnum cannot be derived for generic types"
  | noVariants => "CriteriaEnum cannot be derived for enums without variants"
  | variantWithData => "CriteriaEnum variants cannot carry data"
  | notOneField => "CriteriaEnum can only be derived for structs with a single unnamed field"
  | notAnEnum => "CriteriaEnum can only be derived for enums and newtype structs"

end EnumFault

/-- Where the bits of a value come from: the discriminant of its variant, or its only field. -/
inductive BitSource where
  | variants (names : List String)
  | field
  deriving DecidableEq, Repr

namespace BitSource

/-- Where the bits of the values of an item come from. -/
def derive (item : Item) : Except EnumFault BitSource :=
  if !item.generics.isEmpty then .error .generic
  else
    match item.body with
    | .enum [] => .error .noVariants
    | .enum vs =>
      if vs.all (·.shape = .unit) then .ok (.variants (vs.map Variant.name))
      else .error .variantWithData
    | .tuple [_] => .ok .field
    | .tuple _ | .record _ | .unit => .error .notOneField
    | .union => .error .notAnEnum

end BitSource

end Winnow
