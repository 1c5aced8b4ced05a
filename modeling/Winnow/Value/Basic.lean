/-
  Values: a null, a single value or a list. An operand of a criterion is a value.
-/
import Winnow.Value.Scalar

namespace Winnow

/-- A value that may be null or a list. -/
inductive Value where
  | null
  | scalar (s : Scalar)
  | list (items : List Value)

namespace Value

instance : Inhabited Value := ⟨.null⟩

instance : Coe Scalar Value := ⟨.scalar⟩

def isNull : Value → Bool
  | .null => true
  | _ => false

/-- The kind of a value; a null has none. -/
def kind? : Value → Option Kind
  | .null => none
  | .scalar s => some s.kind
  | .list _ => some .array

def number? : Value → Option Number
  | .scalar (.number n) => some n
  | _ => none

def text? : Value → Option String
  | .scalar (.text s) => some s
  | _ => none

def items? : Value → Option (List Value)
  | .list items => some items
  | _ => none

theorem kind?_eq_none_iff {v : Value} : v.kind? = none ↔ v = .null := by
  cases v <;> simp [kind?]

mutual

/-- Two values are the same, single values in kind, content and representation. -/
def same : Value → Value → Bool
  | .null, .null => true
  | .scalar a, .scalar b => a.same b
  | .list as, .list bs => sameItems as bs
  | _, _ => false

/-- Two lists of values are the same, item by item. -/
def sameItems : List Value → List Value → Bool
  | [], [] => true
  | a :: as, b :: bs => a.same b && sameItems as bs
  | _, _ => false

end

/-- The texts of items in brackets. -/
def listText (texts : List String) : String := "[" ++ ", ".intercalate texts ++ "]"

mutual

/-- The text of a value. -/
def shown : Value → String
  | .null => "null"
  | .scalar s => s.shown
  | .list items => listText (shownItems items)

/-- The texts of a list of values. -/
def shownItems : List Value → List String
  | [] => []
  | v :: vs => v.shown :: shownItems vs

end

mutual

/-- The form of a value and its content. -/
def inspect : Value → String
  | .null => "Null"
  | .scalar s => s.inspect "String"
  | .list items => "List(" ++ listText (inspectItems items) ++ ")"

/-- The forms and contents of a list of values. -/
def inspectItems : List Value → List String
  | [] => []
  | v :: vs => v.inspect :: inspectItems vs

end

end Value

end Winnow
