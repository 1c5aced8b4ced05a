/-
  Binding: values of the library read from JSON, part by part in the order of the text, so that the
  first fault decides. A record is an object with keys or an array of its fields in order; fields
  may be left out.
-/
import Winnow.Json.Tree
import Winnow.Error

namespace Winnow.Json

/-- Why a JSON text is refused: its form is wrong, or a value that it gives is. -/
inductive Refusal where
  | form
  | value (e : Error)
  deriving DecidableEq, Repr

/-- A value read from JSON. -/
abbrev Bound (α : Type) : Type := Except Refusal α

def bindNull : Json → Bound Unit
  | .null => .ok ()
  | _ => .error .form

def bindBool : Json → Bound Bool
  | .bool b => .ok b
  | _ => .error .form

def bindString : Json → Bound String
  | .string (some s) => .ok s
  | _ => .error .form

/-- Reads a natural number of 64 bits. -/
def bindWord : Json → Bound UInt64
  | .number (some n) => if n < UInt64.size then .ok (UInt64.ofNat n) else .error .form
  | _ => .error .form

/-- Reads a value, or a null for none. -/
def bindOption {α : Type} (bind : Json → Bound α) : Json → Bound (Option α)
  | .null => .ok none
  | v => (bind v).map some

/-- Reads a name: a string, or an object with the name as its only key and a null. -/
def bindName {α : Type} (ofName? : String → Option α) (j : Json) : Bound α :=
  let named (s : String) : Bound α :=
    match ofName? s with
    | some a => .ok a
    | none => .error .form
  match j with
  | .string (some s) => named s
  | .object [(some s, .null)] => named s
  | _ => .error .form

/-! ## Records -/

/-- A field of a record: its key, and how it is read into the record. -/
structure Field (α : Type) where
  key : String
  bind : Json → α → Bound α

namespace Field

/-- The field with a key that is read by `bind` and stored by `store`. -/
def of {α β : Type} (key : String) (bind : Json → Bound β) (store : β → α → α) : Field α :=
  ⟨key, fun j a => (bind j).map (store · a)⟩

end Field

variable {α : Type}

/-- Reads entries into a record. Keys of no field are passed over; a key of a field may come only
once, and those of `seen` have come before. -/
def bindEntries (fields : List (Field α)) :
    List String → List (Option String × Json) → α → Bound α
  | _, [], a => .ok a
  | _, (none, _) :: _, _ => .error .form
  | seen, (some key, v) :: rest, a =>
    match fields.find? (·.key == key) with
    | none => if v.isWhole then bindEntries fields seen rest a else .error .form
    | some field =>
      if seen.contains key then .error .form
      else do
        let a ← field.bind v a
        bindEntries fields (key :: seen) rest a

/-- Reads items into the fields of a record, in order; there may not be more items than fields. -/
def bindItems : List (Field α) → List Json → α → Bound α
  | _, [], a => .ok a
  | [], _ :: _, _ => .error .form
  | field :: fields, v :: rest, a => do
    let a ← field.bind v a
    bindItems fields rest a

/-- Reads a record; fields that are left out keep what they have in `a`. -/
def bindRecord (fields : List (Field α)) (a : α) : Json → Bound α
  | .object entries => bindEntries fields [] entries a
  | .array items => bindItems fields items a
  | _ => .error .form

/-- Reads a value from a text that holds nothing else. -/
def bindText (bind : Json → Bound α) (s : String) : Bound α := do
  let (v, isAll) := parse s
  let a ← bind v
  if isAll then return a else .error .form

end Winnow.Json
