/-
  Page requests: which part of a list is asked for. Pages are numbered from one and have a bounded
  size.
-/
import Winnow.Json.Binding

namespace Winnow

/-- A page: its number, its size, and how many items to pass over if that does not follow from
the number. -/
structure PageRequest where
  number : UInt64
  count : UInt64
  skip? : Option UInt64
  deriving DecidableEq, Repr

namespace PageRequest

/-- The largest size of a page. -/
def maxCount : Nat := 25000

/-- The first page of the usual size. -/
def default : PageRequest := ⟨1, 25, none⟩

instance : Inhabited PageRequest := ⟨default⟩

/-- The page with a number and a size. The number is checked first. -/
def ofNumber (number count : UInt64) : Except Error PageRequest :=
  if number = 0 then .error (.invalidPagination .number number.toNat 1 (UInt64.size - 1))
  else if count = 0 ∨ maxCount < count.toNat then
    .error (.invalidPagination .count count.toNat 1 maxCount)
  else .ok ⟨number, count, none⟩

/-- The page with the number of items to pass over. -/
def withSkip (p : PageRequest) (skip : UInt64) : PageRequest := { p with skip? := some skip }

/-- The product of two words, or the greatest word if the product is not one. -/
def saturatingMul (a b : UInt64) : UInt64 :=
  if a.toNat * b.toNat < UInt64.size then a * b else UInt64.ofNat (UInt64.size - 1)

/-- The number of items before the page. -/
def skip (p : PageRequest) : UInt64 := p.skip?.getD (saturatingMul (p.number - 1) p.count)

/-- The items of the page. -/
def select {α : Type} (p : PageRequest) (items : List α) : List α :=
  (items.drop p.skip.toNat).take p.count.toNat

/-! ## JSON -/

/-- A page request as it is read, before it is checked. -/
structure Draft where
  number : UInt64
  count : UInt64
  skip? : Option UInt64

namespace Draft

/-- The fields of a page request, in order. -/
def fields : List (Json.Field Draft) :=
  [.of "Number" Json.bindWord fun n d => { d with number := n },
    .of "Count" Json.bindWord fun n d => { d with count := n },
    .of "Skip" (Json.bindOption Json.bindWord) fun n d => { d with skip? := n }]

/-- The page that is asked for, if it is one. -/
def check (d : Draft) : Except Error PageRequest := do
  let p ← ofNumber d.number d.count
  match d.skip? with
  | some n => return p.withSkip n
  | none => return p

end Draft

/-- Reads a page request; fields that are left out are those of the default page. -/
def ofJson (j : Json) : Json.Bound PageRequest := do
  let d ← Json.bindRecord Draft.fields ⟨default.number, default.count, none⟩ j
  match d.check with
  | .ok p => return p
  | .error e => throw (.value e)

def toJson (p : PageRequest) : Json :=
  .ofEntries <|
    [("Number", .ofNat p.number.toNat), ("Count", .ofNat p.count.toNat)] ++
      (p.skip?.map fun n => ("Skip", Json.ofNat n.toNat)).toList

end PageRequest

end Winnow
