/-
  Sort orders: by a member, then by another, both in one direction. Rows are sorted stably, so
  rows that tie stay in their order in both directions.
-/
import Winnow.Schema.Path
import Winnow.Json.Binding

namespace Winnow

/-- The direction of a sort. -/
inductive Direction where
  | asc
  | desc
  deriving DecidableEq, Repr

namespace Direction

/-- The name a direction is written with. -/
def name : Direction → String
  | asc => "Asc"
  | desc => "Desc"

def ofName? (s : String) : Option Direction := [asc, desc].find? (·.name == s)

/-- The order in a direction: descending, it is reversed as a whole. -/
def apply (d : Direction) (o : Ordering) : Ordering :=
  match d with
  | asc => o
  | desc => o.swap

end Direction

/-- What rows are sorted by: the path of a member, and that of a member to break ties. -/
structure SortOrder where
  key : String
  tieBreaker : Option String
  direction : Direction
  deriving DecidableEq, Repr

namespace SortOrder

/-- The order that is used if none is given. -/
def default : SortOrder := ⟨"Id", none, .asc⟩

instance : Inhabited SortOrder := ⟨default⟩

/-- The resolved paths of a sort order. -/
structure Keys where
  primary : MemberPath
  secondary : Option MemberPath

variable {ι : Type}

/-- Resolves the path of a sort key, which has to name a single value. -/
def resolveKey (family : Family ι) (i : ι) (path : String) : Except Error MemberPath := do
  let segments ← splitSegments (trimChars path.toList) path
  let r ← family.resolve i segments rowParameter
  match r.type with
  | .scalar _ => return r.path
  | _ => .error (.invalidPath path .notScalar)

/-- Resolves the paths of a sort order. -/
def keys (family : Family ι) (i : ι) (o : SortOrder) : Except Error Keys := do
  let primary ← resolveKey family i o.key
  match o.tieBreaker with
  | none => return ⟨primary, none⟩
  | some path =>
    let secondary ← resolveKey family i path
    return ⟨primary, some secondary⟩

variable {ρ : Type} [Record ρ]

/-- The order of two records by resolved paths. -/
def Keys.compare (k : Keys) (a b : ρ) : Ordering :=
  let first := (k.primary.read a).compareKeys (k.primary.read b)
  match k.secondary with
  | none => first
  | some path => first.then ((path.read a).compareKeys (path.read b))

/-- Puts a record behind the records that it is not before. The records are in reverse. -/
def insertBack (before : ρ → ρ → Bool) (r : ρ) : List ρ → List ρ
  | [] => [r]
  | last :: rest => if before r last then last :: insertBack before r rest else r :: last :: rest

/-- Sorts records stably. -/
def sortWith (before : ρ → ρ → Bool) (rs : List ρ) : List ρ :=
  (rs.foldl (fun sorted r => insertBack before r sorted) []).reverse

/-- Sorts records of a type. Whether they can be sorted is decided by their type alone. -/
def sort (family : Family ι) (i : ι) (o : SortOrder) (rs : List ρ) : Except Error (List ρ) := do
  let k ← o.keys family i
  return sortWith (fun a b => o.direction.apply (k.compare a b) == .lt) rs

/-! ## JSON -/

/-- The fields of a sort order, in order. -/
def fields : List (Json.Field SortOrder) :=
  [.of "By" Json.bindString fun s o => { o with key := s },
    .of "ThenBy" (Json.bindOption Json.bindString) fun s o => { o with tieBreaker := s },
    .of "Direction" (Json.bindName Direction.ofName?) fun d o => { o with direction := d }]

/-- Reads a sort order; fields that are left out are those of the default order. -/
def ofJson : Json → Json.Bound SortOrder := Json.bindRecord fields default

def toJson (o : SortOrder) : Json :=
  .ofEntries [("By", .ofString o.key), ("ThenBy", (o.tieBreaker.map .ofString).getD .null),
    ("Direction", .ofString o.direction.name)]

end SortOrder

end Winnow
