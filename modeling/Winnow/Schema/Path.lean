/-
  Paths to members: a text is cut into segments, the segments are resolved against a family of
  record types, and the resolved path is read from a record.
-/
import Winnow.Schema.Basic
import Winnow.Error
import Winnow.Text.Blank
import Winnow.Text.Search

namespace Winnow

/-! ## Resolved paths -/

/-- The name of the row that a path starts at. -/
def rowParameter : String := "x"

/-- The name of the element of a collection that a path starts at. -/
def elementParameter : String := "i"

/-- A path to a member: the name of what it starts at, and the exact names of the records on the
way and of the member. -/
structure MemberPath where
  parameter : String
  segments : List String
  deriving DecidableEq, Repr

namespace MemberPath

/-- The parameter and the names, with points between them. -/
def text (p : MemberPath) : String := ".".intercalate (p.parameter :: p.segments)

/-- Reads along a path: a member that is missing, and any reading on the way that is not a
record, gives a null. -/
def readSegments {ρ : Type} [Record ρ] : List String → ρ → Reading ρ
  | [], _ => .null
  | [last], r => (Record.read? r last).getD .null
  | name :: rest, r =>
    match Record.read? r name with
    | some (.record next) => readSegments rest next
    | _ => .null

/-- Reads the member from a record. -/
def read {ρ : Type} [Record ρ] (p : MemberPath) (r : ρ) : Reading ρ := readSegments p.segments r

end MemberPath

/-- A path with what is known of its member: the name of the type that declares it, its type, and
whether it or a record on the way may be null. -/
structure ResolvedMember (ι : Type) where
  path : MemberPath
  owner : String
  type : MemberType ι
  nullable : Bool

namespace ResolvedMember

/-- The same member, reached through the nested record `m`. -/
def through {ι : Type} (m : Member ι) (r : ResolvedMember ι) : ResolvedMember ι :=
  { r with
    path := { r.path with segments := m.name :: r.path.segments }
    nullable := m.nullable || r.nullable }

end ResolvedMember

/-! ## Resolution -/

namespace Family

variable {ι : Type}

/-- Resolves segments from a record type on; `path` is the whole path for messages. -/
def resolveFrom (family : Family ι) (parameter : String) (path : String) :
    ι → List String → Except Error (ResolvedMember ι)
  | _, [] => .error (.invalidPath "" .noSegments)
  | i, [last] =>
    match (family i).member? last with
    | none => .error (.memberNotFound path last (family i).name)
    | some m => .ok ⟨⟨parameter, [m.name]⟩, (family i).name, m.type, m.nullable⟩
  | i, segment :: rest =>
    match (family i).member? segment with
    | none => .error (.memberNotFound path segment (family i).name)
    | some m =>
      match m.type with
      | .record next => (resolveFrom family parameter path next rest).map (·.through m)
      | _ => .error (.notARecord path m.name (family i).name)

/-- Resolves segments against a record type. All but the last have to name nested records. -/
def resolve (family : Family ι) (i : ι) (segments : List String) (parameter : String) :
    Except Error (ResolvedMember ι) :=
  resolveFrom family parameter (".".intercalate segments) i segments

end Family

/-! ## Segments -/

/-- The pieces of a text between points, each without the white space around it; an empty piece is
a fault of the path `shown`. -/
def splitSegments (cs : List Char) (shown : String) : Except Error (List String) :=
  let pieces := (cutAt '.' cs).map trimChars
  if pieces.any (·.isEmpty) then .error (.invalidPath shown .emptySegment)
  else .ok (pieces.map String.ofList)

/-- A property path: segments, or the segments of a collection and of a member of its
elements. -/
inductive PropertyPath where
  | plain (segments : List String)
  | bracketed (base inner : List String)
  deriving DecidableEq, Repr

namespace PropertyPath

/-- The text before and in the brackets of a trimmed path, or nothing if it has no brackets. -/
def splitBrackets (cs : List Char) : Except PathFault (Option (List Char × List Char)) :=
  let opens := cs.count '['
  let closes := cs.count ']'
  if opens = 0 ∧ closes = 0 then .ok none
  else if opens ≠ closes then .error .unbalancedBrackets
  else if opens ≠ 1 then .error .severalBrackets
  else
    let base := cs.takeWhile (· ≠ '[')
    let rest := cs.dropWhile (· ≠ '[')
    if base.contains ']' then .error .unbalancedBrackets
    else if cs.getLast? ≠ some ']' then .error .textAfterBracket
    else .ok (some (base, rest.tail.dropLast))

/-- Reads a property path. -/
def parse (property : String) : Except Error PropertyPath := do
  let cs := trimChars property.toList
  let shown := String.ofList cs
  match splitBrackets cs with
  | .error fault => .error (.invalidPath shown fault)
  | .ok none => return .plain (← splitSegments cs shown)
  | .ok (some (base, inner)) =>
    let base ← splitSegments base shown
    let inner ← splitSegments inner shown
    return .bracketed base inner

end PropertyPath

end Winnow
