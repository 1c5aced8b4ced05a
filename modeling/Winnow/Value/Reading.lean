/-
  Readings: what a member of a record holds when it is read, and how two readings compare. A
  record is anything whose members can be read by name.
-/
import Winnow.Value.Basic
import Winnow.Text.Search

namespace Winnow

/-- What is read from a member: a value, a nested record or a list of nested records. -/
inductive Reading (ρ : Type) where
  | null
  | scalar (s : Scalar)
  | list (items : List Value)
  | record (r : ρ)
  | records (rs : List ρ)

/-- A type of records: each answers the members that it has by their exact names. -/
class Record (ρ : Type) where
  read? : ρ → String → Option (Reading ρ)

namespace Reading

variable {ρ σ : Type}

def isNull : Reading ρ → Bool
  | .null => true
  | _ => false

def text? : Reading ρ → Option String
  | .scalar (.text s) => some s
  | _ => none

def number? : Reading ρ → Option Number
  | .scalar (.number n) => some n
  | _ => none

/-- A value as it is read from a member that holds it. -/
def ofValue : Value → Reading ρ
  | .null => .null
  | .scalar s => .scalar s
  | .list items => .list items

/-- Compares two single values of one kind; other readings compare to nothing. -/
def compare? : Reading ρ → Reading σ → Option Ordering
  | .scalar a, .scalar b => a.compare? b
  | _, _ => none

/-- Two readings are equal: two nulls are, and a null equals nothing else. -/
def equals : Reading ρ → Reading σ → Bool
  | .null, .null => true
  | .scalar a, .scalar b => a.equals b
  | _, _ => false

/-- The order of two readings as sort keys: nulls come last, and readings that do not compare
are tied. -/
def compareKeys : Reading ρ → Reading σ → Ordering
  | .null, .null => .eq
  | .null, _ => .gt
  | _, .null => .lt
  | a, b => (a.compare? b).getD .eq

theorem compare?_swap (a : Reading ρ) (b : Reading σ) :
    b.compare? a = (a.compare? b).map Ordering.swap := by
  cases a <;> cases b <;> first | rfl | exact Scalar.compare?_swap _ _

theorem equals_comm (a : Reading ρ) (b : Reading σ) : a.equals b = b.equals a := by
  cases a <;> cases b <;> first | rfl | exact Scalar.equals_comm _ _

/-- The form of a reading and its content; of records, only that there are some. -/
def inspect : Reading ρ → String
  | .null => "Null"
  | .scalar s => s.inspect "Str"
  | .list items => "List(" ++ Value.listText (Value.inspectItems items) ++ ")"
  | .record _ => "Record(..)"
  | .records rs => "Records(len=" ++ toString rs.length ++ ")"

end Reading

/-! ## Tests of two readings -/

/-- A comparison of two readings. -/
inductive Comparison where
  | eq
  | ne
  | gt
  | ge
  | lt
  | le
  deriving DecidableEq, Repr

namespace Comparison

def all : List Comparison := [eq, ne, gt, ge, lt, le]

/-- The sign a comparison is written with. -/
def sign : Comparison → String
  | eq => "=="
  | ne => "!="
  | gt => ">"
  | ge => ">="
  | lt => "<"
  | le => "<="

def ofSign? (s : String) : Option Comparison := all.find? (·.sign == s)

/-- An order of two readings satisfies the comparison. -/
def accepts : Comparison → Ordering → Bool
  | eq, o => o == .eq
  | ne, o => o != .eq
  | gt, o => o == .gt
  | ge, o => o != .lt
  | lt, o => o == .lt
  | le, o => o != .gt

/-- The comparison holds of two readings. Readings that do not compare, nulls among them,
satisfy no comparison by order. -/
def holds {ρ σ : Type} (c : Comparison) (a : Reading ρ) (b : Reading σ) : Bool :=
  match c with
  | eq => a.equals b
  | ne => !a.equals b
  | _ => (a.compare? b).any c.accepts

end Comparison

/-- A test of a text against another. -/
inductive TextTest where
  | startsWith
  | endsWith
  | contains
  deriving DecidableEq, Repr

namespace TextTest

def all : List TextTest := [startsWith, endsWith, contains]

/-- The name a test is called by. -/
def name : TextTest → String
  | startsWith => "starts_with"
  | endsWith => "ends_with"
  | contains => "contains"

def ofName? (s : String) : Option TextTest := all.find? (·.name == s)

/-- The test holds of the characters of a text and of the part that is looked for. -/
def holdsOf (t : TextTest) (cs part : List Char) : Bool :=
  match t with
  | startsWith => part.isPrefixOf cs
  | endsWith => part.isSuffixOf cs
  | contains => occursIn part cs

/-- The test holds of two readings, which have to be texts. -/
def holds {ρ σ : Type} (t : TextTest) (a : Reading ρ) (b : Reading σ) : Bool :=
  match a.text?, b.text? with
  | some s, some part => t.holdsOf s.toList part.toList
  | _, _ => false

end TextTest

end Winnow
