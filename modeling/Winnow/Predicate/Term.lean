/-
  Terms: what a predicate compares. A term is read from a record, and has a text.
-/
import Winnow.Schema.Path
import Winnow.Text.LetterCase

namespace Winnow

/-- Fields of a listing between braces, after the name of what is listed. -/
def fieldsText (name : String) (fields : List (String × String)) : String :=
  name ++ " \x7b " ++ ", ".intercalate (fields.map fun f => f.1 ++ ": " ++ f.2) ++ " \x7d"

namespace MemberPath

/-- The parts of a path. -/
def inspect (p : MemberPath) : String :=
  fieldsText "MemberPath" [("param", quoteText p.parameter),
    ("segments", Value.listText (p.segments.map quoteText))]

end MemberPath

/-- A term: a member, a constant, or one made from others. -/
inductive Term where
  | member (path : MemberPath)
  | constant (v : Value)
  | trim (t : Term)
  | normalize (t : Term)
  | bits (t : Term)
  | bitOr (a b : Term)

namespace Term

def null : Term := .constant .null

/-- A change of a reading that is a text; other readings stay. -/
def onText {ρ : Type} (change : String → String) : Reading ρ → Reading ρ
  | .scalar (.text s) => .scalar (.text (change s))
  | r => r

/-- The bits of an enum as a number; other readings have none. -/
def bitsOf {ρ : Type} : Reading ρ → Reading ρ
  | .scalar (.enum b) => .scalar (.number (.unsigned b))
  | _ => .null

/-- The union of the bits of two unsigned numbers; other readings have none. -/
def unionOf {ρ : Type} : Reading ρ → Reading ρ → Reading ρ
  | .scalar (.number (.unsigned a)), .scalar (.number (.unsigned b)) =>
    .scalar (.number (.unsigned (a ||| b)))
  | _, _ => .null

/-- Reads a term from a record. -/
def read {ρ : Type} [Record ρ] (r : ρ) : Term → Reading ρ
  | .member path => path.read r
  | .constant v => .ofValue v
  | .trim t => onText Winnow.trim (t.read r)
  | .normalize t => onText normalizeText (t.read r)
  | .bits t => bitsOf (t.read r)
  | .bitOr a b => unionOf (a.read r) (b.read r)

/-- The text of a term. -/
def text : Term → String
  | .member path => path.text
  | .constant v => v.shown
  | .trim t => t.text ++ ".trim()"
  | .normalize t => t.text ++ ".trim().to_lowercase()"
  | .bits t => "bits(" ++ t.text ++ ")"
  | .bitOr a b => "(" ++ a.text ++ " | " ++ b.text ++ ")"

/-- The form of a term and its parts. -/
def inspect : Term → String
  | .member path => "Member(" ++ path.inspect ++ ")"
  | .constant v => "Constant(" ++ v.inspect ++ ")"
  | .trim t => "Trim(" ++ t.inspect ++ ")"
  | .normalize t => "Normalize(" ++ t.inspect ++ ")"
  | .bits t => "Bits(" ++ t.inspect ++ ")"
  | .bitOr a b => "BitOr(" ++ a.inspect ++ ", " ++ b.inspect ++ ")"

/-- Two terms are the same, constants included. -/
def same : Term → Term → Bool
  | .member p, .member q => p = q
  | .constant v, .constant w => v.same w
  | .trim t, .trim u => t.same u
  | .normalize t, .normalize u => t.same u
  | .bits t, .bits u => t.same u
  | .bitOr a b, .bitOr c d => a.same c && b.same d
  | _, _ => false

end Term

end Winnow
