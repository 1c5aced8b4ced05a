/-
  Names of members and of the constants that hold them. A member is named after its field, in one
  of two cases if a rule says so; its constant is the name in capitals.
-/
import Winnow.Text.LetterCase
import Winnow.Text.Word

namespace Winnow

/-- How the names of members follow from the names of fields. -/
inductive RenameRule where
  | pascal
  | camel
  deriving DecidableEq, Repr

namespace RenameRule

def name : RenameRule → String
  | pascal => "PascalCase"
  | camel => "camelCase"

def ofName? (s : String) : Option RenameRule := [pascal, camel].find? (·.name == s)

end RenameRule

namespace Naming

/-- The name without the marks of a raw identifier at its start. -/
def withoutRawMark : List Char → List Char
  | 'r' :: '#' :: rest => withoutRawMark rest
  | cs => cs

/-- The name with underscores left out and the letter after one in upper case. `capital` says that
the next letter is in upper case, `started` that a letter has been written. -/
def joinWords (rule : RenameRule) : Bool → Bool → List Char → List Char
  | _, _, [] => []
  | capital, started, c :: cs =>
    if c = '_' then joinWords rule (started || rule = .pascal) started cs
    else (if capital then c.toUpper else c) :: joinWords rule false true cs

/-- The name of a member by a rule. -/
def applyRule (rule : RenameRule) (field : String) : String :=
  String.ofList (joinWords rule (rule = .pascal) false (withoutRawMark field.toList))

/-- The name of a member: `rename` if there is one, else by the rule if there is one, else the name
of the field. -/
def memberName (rename : Option String) (rule : Option RenameRule) (field : String) : String :=
  match rename, rule with
  | some name, _ => name
  | none, some rule => applyRule rule field
  | none, none => String.ofList (withoutRawMark field.toList)

/-- The name in capitals, with an underscore for a separator and before a capital that follows a
lower-case letter or a digit. `afterLower` says that such a one has just been written. -/
def capitalize : Bool → List Char → List Char
  | _, [] => []
  | afterLower, c :: cs =>
    if LetterCase.isUppercase c then
      (if afterLower then ['_', c] else [c]) ++ capitalize false cs
    else if c = '_' ∨ c = '-' ∨ c = '.' then '_' :: capitalize false cs
    else c.toUpper :: capitalize (isAlphanumeric c) cs

/-- The name of the constant that holds the name of a member. -/
def constantName (member : String) : String := String.ofList (capitalize false member.toList)

end Naming

end Winnow
