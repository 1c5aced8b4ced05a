/-
  Lower case. Each character is lowered by itself, except the Greek capital sigma, whose lower
  case is another letter at the end of a word.
-/
import Winnow.Text.LetterCase.Table
import Winnow.Text.Blank

namespace Winnow

namespace LetterCase

/-- The run takes the code point. -/
def Run.covers (r : Run) (code : Nat) : Bool :=
  r.low ≤ code && code ≤ r.high && (code - r.low) % r.step = 0

/-- The lower case of a character that stands alone. One capital, the dotted I, becomes two
characters. -/
def lowerChar (c : Char) : List Char :=
  if c.toNat < 128 then [c.toLower]
  else if c.toNat = 304 then ['i', Char.ofNat 775]
  else match lowerRuns.find? (·.covers c.toNat) with
    | some r => [Char.ofNat (c.toNat + r.shift).toNat]
    | none => [c]

/-- The character is a capital. -/
def isUppercase (c : Char) : Bool :=
  if c.toNat < 128 then c.isUpper else uppercaseRanges.contains c.toNat

/-- The character has a case. -/
def isCased (c : Char) : Bool :=
  if c.toNat < 128 then c.isAlpha else casedRanges.contains c.toNat

/-- The ASCII characters that do not end a word: apostrophe, point, colon, circumflex and grave
accent. -/
def asciiIgnorable : List Nat := [39, 46, 58, 94, 96]

/-- The character is looked through when the end of a word is sought. -/
def isIgnorable (c : Char) : Bool :=
  if c.toNat < 128 then asciiIgnorable.contains c.toNat
  else ignorableRanges.contains c.toNat

/-- The first character that is not looked through has a case. -/
def meetsCased (cs : List Char) : Bool :=
  match cs.dropWhile isIgnorable with
  | c :: _ => isCased c
  | [] => false

/-- A letter between `before`, read backwards, and `after` ends a word. -/
def endsWord (before after : List Char) : Bool := meetsCased before && !meetsCased after

def capitalSigma : Char := Char.ofNat 931
def smallSigma : Char := Char.ofNat 963
def finalSigma : Char := Char.ofNat 962

/-- The lower case of a text that follows `before`, which is read backwards. -/
def lowerAfter (before : List Char) : List Char → List Char
  | [] => []
  | c :: rest =>
    (if c = capitalSigma then [if endsWord before rest then finalSigma else smallSigma]
      else lowerChar c) ++ lowerAfter (c :: before) rest

end LetterCase

/-- The lower case of a text. -/
def lowerChars (cs : List Char) : List Char := LetterCase.lowerAfter [] cs

/-- The lower case of a text. -/
def lower (s : String) : String := String.ofList (lowerChars s.toList)

/-- The form in which texts are compared when case and surrounding white space do not count:
trimmed first, then in lower case. -/
def normalizeText (s : String) : String := lower (trim s)

theorem toList_lower (s : String) : (lower s).toList = lowerChars s.toList := by
  simp [lower]

theorem toList_normalizeText (s : String) :
    (normalizeText s).toList = lowerChars (trimChars s.toList) := by
  rw [normalizeText, toList_lower, toList_trim]

end Winnow
