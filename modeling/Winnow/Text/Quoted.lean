/-
  Quoted texts and characters. A backslash stands before the quote in use, before a backslash,
  and before the letter of a line end, tab or nul; a character that would not show is spelled
  out by its code.
-/
import Winnow.Text.Unshown

namespace Winnow

namespace Quoted

/-- The code point of a character in lower-case hexadecimal digits, in braces. -/
def spelledOut (c : Char) : List Char :=
  '\\' :: 'u' :: '\x7b' :: (Nat.toDigits 16 c.toNat ++ ['\x7d'])

/-- A character between quotes `quote`. -/
def encodeChar (quote c : Char) : List Char :=
  if c = '\x00' then ['\\', '0']
  else if c = '\t' then ['\\', 't']
  else if c = '\r' then ['\\', 'r']
  else if c = '\n' then ['\\', 'n']
  else if c = '\\' ∨ c = quote then ['\\', c]
  else if isUnshown c then spelledOut c
  else [c]

/-- Characters between a pair of quotes. -/
def encode (quote : Char) (cs : List Char) : List Char :=
  quote :: (cs.flatMap (encodeChar quote) ++ [quote])

end Quoted

/-- A text in double quotes. -/
def quoteText (s : String) : String := String.ofList (Quoted.encode (Char.ofNat 34) s.toList)

/-- A character in single quotes. -/
def quoteChar (c : Char) : String := String.ofList (Quoted.encode (Char.ofNat 39) [c])

end Winnow
