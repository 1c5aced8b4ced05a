/-
  The tokens of a JSON text. A text that goes wrong has the tokens up to there and then one that
  says so, so that what is found before the fault can be told from what comes after it.
-/
import Winnow.Guid

namespace Winnow.Json

/-- A token. A number is known by its value if it is written as a natural number, a string by its
characters unless half of a surrogate pair stands alone in it. -/
inductive Token where
  | leftBracket
  | rightBracket
  | leftBrace
  | rightBrace
  | comma
  | colon
  | null
  | bool (b : Bool)
  | number (n : Option Nat)
  | string (s : Option String)
  | broken
  deriving DecidableEq, Repr

/-! ## Strings -/

/-- A piece of a string: a character, or a 16-bit unit that is spelled out. -/
inductive Piece where
  | char (c : Char)
  | unit (n : Nat)
  deriving DecidableEq, Repr

def isHighSurrogate (n : Nat) : Bool := 0xD800 ≤ n && n < 0xDC00

def isLowSurrogate (n : Nat) : Bool := 0xDC00 ≤ n && n < 0xE000

/-- The characters of a list of pieces: two units that are a surrogate pair are one character,
and half of a pair is none. -/
def joinPieces : List Piece → Option (List Char)
  | [] => some []
  | .char c :: rest => (joinPieces rest).map (c :: ·)
  | [.unit n] => if isHighSurrogate n || isLowSurrogate n then none else some [Char.ofNat n]
  | .unit n :: .char c :: rest =>
    if isHighSurrogate n || isLowSurrogate n then none
    else (joinPieces rest).map fun cs => Char.ofNat n :: c :: cs
  | .unit n :: .unit m :: rest =>
    if isHighSurrogate n then
      if isLowSurrogate m then
        (joinPieces rest).map (Char.ofNat (0x10000 + (n - 0xD800) * 0x400 + (m - 0xDC00)) :: ·)
      else none
    else if isLowSurrogate n then none
    else (joinPieces (.unit m :: rest)).map (Char.ofNat n :: ·)

/-- The value of four hexadecimal digits. -/
def hexUnit? (a b c d : Char) : Option Nat := do
  let a ← Guid.hexValue? a
  let b ← Guid.hexValue? b
  let c ← Guid.hexValue? c
  let d ← Guid.hexValue? d
  return ((a * 16 + b) * 16 + c) * 16 + d

/-- The character that a letter after a backslash stands for. -/
def escaped? (c : Char) : Option Char :=
  match c with
  | '\x22' => some '\x22'
  | '\\' => some '\\'
  | '/' => some '/'
  | 'b' => some '\x08'
  | 'f' => some '\x0c'
  | 'n' => some '\n'
  | 'r' => some '\r'
  | 't' => some '\t'
  | _ => none

/-- The pieces of a string up to its closing quote, and the text after it. -/
def scanString : List Char → Option (List Piece × List Char)
  | [] => none
  | '\x22' :: rest => some ([], rest)
  | '\\' :: 'u' :: a :: b :: c :: d :: rest => do
    let n ← hexUnit? a b c d
    let (pieces, rest) ← scanString rest
    return (.unit n :: pieces, rest)
  | '\\' :: e :: rest => do
    let c ← escaped? e
    let (pieces, rest) ← scanString rest
    return (.char c :: pieces, rest)
  | c :: rest => do
    if c.toNat < 32 ∨ c = '\\' then none
    let (pieces, rest) ← scanString rest
    return (.char c :: pieces, rest)

/-! ## Numbers -/

/-- The character may stand in a number. -/
def isNumberChar (c : Char) : Bool :=
  c.isDigit || c = '+' || c = '-' || c = '.' || c = 'e' || c = 'E'

/-- The text without the digits at its start, of which there has to be one. -/
def afterDigits? (cs : List Char) : Option (List Char) :=
  if cs.head?.any Char.isDigit then some (cs.dropWhile Char.isDigit) else none

/-- The text without a whole number at its start: a zero, or digits that start with no zero. -/
def afterWhole? (cs : List Char) : Option (List Char) :=
  match cs with
  | '0' :: rest => some rest
  | _ => afterDigits? cs

/-- The text without a point and digits at its start, if it starts with a point. -/
def afterFraction? (cs : List Char) : Option (List Char) :=
  match cs with
  | '.' :: rest => afterDigits? rest
  | _ => some cs

/-- The text without an exponent at its start, if it starts with one. -/
def afterExponent? (cs : List Char) : Option (List Char) :=
  match cs with
  | 'e' :: rest | 'E' :: rest =>
    match rest with
    | '+' :: digits | '-' :: digits => afterDigits? digits
    | _ => afterDigits? rest
  | _ => some cs

/-- The text is a number. -/
def isNumber (cs : List Char) : Bool :=
  let unsigned := match cs with
    | '-' :: rest => rest
    | _ => cs
  ((afterWhole? unsigned).bind afterFraction?).bind afterExponent? == some []

/-- The token of a text of number characters. -/
def numberToken (cs : List Char) : Token :=
  if isNumber cs then
    .number (if cs.all Char.isDigit then (String.ofList cs).toNat? else none)
  else .broken

/-! ## Texts -/

def isSpace (c : Char) : Bool := c = ' ' || c = '\n' || c = '\t' || c = '\r'

/-- The token at the start of a text that does not start with a space, and the text after it. -/
def nextToken (cs : List Char) : Token × List Char :=
  match cs with
  | '[' :: rest => (.leftBracket, rest)
  | ']' :: rest => (.rightBracket, rest)
  | '\x7b' :: rest => (.leftBrace, rest)
  | '\x7d' :: rest => (.rightBrace, rest)
  | ',' :: rest => (.comma, rest)
  | ':' :: rest => (.colon, rest)
  | 'n' :: 'u' :: 'l' :: 'l' :: rest => (.null, rest)
  | 't' :: 'r' :: 'u' :: 'e' :: rest => (.bool true, rest)
  | 'f' :: 'a' :: 'l' :: 's' :: 'e' :: rest => (.bool false, rest)
  | '\x22' :: rest =>
    match scanString rest with
    | some (pieces, rest) => (.string ((joinPieces pieces).map String.ofList), rest)
    | none => (.broken, [])
  | _ => (numberToken (cs.takeWhile isNumberChar), cs.dropWhile isNumberChar)

/-- The tokens of a text; each takes a character at least, so `fuel` of them are all if the text
is no longer. -/
def tokensWithin : Nat → List Char → List Token
  | 0, _ => []
  | fuel + 1, cs =>
    match cs.dropWhile isSpace with
    | [] => []
    | cs =>
      match nextToken cs with
      | (.broken, _) => [.broken]
      | (token, rest) => token :: tokensWithin fuel rest

/-- The tokens of a text. -/
def tokens (s : String) : List Token := tokensWithin (s.length + 1) s.toList

end Winnow.Json
