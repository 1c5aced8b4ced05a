/-
  The text of a number: its shortest decimal in one of two styles, and the reading of a decimal.
-/
import Winnow.Binary.Shortest

namespace Winnow

/-- How a decimal is written: whether a whole number keeps a point, and for which places of the
leading digit all places are written out; beyond them the number has an exponent. -/
structure DecimalStyle where
  wholePoint : Bool
  positional : Option (Int × Int)

namespace DecimalStyle

/-- Every place is written out, and a whole number has no point. -/
def plain : DecimalStyle := ⟨false, none⟩

/-- A whole number keeps its point, and places are written out from `10^-4` to below `10^16`. -/
def precise : DecimalStyle := ⟨true, some (-4, 16)⟩

/-- The style writes out the places of a number whose leading digit stands for `10^place`. -/
def writesOut (s : DecimalStyle) (place : Int) : Bool :=
  match s.positional with
  | none => true
  | some (low, high) => low ≤ place && place < high

end DecimalStyle

namespace Decimal

def digitText (n : Nat) : List Char := Nat.toDigits 10 n

def zeros (n : Nat) : List Char := List.replicate n '0'

/-- All places of a decimal, up to the last digit that is not zero. -/
def positional (wholePoint : Bool) (d : Decimal) : List Char :=
  let ds := digitText d.digits
  if 0 ≤ d.exponent then
    ds ++ zeros d.exponent.toNat ++ if wholePoint then ['.', '0'] else []
  else
    let places := d.exponent.natAbs
    if places < ds.length then ds.take (ds.length - places) ++ '.' :: ds.drop (ds.length - places)
    else '0' :: '.' :: zeros (places - ds.length) ++ ds

/-- The leading digit, the digits after the point, and the exponent of the leading digit. -/
def scientific (d : Decimal) : List Char :=
  let ds := digitText d.digits
  let place := d.exponent + ds.length - 1
  ds.take 1 ++ (if ds.length = 1 then [] else '.' :: ds.drop 1) ++ 'e' :: (toString place).toList

/-- A decimal in a style. -/
def text (s : DecimalStyle) (d : Decimal) : List Char :=
  if s.writesOut (d.exponent + (digitText d.digits).length - 1) then d.positional s.wholePoint
  else d.scientific

end Decimal

namespace Binary

variable {f : Format}

def signText (negative : Bool) (rest : List Char) : List Char :=
  if negative then '-' :: rest else rest

/-- The text of a number in a style. -/
def text (s : DecimalStyle) : Binary f → String
  | .nan => "NaN"
  | .infinite negative => String.ofList (signText negative ['i', 'n', 'f'])
  | .finite negative u _ =>
    String.ofList <| signText negative <|
      if u = 0 then Decimal.positional s.wholePoint ⟨0, 0⟩ else (f.shortest u).text s

end Binary

namespace Decimal

/-- The value of a list of digits, or nothing if a character is not a digit. -/
def digitsValue? (cs : List Char) : Option Nat :=
  cs.foldl
    (fun acc c => acc.bind fun n => if c.isDigit then some (10 * n + (c.toNat - '0'.toNat)) else none)
    (some 0)

/-- Reads an exponent: an optional sign and at least one digit. -/
def exponent? (cs : List Char) : Option Int :=
  let (negative, ds) := match cs with
    | '-' :: r => (true, r)
    | '+' :: r => (false, r)
    | _ => (false, cs)
  if ds.isEmpty then none
  else (digitsValue? ds).map fun n => if negative then -(n : Int) else n

/-- Reads an unsigned decimal: digits, optionally a point and more digits, optionally an
exponent; one digit at least stands before the exponent. -/
def parse? (cs : List Char) : Option Decimal := do
  let whole := cs.takeWhile Char.isDigit
  let rest := cs.dropWhile Char.isDigit
  let (fraction, rest) := match rest with
    | '.' :: r => (r.takeWhile Char.isDigit, r.dropWhile Char.isDigit)
    | _ => ([], rest)
  let exponent ← match rest with
    | [] => some 0
    | c :: r => if c = 'e' ∨ c = 'E' then exponent? r else none
  if whole.isEmpty && fraction.isEmpty then none
  let digits ← digitsValue? (whole ++ fraction)
  return ⟨digits, exponent - fraction.length⟩

end Decimal

namespace Binary

/-- Reads a number of a format: an optional sign, then a decimal, `inf`, `infinity` or `nan`
in any case of the letters. A decimal beyond the range of every format becomes an infinity or
a zero without its power of ten being formed. -/
def parse? (f : Format) (s : String) : Option (Binary f) :=
  let (negative, cs) := match s.toList with
    | '-' :: r => (true, r)
    | '+' :: r => (false, r)
    | r => (false, r)
  let word := String.ofList (cs.map Char.toLower)
  if word = "inf" ∨ word = "infinity" then some (.infinite negative)
  else if word = "nan" then some .nan
  else (Decimal.parse? cs).map fun (d : Decimal) =>
    let place : Int := d.exponent + Decimal.length d.digits
    if d.digits = 0 ∨ place < -400 then .finite negative 0 f.fits_zero
    else if 400 < place then .infinite negative
    else ofDecimal negative d.digits d.exponent

end Binary

end Winnow
