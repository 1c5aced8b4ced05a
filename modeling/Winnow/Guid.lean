/-
  Globally unique identifiers: 128 bits, written as hexadecimal digits in five groups.
-/

namespace Winnow

/-- The number of identifiers. -/
def guidCount : Nat := 0x100000000000000000000000000000000

/-- A 128-bit identifier; identifiers are in the order of their values. -/
structure Guid where
  value : Nat
  lt : value < guidCount
  deriving DecidableEq

namespace Guid

theorem value_inj {a b : Guid} : a.value = b.value ↔ a = b := by
  cases a; cases b; simp

/-- The lengths of the groups of digits. -/
def groups : List Nat := [8, 4, 4, 4, 12]

/-- The last `k` hexadecimal digits of a number, the most significant first. -/
def hexDigits : Nat → Nat → List Char
  | 0, _ => []
  | k + 1, n => hexDigits k (n / 16) ++ [Nat.digitChar (n % 16)]

/-- The digits cut into groups of the given lengths, with a hyphen before each but the first. -/
def cutGroups : List Nat → List Char → List (List Char)
  | [], _ => []
  | n :: ns, ds => ds.take n :: cutGroups ns (ds.drop n)

/-- Thirty-two digits in five groups between hyphens. -/
def text (g : Guid) : String :=
  String.ofList (List.intercalate ['-'] (cutGroups groups (hexDigits 32 g.value)))

/-- The value of a hexadecimal digit in either case. -/
def hexValue? (c : Char) : Option Nat :=
  if c.isDigit then some (c.toNat - 48)
  else if 97 ≤ c.toNat ∧ c.toNat ≤ 102 then some (c.toNat - 87)
  else if 65 ≤ c.toNat ∧ c.toNat ≤ 70 then some (c.toNat - 55)
  else none

/-- Reads thirty-two digits, whatever hyphens stand between them. -/
def parse? (s : String) : Option Guid :=
  let digits := s.toList.filter (· ≠ '-')
  let value := digits.foldl
    (fun acc c => acc.bind fun n => (hexValue? c).map fun d => 16 * n + d) (some 0)
  value.bind fun n =>
    if h : n < guidCount then (if digits.length = 32 then some ⟨n, h⟩ else none) else none

end Guid

end Winnow
