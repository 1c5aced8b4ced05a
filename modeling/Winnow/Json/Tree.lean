/-
  JSON values, read from tokens. Reading never fails: a value that is cut short has a broken part
  where its text goes wrong, and nothing after it.
-/
import Winnow.Json.Token

namespace Winnow

/-- A JSON value, or what there is of one. -/
inductive Json where
  | null
  | bool (b : Bool)
  | number (n : Option Nat)
  | string (s : Option String)
  | array (items : List Json)
  | object (entries : List (Option String × Json))
  | broken

namespace Json

instance : Inhabited Json := ⟨.null⟩

def ofString (s : String) : Json := .string (some s)

def ofNat (n : Nat) : Json := .number (some n)

/-- An object with keys and values. -/
def ofEntries (entries : List (String × Json)) : Json :=
  .object (entries.map fun e => (some e.1, e.2))

mutual

/-- No part of the value is broken. -/
def isWhole : Json → Bool
  | .broken => false
  | .array items => areWhole items
  | .object entries => entriesWhole entries
  | _ => true

/-- No part of the values is broken. -/
def areWhole : List Json → Bool
  | [] => true
  | v :: vs => v.isWhole && areWhole vs

/-- No part of the entries is broken. -/
def entriesWhole : List (Option String × Json) → Bool
  | [] => true
  | (_, v) :: es => v.isWhole && entriesWhole es

end

mutual

/-- The value at the start of a list of tokens, and the tokens after it. No value is nested deeper
than there are tokens. -/
def readValue : Nat → List Token → Json × List Token
  | 0, _ => (.broken, [])
  | fuel + 1, tokens =>
    match tokens with
    | .null :: rest => (.null, rest)
    | .bool b :: rest => (.bool b, rest)
    | .number n :: rest => (.number n, rest)
    | .string s :: rest => (.string s, rest)
    | .leftBracket :: .rightBracket :: rest => (.array [], rest)
    | .leftBracket :: rest =>
      let (items, rest) := readItems fuel rest
      (.array items, rest)
    | .leftBrace :: .rightBrace :: rest => (.object [], rest)
    | .leftBrace :: rest =>
      let (entries, rest) := readEntries fuel rest
      (.object entries, rest)
    | _ => (.broken, [])

/-- The items up to a closing bracket, and the tokens after it. -/
def readItems : Nat → List Token → List Json × List Token
  | 0, _ => ([.broken], [])
  | fuel + 1, tokens =>
    let (v, rest) := readValue fuel tokens
    match rest with
    | .rightBracket :: rest => ([v], rest)
    | .comma :: rest =>
      let (items, rest) := readItems fuel rest
      (v :: items, rest)
    | _ => ([v, .broken], [])

/-- The entries up to a closing brace, and the tokens after it. -/
def readEntries : Nat → List Token → List (Option String × Json) × List Token
  | 0, _ => ([(none, .broken)], [])
  | fuel + 1, tokens =>
    match tokens with
    | .string key :: .colon :: rest =>
      let (v, rest) := readValue fuel rest
      match rest with
      | .rightBrace :: rest => ([(key, v)], rest)
      | .comma :: rest =>
        let (entries, rest) := readEntries fuel rest
        ((key, v) :: entries, rest)
      | _ => ([(key, v), (none, .broken)], [])
    | .string key :: _ => ([(key, .broken)], [])
    | _ => ([(none, .broken)], [])

end

/-- The value of a text, and whether nothing but spaces follows it. -/
def parse (s : String) : Json × Bool :=
  let ts := tokens s
  let (v, rest) := readValue (2 * ts.length + 1) ts
  (v, rest.isEmpty)

end Json

end Winnow
