/-
  Texts that begin with, end with or contain another text, and texts cut at a character.
-/

namespace Winnow

/-- `part` occurs in the text as consecutive characters. -/
def occursIn (part : List Char) : List Char → Bool
  | [] => part.isEmpty
  | c :: cs => part.isPrefixOf (c :: cs) || occursIn part cs

theorem occursIn_iff {part cs : List Char} : occursIn part cs = true ↔ part <:+: cs := by
  induction cs with
  | nil => simp [occursIn]
  | cons c cs ih => simp [occursIn, ih, List.infix_cons_iff]

/-- The pieces of a text between the occurrences of a character: always one piece more than
there are occurrences. -/
def cutAt (mark : Char) : List Char → List (List Char)
  | [] => [[]]
  | c :: cs =>
    if c = mark then [] :: cutAt mark cs
    else match cutAt mark cs with
      | piece :: pieces => (c :: piece) :: pieces
      | [] => [[c]]

theorem cutAt_ne_nil (mark : Char) (cs : List Char) : cutAt mark cs ≠ [] := by
  cases cs with
  | nil => simp [cutAt]
  | cons c cs =>
    unfold cutAt
    split
    · simp
    · split <;> simp

/-- The pieces put together again with the character between them are the text. -/
theorem intercalate_cutAt (mark : Char) (cs : List Char) :
    List.intercalate [mark] (cutAt mark cs) = cs := by
  induction cs with
  | nil => simp [cutAt]
  | cons c cs ih =>
    unfold cutAt
    cases hp : cutAt mark cs with
    | nil => exact absurd hp (cutAt_ne_nil mark cs)
    | cons piece pieces =>
      rw [hp] at ih
      split
      · subst c
        rw [List.intercalate_cons_cons, ih]
        rfl
      · cases pieces with
        | nil => simpa using ih
        | cons q qs =>
          rw [List.intercalate_cons_cons] at ih ⊢
          rw [← ih]
          rfl

end Winnow
