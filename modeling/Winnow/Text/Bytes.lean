/-
  Texts by their bytes in UTF-8: how long they are, where a character first occurs, and the part
  between two byte offsets, which there is only if a text can be cut at both of them.
-/

namespace Winnow

/-- The number of bytes of a text. -/
def byteLength (cs : List Char) : Nat := (String.ofList cs).utf8ByteSize

theorem byteLength_nil : byteLength [] = 0 := rfl

theorem byteLength_append (cs ds : List Char) :
    byteLength (cs ++ ds) = byteLength cs + byteLength ds := by
  rw [byteLength, String.ofList_append, String.utf8ByteSize_append]
  rfl

theorem byteLength_cons (c : Char) (cs : List Char) :
    byteLength (c :: cs) = c.utf8Size + byteLength cs := by
  rw [← List.singleton_append, byteLength_append, byteLength, ← String.singleton_eq_ofList,
    String.utf8ByteSize_singleton]

theorem byteLength_eq_zero_iff {cs : List Char} : byteLength cs = 0 ↔ cs = [] := by
  cases cs with
  | nil => simp [byteLength_nil]
  | cons c cs =>
    have hpos := c.utf8Size_pos
    rw [byteLength_cons]
    simp
    omega

/-- The byte offset of the first occurrence of a character. -/
def byteOffset? (mark : Char) : List Char → Option Nat
  | [] => none
  | c :: cs => if c = mark then some 0 else (byteOffset? mark cs).map (c.utf8Size + ·)

theorem byteOffset?_append_cons {mark : Char} {before : List Char} (h : mark ∉ before)
    (after : List Char) :
    byteOffset? mark (before ++ mark :: after) = some (byteLength before) := by
  induction before with
  | nil => simp [byteOffset?, byteLength_nil]
  | cons c before ih =>
    rw [List.cons_append, byteOffset?, if_neg (List.ne_of_not_mem_cons h).symm,
      ih (List.not_mem_of_not_mem_cons h), byteLength_cons]
    rfl

/-- A text cut at a byte offset. It is not cut inside a character or past its end. -/
def cutBytes? : List Char → Nat → Option (List Char × List Char)
  | cs, 0 => some ([], cs)
  | [], _ + 1 => none
  | c :: cs, n + 1 =>
    if n + 1 < c.utf8Size then none
    else (cutBytes? cs (n + 1 - c.utf8Size)).map fun parts => (c :: parts.1, parts.2)

theorem cutBytes?_append (before after : List Char) :
    cutBytes? (before ++ after) (byteLength before) = some (before, after) := by
  induction before with
  | nil => cases after <;> rfl
  | cons c before ih =>
    have hpos := c.utf8Size_pos
    obtain ⟨n, hn⟩ : ∃ n, c.utf8Size + byteLength before = n + 1 :=
      ⟨c.utf8Size + byteLength before - 1, by omega⟩
    rw [byteLength_cons, hn, List.cons_append, cutBytes?, if_neg (by omega), ← hn,
      Nat.add_sub_cancel_left, ih]
    rfl

/-- The part of a text between two byte offsets. -/
def sliceBytes? (cs : List Char) (start stop : Nat) : Option (List Char) := do
  let (before, _) ← cutBytes? cs stop
  let (_, part) ← cutBytes? before start
  return part

theorem sliceBytes?_append (before part after : List Char) :
    sliceBytes? (before ++ (part ++ after)) (byteLength before)
        (byteLength before + byteLength part) = some part := by
  rw [sliceBytes?, ← byteLength_append, ← List.append_assoc, cutBytes?_append]
  show (do let (_, rest) ← cutBytes? (before ++ part) (byteLength before); return rest) = _
  rw [cutBytes?_append]
  rfl

end Winnow
