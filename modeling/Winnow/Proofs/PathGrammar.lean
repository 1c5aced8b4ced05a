/-
  The grammar of property paths.

  A trimmed text is a property path if it has no brackets, or one pair of them of which the closing
  one ends the text, and no piece between points is blank (`Written`); its segments are the trimmed
  pieces. Read the other way round, a path is spelled by its segments with points between them and
  white space around each (`Spells`), and white space around the whole.

  Points: the pieces of a text are known by three facts, without the function that cuts them
  (`pieces_iff`). Brackets: a text with one of either has the opening one first or the closing one
  first (`exists_brackets`), and the rest of its form decides what is read or which fault there is.

  A text in UTF-8 is cut at byte offsets, which may miss the bounds between characters, and the
  place of its last byte is a difference. `splitAtOffsets` does this, with no value where it would
  go wrong; `splitAtOffsets_eq` says that it always has one, the one of `splitBrackets`.

  `parse_grammar`, the main statement, is all of this for every text.
-/
import Winnow.Proofs.CaseAndPadding
import Winnow.Text.Bytes

namespace Winnow

open LetterCase (Pads)

/-! ## Pieces between points -/

theorem cutAt_eq_splitOn (mark : Char) (cs : List Char) : cutAt mark cs = cs.splitOn mark := by
  induction cs with
  | nil => rfl
  | cons c cs ih =>
    rw [cutAt, ih, List.splitOn_cons_eq_if_modifyHead]
    by_cases hc : c = mark
    · rw [if_pos hc, if_pos (beq_iff_eq.mpr hc)]
    · rw [if_neg hc, if_neg (mt beq_iff_eq.mp hc)]
      cases hp : cs.splitOn mark with
      | nil => exact absurd hp (List.splitOn_ne_nil _ _)
      | cons piece pieces => rfl

theorem not_mem_of_mem_cutAt {mark : Char} {cs piece : List Char} (h : piece ∈ cutAt mark cs) :
    mark ∉ piece := by
  induction cs generalizing piece with
  | nil =>
    rw [List.mem_singleton.mp h]
    exact List.not_mem_nil
  | cons c cs ih =>
    rw [cutAt] at h
    split at h
    · rcases List.mem_cons.mp h with rfl | h
      · exact List.not_mem_nil
      · exact ih h
    · next hc =>
      cases hp : cutAt mark cs with
      | nil => exact absurd hp (cutAt_ne_nil mark cs)
      | cons first pieces =>
        rw [hp] at h ih
        rcases List.mem_cons.mp h with rfl | h
        · exact List.not_mem_cons_of_ne_of_not_mem (Ne.symm hc) (ih List.mem_cons_self)
        · exact ih (List.mem_cons_of_mem _ h)

/-- The pieces of a text between its points. -/
structure Pieces (cs : List Char) (pieces : List (List Char)) : Prop where
  ne_nil : pieces ≠ []
  joined : List.intercalate ['.'] pieces = cs
  pointFree : ∀ piece ∈ pieces, '.' ∉ piece

theorem pieces_iff {cs : List Char} {pieces : List (List Char)} :
    Pieces cs pieces ↔ cutAt '.' cs = pieces := by
  constructor
  · rintro ⟨hne, rfl, hfree⟩
    rw [cutAt_eq_splitOn, List.splitOn_intercalate _ hfree hne]
  · rintro rfl
    exact ⟨cutAt_ne_nil _ _, intercalate_cutAt _ _, fun _ => not_mem_of_mem_cutAt⟩

/-- The text names segments: they are its pieces, trimmed, and none of these is blank. -/
def Names (cs : List Char) (segments : List String) : Prop :=
  ∃ pieces, Pieces cs pieces ∧ (∀ piece ∈ pieces, ∃ c ∈ piece, isBlank c = false) ∧
    segments = pieces.map fun piece => String.ofList (trimChars piece)

theorem trimChars_ne_nil_iff {cs : List Char} :
    trimChars cs ≠ [] ↔ ∃ c ∈ cs, isBlank c = false := by
  rw [ne_eq, trimChars_eq_nil_iff]
  simp

theorem splitSegments_eq_ok_iff {cs : List Char} {shown : String} {segments : List String} :
    splitSegments cs shown = .ok segments ↔ Names cs segments := by
  have hblank : (((cutAt '.' cs).map trimChars).any (·.isEmpty) = true) ↔
      ¬ ∀ piece ∈ cutAt '.' cs, ∃ c ∈ piece, isBlank c = false := by
    simp only [← trimChars_ne_nil_iff, List.any_map, List.any_eq_true, Function.comp_apply,
      List.isEmpty_iff, ne_eq, not_forall, not_not, exists_prop]
  simp only [splitSegments, Names, pieces_iff, exists_eq_left', List.map_map, Function.comp_def]
  split
  · next hany => simp [hblank.mp hany]
  · next hany =>
    rw [hblank, not_not] at hany
    constructor
    · intro h
      exact ⟨hany, (Except.ok.inj h).symm⟩
    · rintro ⟨-, rfl⟩
      rfl

/-! ## Brackets -/

namespace PropertyPath

/-- There is one bracket of either kind exactly if there are none around and between the two. -/
theorem once_iff {a b : Char} (h : [a, b].count '[' = 1 ∧ [a, b].count ']' = 1)
    (left middle right : List Char) :
    ((left ++ a :: (middle ++ b :: right)).count '[' = 1 ∧
        (left ++ a :: (middle ++ b :: right)).count ']' = 1) ↔
      BracketFree left ∧ BracketFree middle ∧ BracketFree right := by
  have hcount : ∀ mark, (left ++ a :: (middle ++ b :: right)).count mark =
      left.count mark + middle.count mark + right.count mark + [a, b].count mark := by
    intro mark
    simp only [List.count_append, List.count_cons, List.count_nil]
    omega
  simp only [hcount, h.1, h.2, BracketFree]
  omega

/-- A text with one bracket of either kind has the opening one first or the closing one first. -/
theorem exists_brackets {cs : List Char} (hone : cs.count '[' = 1 ∧ cs.count ']' = 1) :
    (∃ base inner after, cs = base ++ '[' :: (inner ++ ']' :: after) ∧ BracketFree base ∧
        BracketFree inner ∧ BracketFree after) ∨
      ∃ before between after, cs = before ++ ']' :: (between ++ '[' :: after) ∧
        BracketFree before ∧ BracketFree between ∧ BracketFree after := by
  have hopen : '[' ∈ cs := List.count_pos_iff.mp (by omega)
  obtain ⟨left, right, rfl⟩ := List.append_of_mem hopen
  have hclose : ']' ∈ left ++ '[' :: right := List.count_pos_iff.mp (by omega)
  rcases List.mem_append.mp hclose with hleft | hright
  · obtain ⟨before, between, rfl⟩ := List.append_of_mem hleft
    rw [List.append_assoc, List.cons_append] at hone ⊢
    exact Or.inr ⟨before, between, right, rfl, (once_iff (by decide) _ _ _).mp hone⟩
  · obtain ⟨inner, after, rfl⟩ :=
      List.append_of_mem ((List.mem_cons.mp hright).resolve_left (by decide))
    exact Or.inl ⟨left, inner, after, rfl, (once_iff (by decide) _ _ _).mp hone⟩

section Once

variable {left middle right : List Char} (hl : BracketFree left) (hm : BracketFree middle)

include hl hm

theorem not_mem_of_closed : '[' ∉ left ++ ']' :: middle := by
  rw [← List.count_eq_zero, List.count_append, List.count_cons_of_ne (by decide), hl.1, hm.1]

theorem not_mem_of_opened : ']' ∉ left ++ '[' :: middle := by
  rw [← List.count_eq_zero, List.count_append, List.count_cons_of_ne (by decide), hl.2, hm.2]

variable (hr : BracketFree right)

include hr

theorem splitBrackets_closed_first :
    splitBrackets (left ++ ']' :: (middle ++ '[' :: right)) = .error .unbalancedBrackets := by
  have hcs : left ++ ']' :: (middle ++ '[' :: right) =
      (left ++ ']' :: middle) ++ '[' :: right := by simp
  obtain ⟨hopens, hcloses⟩ :=
    (once_iff (a := ']') (b := '[') (by decide) left middle right).mpr ⟨hl, hm, hr⟩
  rw [hcs] at hopens hcloses ⊢
  rw [splitBrackets_of_once (not_mem_of_closed hl hm) hopens hcloses, if_pos (by simp)]

theorem splitBrackets_text_after (hne : right ≠ []) :
    splitBrackets (left ++ '[' :: (middle ++ ']' :: right)) = .error .textAfterBracket := by
  obtain ⟨hopens, hcloses⟩ :=
    (once_iff (a := '[') (b := ']') (by decide) left middle right).mpr ⟨hl, hm, hr⟩
  rw [splitBrackets_of_once (List.count_eq_zero.mp hl.1) hopens hcloses,
    if_neg (List.count_eq_zero.mp hl.2), if_pos]
  obtain ⟨before, last, rfl⟩ := (List.eq_nil_or_concat' right).resolve_left hne
  have hcs : '[' :: (middle ++ ']' :: (before ++ [last])) =
      ('[' :: (middle ++ ']' :: before)) ++ [last] := by simp
  rw [hcs, List.getLast?_concat]
  rintro ⟨⟩
  exact List.count_eq_zero.mp hr.2 (by simp)

end Once

/-- A text is cut into what stands before and in its brackets exactly if it has one pair of them,
of which the closing one is its last character. -/
theorem splitBrackets_eq_some_iff {cs base inner : List Char} :
    splitBrackets cs = .ok (some (base, inner)) ↔
      cs = base ++ '[' :: (inner ++ [']']) ∧ BracketFree base ∧ BracketFree inner := by
  constructor
  · intro h
    have hone : cs.count '[' = 1 ∧ cs.count ']' = 1 := by
      unfold splitBrackets at h
      dsimp only at h
      split at h
      · exact absurd h (by simp)
      · split at h
        · exact absurd h (by simp)
        · split at h
          · exact absurd h (by simp)
          · omega
    rcases exists_brackets hone with
      ⟨left, middle, right, rfl, hl, hm, hr⟩ | ⟨left, middle, right, rfl, hl, hm, hr⟩
    · by_cases hright : right = []
      · rw [hright, splitBrackets_brackets hl hm] at h
        cases h
        rw [hright]
        exact ⟨rfl, hl, hm⟩
      · rw [splitBrackets_text_after hl hm hr hright] at h
        cases h
    · rw [splitBrackets_closed_first hl hm hr] at h
      cases h
  · rintro ⟨rfl, hb, hi⟩
    exact splitBrackets_brackets hb hi

/-! ## Byte offsets -/

/-- What stands before and between two byte offsets at which there are brackets. There is nothing
if the text has no last byte, or cannot be cut at one of the offsets. -/
def partsAt (cs : List Char) (opened closed : Nat) :
    Option (Except PathFault (Option (List Char × List Char))) :=
  if closed < opened then some (.error .unbalancedBrackets)
  else
    match byteLength cs with
    | 0 => none
    | last + 1 =>
      if closed ≠ last then some (.error .textAfterBracket)
      else do
        let base ← sliceBytes? cs 0 opened
        let inner ← sliceBytes? cs (opened + 1) closed
        return .ok (some (base, inner))

/-- The text before and in the brackets of a trimmed path, cut at byte offsets. -/
def splitAtOffsets (cs : List Char) : Option (Except PathFault (Option (List Char × List Char))) :=
  let opens := cs.count '['
  let closes := cs.count ']'
  if opens = 0 ∧ closes = 0 then some (.ok none)
  else if opens ≠ closes then some (.error .unbalancedBrackets)
  else if opens ≠ 1 then some (.error .severalBrackets)
  else
    match byteOffset? '[' cs, byteOffset? ']' cs with
    | some opened, some closed => partsAt cs opened closed
    | _, _ => some (.error .unbalancedBrackets)

theorem splitAtOffsets_of_once {cs : List Char} {opened closed : Nat}
    (hopens : cs.count '[' = 1) (hcloses : cs.count ']' = 1)
    (hopened : byteOffset? '[' cs = some opened) (hclosed : byteOffset? ']' cs = some closed) :
    splitAtOffsets cs = partsAt cs opened closed := by
  unfold splitAtOffsets
  simp only [hopens, hcloses, hopened, hclosed]
  rfl

section Once

variable {left middle right : List Char} (hl : BracketFree left) (hm : BracketFree middle)
  (hr : BracketFree right)

include hl hm hr

theorem splitAtOffsets_closed_first :
    splitAtOffsets (left ++ ']' :: (middle ++ '[' :: right)) =
      some (.error .unbalancedBrackets) := by
  have hopened : byteOffset? '[' (left ++ ']' :: (middle ++ '[' :: right)) =
      some (byteLength (left ++ ']' :: middle)) := by
    rw [← byteOffset?_append_cons (not_mem_of_closed hl hm) right]
    simp
  obtain ⟨hopens, hcloses⟩ :=
    (once_iff (a := ']') (b := '[') (by decide) left middle right).mpr ⟨hl, hm, hr⟩
  rw [splitAtOffsets_of_once hopens hcloses hopened
    (byteOffset?_append_cons (List.count_eq_zero.mp hl.2) _), partsAt, if_pos]
  rw [byteLength_append, byteLength_cons]
  have hpos := Char.utf8Size_pos ']'
  omega

theorem splitAtOffsets_opened_first :
    splitAtOffsets (left ++ '[' :: (middle ++ ']' :: right)) =
      some (if right = [] then .ok (some (left, middle)) else .error .textAfterBracket) := by
  have hsize : '['.utf8Size = 1 ∧ ']'.utf8Size = 1 := ⟨rfl, rfl⟩
  have hclosed : byteOffset? ']' (left ++ '[' :: (middle ++ ']' :: right)) =
      some (byteLength left + 1 + byteLength middle) := by
    have hoffset := byteOffset?_append_cons (not_mem_of_opened hl hm) right
    rw [byteLength_append, byteLength_cons, hsize.1, ← Nat.add_assoc] at hoffset
    rw [← hoffset]
    simp
  have hlength : byteLength (left ++ '[' :: (middle ++ ']' :: right)) =
      byteLength left + 1 + byteLength middle + byteLength right + 1 := by
    rw [byteLength_append, byteLength_cons, byteLength_append, byteLength_cons, hsize.1, hsize.2]
    omega
  obtain ⟨hopens, hcloses⟩ :=
    (once_iff (a := '[') (b := ']') (by decide) left middle right).mpr ⟨hl, hm, hr⟩
  rw [splitAtOffsets_of_once hopens hcloses
    (byteOffset?_append_cons (List.count_eq_zero.mp hl.1) _) hclosed, partsAt, if_neg (by omega),
    hlength]
  dsimp only
  by_cases hright : right = []
  · have hbase := sliceBytes?_append [] left ('[' :: (middle ++ ']' :: right))
    have hinner := sliceBytes?_append (left ++ ['[']) middle (']' :: right)
    rw [byteLength_nil, Nat.zero_add, List.nil_append] at hbase
    rw [byteLength_append, byteLength_cons, hsize.1, byteLength_nil, List.append_assoc,
      List.singleton_append] at hinner
    rw [if_neg, if_pos hright, hbase, hinner]
    · rfl
    · rw [hright, byteLength_nil]
      exact not_not_intro rfl
  · rw [if_neg hright, if_pos]
    have hne := mt byteLength_eq_zero_iff.mp hright
    omega

end Once

/-- To cut a path at byte offsets never goes wrong, and is to cut it between characters. -/
theorem splitAtOffsets_eq (cs : List Char) : splitAtOffsets cs = some (splitBrackets cs) := by
  by_cases hone : cs.count '[' = 1 ∧ cs.count ']' = 1
  · rcases exists_brackets hone with
      ⟨left, middle, right, rfl, hl, hm, hr⟩ | ⟨left, middle, right, rfl, hl, hm, hr⟩
    · rw [splitAtOffsets_opened_first hl hm hr]
      split
      · next hright => rw [hright, splitBrackets_brackets hl hm]
      · next hright => rw [splitBrackets_text_after hl hm hr hright]
    · rw [splitAtOffsets_closed_first hl hm hr, splitBrackets_closed_first hl hm hr]
  · -- Without one pair of brackets the numbers of brackets decide.
    unfold splitAtOffsets splitBrackets
    dsimp only
    split
    · rfl
    · split
      · rfl
      · split
        · rfl
        · omega

/-! ## The grammar -/

/-- The grammar of property paths: a text without brackets that names segments, or one that ends
with a pair of brackets, before and in which segments are named. -/
inductive Written : List Char → PropertyPath → Prop
  | plain {cs : List Char} {segments : List String} (free : BracketFree cs)
      (names : Names cs segments) : Written cs (.plain segments)
  | bracketed {base inner : List Char} {segments elements : List String} (hb : BracketFree base)
      (hi : BracketFree inner) (names : Names base segments) (members : Names inner elements) :
      Written (base ++ '[' :: (inner ++ [']'])) (.bracketed segments elements)

theorem names_trimChars {cs : List Char} {segments : List String} :
    Names (trimChars cs) segments ↔ Names cs segments := by
  have hsplit : ∀ ds, Names ds segments ↔ splitSegments ds "" = .ok segments :=
    fun _ => splitSegments_eq_ok_iff.symm
  rw [hsplit, hsplit, splitSegments_trimChars]

theorem names_trimStart {cs : List Char} {segments : List String} :
    Names (trimStart cs) segments ↔ Names cs segments := by
  rw [← names_trimChars, trimChars_trimStart, names_trimChars]

/-- White space around a path may be taken off. -/
theorem Written.trimmed {cs : List Char} {path : PropertyPath} (h : Written cs path) :
    Written (trimChars cs) path := by
  cases h with
  | plain free names => exact .plain (bracketFree_trimChars.mpr free) (names_trimChars.mpr names)
  | bracketed hb hi names members =>
    rw [trimChars_brackets]
    exact .bracketed (bracketFree_trimStart.mpr hb) hi (names_trimStart.mpr names) members

/-- A text is read as the paths that are written so. -/
theorem parse_eq_ok_iff {s : String} {path : PropertyPath} :
    parse s = .ok path ↔ Written (trimChars s.toList) path := by
  constructor
  · intro h
    cases hsplit : splitBrackets (trimChars s.toList) with
    | error fault =>
      rw [parse_of_splitBrackets_error hsplit] at h
      cases h
    | ok parts =>
      cases parts with
      | none =>
        have hfree := bracketFree_of_splitBrackets hsplit
        rw [parse_of_bracketFree (bracketFree_trimChars.mp hfree)] at h
        cases hs : splitSegments s.toList (trim s) with
        | error e => simp [hs, Except.map] at h
        | ok segments =>
          rw [hs] at h
          cases h
          exact .plain hfree (names_trimChars.mpr (splitSegments_eq_ok_iff.mp hs))
      | some parts =>
        obtain ⟨base, inner⟩ := parts
        obtain ⟨hcs, hb, hi⟩ := splitBrackets_eq_some_iff.mp hsplit
        rw [parse_of_splitBrackets_some hsplit] at h
        cases hbase : splitSegments base (trim s) with
        | error e => simp [hbase, bind, Except.bind] at h
        | ok segments =>
          cases hinner : splitSegments inner (trim s) with
          | error e => simp [hbase, hinner, bind, Except.bind] at h
          | ok elements =>
            rw [hbase, hinner] at h
            cases h
            rw [hcs]
            exact .bracketed hb hi (splitSegments_eq_ok_iff.mp hbase)
              (splitSegments_eq_ok_iff.mp hinner)
  · intro h
    generalize hcs : trimChars s.toList = cs at h
    cases h with
    | plain free names =>
      refine parse_eq_plain_iff.mpr ⟨bracketFree_trimChars.mp (hcs ▸ free), ?_⟩
      rw [← splitSegments_trimChars, hcs]
      exact splitSegments_eq_ok_iff.mpr names
    | bracketed hb hi names members =>
      rw [parse_of_splitBrackets_some (splitBrackets_eq_some_iff.mpr ⟨hcs, hb, hi⟩),
        splitSegments_eq_ok_iff.mpr names, splitSegments_eq_ok_iff.mpr members]
      rfl

/-- If a text is not read, its path is at fault. -/
theorem exists_fault_of_parse_error {s : String} {e : Error} (h : parse s = .error e) :
    ∃ fault, e = .invalidPath (trim s) fault := by
  cases hsplit : splitBrackets (trimChars s.toList) with
  | error fault =>
    rw [parse_of_splitBrackets_error hsplit] at h
    exact ⟨fault, (Except.error.inj h).symm⟩
  | ok parts =>
    refine ⟨.emptySegment, ?_⟩
    cases parts with
    | none =>
      have hfree := bracketFree_trimChars.mp (bracketFree_of_splitBrackets hsplit)
      rw [parse_of_bracketFree hfree] at h
      rcases splitSegments_cases s.toList with ⟨segments, hs⟩ | hs
      · rw [hs] at h
        cases h
      · rw [hs] at h
        exact (Except.error.inj h).symm
    | some parts =>
      obtain ⟨base, inner⟩ := parts
      rw [parse_of_splitBrackets_some hsplit] at h
      rcases splitSegments_cases base with ⟨segments, hb⟩ | hb
      · rcases splitSegments_cases inner with ⟨elements, hi⟩ | hi
        · rw [hb, hi] at h
          cases h
        · rw [hb, hi] at h
          exact (Except.error.inj h).symm
      · rw [hb] at h
        exact (Except.error.inj h).symm

/-! ## Spelling -/

/-- A segment as paths are spelled with: trimmed, not blank, and without points and brackets. -/
structure IsSegment (s : String) : Prop where
  trimmed : trim s = s
  notBlank : ∃ c ∈ s.toList, isBlank c = false
  pointFree : '.' ∉ s.toList
  bracketFree : BracketFree s.toList

/-- The text is the segments, each with white space around it or none, with points between them. -/
def SpellsSegments (segments : List String) (cs : List Char) : Prop :=
  ∃ padded : List (String × List Char), padded ≠ [] ∧
    (∀ p ∈ padded, IsSegment p.1 ∧ Pads p.1.toList p.2) ∧
    padded.map Prod.fst = segments ∧ List.intercalate ['.'] (padded.map Prod.snd) = cs

/-- The text is spelled with the segments of the path, and the inner ones in brackets. -/
inductive Spells : PropertyPath → List Char → Prop
  | plain {segments : List String} {cs : List Char} (h : SpellsSegments segments cs) :
      Spells (.plain segments) cs
  | bracketed {segments elements : List String} {base inner : List Char}
      (hb : SpellsSegments segments base) (hi : SpellsSegments elements inner) :
      Spells (.bracketed segments elements) (base ++ '[' :: (inner ++ [']']))

theorem trimChars_trimChars (cs : List Char) : trimChars (trimChars cs) = trimChars cs := by
  obtain ⟨before, after, hb, ha, hcs⟩ := exists_blank_around cs
  rw [← trimChars_append_blank hb ha, ← hcs]

theorem mem_of_mem_trimChars {c : Char} {cs : List Char} (h : c ∈ trimChars cs) : c ∈ cs := by
  obtain ⟨before, after, -, -, hcs⟩ := exists_blank_around cs
  rw [hcs]
  exact List.mem_append_right _ (List.mem_append_left _ h)

theorem bracketFree_intercalate {pieces : List (List Char)} :
    BracketFree (List.intercalate ['.'] pieces) ↔ ∀ piece ∈ pieces, BracketFree piece := by
  induction pieces with
  | nil => exact ⟨fun _ piece h => absurd h List.not_mem_nil, fun _ => ⟨rfl, rfl⟩⟩
  | cons first rest ih =>
    cases rest with
    | nil => simp
    | cons next rest =>
      have hpoint : BracketFree ['.'] := ⟨rfl, rfl⟩
      rw [List.intercalate_cons_cons, bracketFree_append, bracketFree_append, ih,
        List.forall_mem_cons (l := next :: rest), and_iff_left hpoint]

/-- A piece of a path is its trimmed text with white space around it, and that is a segment. -/
theorem isSegment_of_piece {piece : List Char} (hblank : ∃ c ∈ piece, isBlank c = false)
    (hpoint : '.' ∉ piece) (hfree : BracketFree piece) :
    IsSegment (String.ofList (trimChars piece)) where
  trimmed := by rw [trim, String.toList_ofList, trimChars_trimChars]
  notBlank := by
    rw [String.toList_ofList, ← trimChars_ne_nil_iff, trimChars_trimChars, trimChars_ne_nil_iff]
    exact hblank
  pointFree := by
    rw [String.toList_ofList]
    exact mt mem_of_mem_trimChars hpoint
  bracketFree := by
    rw [String.toList_ofList]
    exact bracketFree_trimChars.mpr hfree

/-- A text with a segment in white space has what the segment has. -/
theorem IsSegment.of_pads {s : String} {piece : List Char} (h : IsSegment s)
    (hpads : Pads s.toList piece) :
    (∃ c ∈ piece, isBlank c = false) ∧ '.' ∉ piece ∧ BracketFree piece ∧
      String.ofList (trimChars piece) = s := by
  have htrim : String.ofList (trimChars piece) = s := by
    rw [hpads.trimChars_eq]
    exact h.trimmed
  obtain ⟨before, after, hb, ha, rfl⟩ := hpads
  refine ⟨?_, ?_, ?_, htrim⟩
  · obtain ⟨c, hc, hblank⟩ := h.notBlank
    exact ⟨c, List.mem_append_right _ (List.mem_append_left _ hc), hblank⟩
  · intro hmem
    rcases List.mem_append.mp hmem with hmem | hmem
    · exact absurd (hb _ hmem) (by decide)
    · rcases List.mem_append.mp hmem with hmem | hmem
      · exact h.pointFree hmem
      · exact absurd (ha _ hmem) (by decide)
  · rw [bracketFree_append, bracketFree_append]
    exact ⟨bracketFree_of_blank hb, h.bracketFree, bracketFree_of_blank ha⟩

/-- A text without brackets names the segments that it is spelled with. -/
theorem names_iff_spells {cs : List Char} {segments : List String} :
    BracketFree cs ∧ Names cs segments ↔ SpellsSegments segments cs := by
  constructor
  · rintro ⟨hfree, pieces, ⟨hne, rfl, hpoint⟩, hblank, rfl⟩
    rw [bracketFree_intercalate] at hfree
    refine ⟨pieces.map fun piece => (String.ofList (trimChars piece), piece), by simpa using hne,
      ?_, by simp, by simp [Function.comp_def]⟩
    intro p hp
    obtain ⟨piece, hpiece, rfl⟩ := List.mem_map.mp hp
    refine ⟨isSegment_of_piece (hblank piece hpiece) (hpoint piece hpiece) (hfree piece hpiece), ?_⟩
    rw [String.toList_ofList]
    exact exists_blank_around piece
  · rintro ⟨padded, hne, hpads, rfl, rfl⟩
    have hpiece : ∀ piece ∈ padded.map Prod.snd, (∃ c ∈ piece, isBlank c = false) ∧
        '.' ∉ piece ∧ BracketFree piece := by
      intro piece hpiece
      obtain ⟨p, hp, rfl⟩ := List.mem_map.mp hpiece
      obtain ⟨hblank, hpoint, hfree, -⟩ := (hpads p hp).1.of_pads (hpads p hp).2
      exact ⟨hblank, hpoint, hfree⟩
    refine ⟨bracketFree_intercalate.mpr fun piece h => (hpiece piece h).2.2, padded.map Prod.snd,
      ⟨by simpa using hne, rfl, fun piece h => (hpiece piece h).2.1⟩,
      fun piece h => (hpiece piece h).1, ?_⟩
    rw [List.map_map]
    refine List.map_congr_left fun p hp => ?_
    exact ((hpads p hp).1.of_pads (hpads p hp).2).2.2.2.symm

/-- A path is written as it is spelled. -/
theorem written_iff_spells {cs : List Char} {path : PropertyPath} :
    Written cs path ↔ Spells path cs := by
  constructor
  · intro h
    cases h with
    | plain free names => exact .plain (names_iff_spells.mp ⟨free, names⟩)
    | bracketed hb hi names members =>
      exact .bracketed (names_iff_spells.mp ⟨hb, names⟩) (names_iff_spells.mp ⟨hi, members⟩)
  · intro h
    cases h with
    | plain h =>
      obtain ⟨free, names⟩ := names_iff_spells.mpr h
      exact .plain free names
    | bracketed hb hi =>
      obtain ⟨hbase, names⟩ := names_iff_spells.mpr hb
      obtain ⟨hinner, members⟩ := names_iff_spells.mpr hi
      exact .bracketed hbase hinner names members

/-- **The property paths are those of the grammar.**

    For every text: it is read exactly as the paths that its trimmed text is written so. If there is
    none, the path is at fault, and so is every criterion with this property. Cut at byte offsets,
    the trimmed text is never cut inside a character or past an end, and gives the same. The texts
    that are read as a path are those that are spelled with its segments, with white space around
    each of them and around the whole or none. -/
theorem parse_grammar (s : String) :
    (∀ path, parse s = .ok path ↔ Written (trimChars s.toList) path) ∧
    ((∀ path, ¬ Written (trimChars s.toList) path) →
      ∃ fault, parse s = .error (.invalidPath (trim s) fault) ∧
        ∀ {ι : Type} (family : Family ι) (o : Options) (i : ι) (c : Criterion), c.property = s →
          c.compile family o i = .error (.invalidPath (trim s) fault)) ∧
    splitAtOffsets (trimChars s.toList) = some (splitBrackets (trimChars s.toList)) ∧
    ∀ path, parse s = .ok path ↔ ∃ cs, Spells path cs ∧ Pads cs s.toList := by
  refine ⟨fun path => parse_eq_ok_iff, ?_, splitAtOffsets_eq _, fun path => ⟨?_, ?_⟩⟩
  · intro hnone
    cases h : parse s with
    | ok path => exact absurd (parse_eq_ok_iff.mp h) (hnone path)
    | error e =>
      obtain ⟨fault, rfl⟩ := exists_fault_of_parse_error h
      refine ⟨fault, rfl, ?_⟩
      rintro ι family o i c rfl
      exact Criterion.compile_of_parse_error h
  · intro h
    exact ⟨_, written_iff_spells.mp (parse_eq_ok_iff.mp h), exists_blank_around s.toList⟩
  · rintro ⟨cs, hspells, hpads⟩
    rw [parse_eq_ok_iff, hpads.trimChars_eq]
    exact (written_iff_spells.mpr hspells).trimmed

end PropertyPath

/-! ## A path with white space, and one with its brackets the wrong way round -/

namespace Sample

open PropertyPath

theorem parse_grammar_padded :
    (∃ cs, Spells (.bracketed ["Größe", "x"] ["naïve"]) cs ∧
      Pads cs " Größe . x [ naïve ] ".toList) ∧
    (∀ path, ¬ Written (trimChars "Lines]Sku[".toList) path) ∧
    ∃ fault, parse "Lines]Sku[" = .error (.invalidPath (trim "Lines]Sku[") fault) := by
  have hread : parse " Größe . x [ naïve ] " = .ok (.bracketed ["Größe", "x"] ["naïve"]) := by
    decide +kernel
  have hnone : ∀ path, ¬ Written (trimChars "Lines]Sku[".toList) path := by
    intro path hpath
    have hfault : parse "Lines]Sku[" = .error (.invalidPath "Lines]Sku[" .unbalancedBrackets) := by
      decide +kernel
    rw [((parse_grammar "Lines]Sku[").1 path).mpr hpath] at hfault
    cases hfault
  obtain ⟨fault, hfault, -⟩ := (parse_grammar "Lines]Sku[").2.1 hnone
  exact ⟨((parse_grammar " Größe . x [ naïve ] ").2.2.2 _).mp hread, hnone, fault, hfault⟩

end Sample

end Winnow
