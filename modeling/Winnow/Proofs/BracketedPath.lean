/-
  Property paths with brackets.

  A path `Base[Inner]` is read exactly if `Base` and `Inner` are, each on its own, paths without
  brackets, and then it is read as the two (`parse_bracketed`). Nothing else is known of the
  texts: either may have brackets, points and white space of its own.

  White space does not matter because it is taken off three times over: around the path, around
  its two parts and around every segment. `splitSegments_trimChars` is what makes the middle one
  the same as none: the pieces between points, each trimmed, do not change if the text is trimmed
  first.
-/
import Winnow.Schema.Path

namespace Winnow

/-! ## White space at the ends -/

/-- White space around a text is taken off. -/
theorem trimChars_append_blank {before after : List Char}
    (hb : ∀ c ∈ before, isBlank c = true) (ha : ∀ c ∈ after, isBlank c = true)
    (cs : List Char) : trimChars (before ++ (cs ++ after)) = trimChars cs := by
  rw [trimChars, trimStart_append_blank hb]
  unfold trimChars trimStart
  rw [List.dropWhile_append]
  split
  · next h => rw [dropWhile_isBlank_eq_nil ha, List.isEmpty_iff.mp h]
  · exact trimEnd_append_blank _ ha

theorem trimChars_trimStart (cs : List Char) : trimChars (trimStart cs) = trimChars cs := by
  have h : trimChars (cs.takeWhile isBlank ++ (trimStart cs ++ [])) = trimChars (trimStart cs) :=
    trimChars_append_blank (fun c hc => isBlank_of_mem_takeWhile hc) (List.forall_mem_nil _) _
  rw [List.append_nil, trimStart, List.takeWhile_append_dropWhile] at h
  exact h.symm

/-- A text that ends with brackets loses white space only at its beginning. -/
theorem trimChars_brackets (base inner : List Char) :
    trimChars (base ++ '[' :: (inner ++ [']'])) =
      trimStart base ++ '[' :: (inner ++ [']']) := by
  have hstart : trimStart (base ++ '[' :: (inner ++ [']'])) =
      trimStart base ++ '[' :: (inner ++ [']']) := by
    unfold trimStart
    rw [List.dropWhile_append]
    split
    · next h =>
      rw [List.isEmpty_iff.mp h]
      rfl
    · rfl
  rw [trimChars, hstart, ← List.cons_append, ← List.append_assoc, trimEnd, List.reverse_append]
  show (List.dropWhile isBlank (']' :: (trimStart base ++ '[' :: inner).reverse)).reverse = _
  rw [List.dropWhile_cons_of_neg (by decide), List.reverse_cons, List.reverse_reverse]

/-! ## Segments -/

/-- Characters before a text without the mark go to its first piece. -/
theorem cutAt_append_left {mark : Char} {before : List Char} (h : mark ∉ before)
    (cs : List Char) :
    ∃ piece pieces, cutAt mark cs = piece :: pieces ∧
      cutAt mark (before ++ cs) = (before ++ piece) :: pieces := by
  induction before with
  | nil =>
    obtain ⟨piece, pieces, hp⟩ := List.exists_cons_of_ne_nil (cutAt_ne_nil mark cs)
    exact ⟨piece, pieces, hp, hp⟩
  | cons c before ih =>
    obtain ⟨piece, pieces, hcs, hp⟩ := ih (List.not_mem_of_not_mem_cons h)
    refine ⟨piece, pieces, hcs, ?_⟩
    rw [List.cons_append, cutAt, if_neg (List.ne_of_not_mem_cons h).symm, hp]
    rfl

/-- Characters after a text without the mark go to its last piece. -/
theorem cutAt_append_right {mark : Char} {after : List Char} (h : mark ∉ after)
    (cs : List Char) :
    ∃ pieces last, cutAt mark cs = pieces ++ [last] ∧
      cutAt mark (cs ++ after) = pieces ++ [last ++ after] := by
  induction cs with
  | nil =>
    obtain ⟨piece, pieces, hnil, hp⟩ := cutAt_append_left h []
    rw [cutAt] at hnil
    injection hnil with hpiece hpieces
    subst hpiece hpieces
    rw [List.append_nil] at hp
    exact ⟨[], [], rfl, hp⟩
  | cons c cs ih =>
    obtain ⟨pieces, last, hcs, hafter⟩ := ih
    rw [List.cons_append, cutAt, cutAt, hcs, hafter]
    by_cases hc : c = mark
    · rw [if_pos hc, if_pos hc]
      exact ⟨[] :: pieces, last, rfl, rfl⟩
    · rw [if_neg hc, if_neg hc]
      cases pieces with
      | nil => exact ⟨[], c :: last, rfl, rfl⟩
      | cons piece pieces => exact ⟨(c :: piece) :: pieces, last, rfl, rfl⟩

/-- The trimmed pieces of a text are those of the trimmed text. -/
theorem map_trimChars_cutAt (cs : List Char) :
    (cutAt '.' (trimChars cs)).map trimChars = (cutAt '.' cs).map trimChars := by
  have hpoint : ∀ {bs : List Char}, (∀ c ∈ bs, isBlank c = true) → '.' ∉ bs := by
    intro bs h hmem
    exact absurd (h _ hmem) (by decide)
  obtain ⟨before, after, hb, ha, hcs⟩ := exists_blank_around cs
  obtain ⟨pieces, last, hp, hright⟩ := cutAt_append_right (hpoint ha) (trimChars cs)
  obtain ⟨piece, rest, hq, hleft⟩ := cutAt_append_left (hpoint hb) (trimChars cs ++ after)
  rw [hright] at hq
  rw [hp, congrArg (cutAt '.') hcs, hleft]
  cases pieces with
  | nil =>
    injection hq with hpiece hrest
    subst hpiece hrest
    simp only [List.nil_append, List.map_cons, List.map_nil, trimChars_append_blank hb ha]
  | cons first pieces =>
    rw [List.cons_append] at hq
    injection hq with hpiece hrest
    subst hpiece hrest
    have hfirst := trimChars_append_blank hb (List.forall_mem_nil _) first
    have hlast := trimChars_append_blank (List.forall_mem_nil _) ha last
    rw [List.append_nil] at hfirst
    rw [List.nil_append] at hlast
    simp only [List.cons_append, List.map_cons, List.map_append, List.map_nil, hfirst, hlast]

theorem splitSegments_trimChars (cs : List Char) (shown : String) :
    splitSegments (trimChars cs) shown = splitSegments cs shown := by
  unfold splitSegments
  rw [map_trimChars_cutAt]

/-- Whether there are segments does not depend on the path that is shown; if there are none, the
path that is shown is at fault. -/
theorem splitSegments_cases (cs : List Char) :
    (∃ segments, ∀ shown, splitSegments cs shown = .ok segments) ∨
      ∀ shown, splitSegments cs shown = .error (.invalidPath shown .emptySegment) := by
  unfold splitSegments
  dsimp only
  split
  · exact Or.inr fun _ => rfl
  · exact Or.inl ⟨_, fun _ => rfl⟩

namespace PropertyPath

/-! ## Brackets -/

/-- The text has no brackets. -/
def BracketFree (cs : List Char) : Prop := cs.count '[' = 0 ∧ cs.count ']' = 0

instance (cs : List Char) : Decidable (BracketFree cs) :=
  inferInstanceAs (Decidable (cs.count '[' = 0 ∧ cs.count ']' = 0))

theorem bracketFree_append {cs ds : List Char} :
    BracketFree (cs ++ ds) ↔ BracketFree cs ∧ BracketFree ds := by
  simp only [BracketFree, List.count_append, Nat.add_eq_zero_iff]
  constructor
  · rintro ⟨⟨h1, h2⟩, h3, h4⟩
    exact ⟨⟨h1, h3⟩, h2, h4⟩
  · rintro ⟨⟨h1, h3⟩, h2, h4⟩
    exact ⟨⟨h1, h2⟩, h3, h4⟩

theorem bracketFree_of_blank {cs : List Char} (h : ∀ c ∈ cs, isBlank c = true) :
    BracketFree cs := by
  constructor
  · exact List.count_eq_zero.mpr fun hc => absurd (h _ hc) (by decide)
  · exact List.count_eq_zero.mpr fun hc => absurd (h _ hc) (by decide)

theorem bracketFree_trimChars {cs : List Char} : BracketFree (trimChars cs) ↔ BracketFree cs := by
  obtain ⟨before, after, hb, ha, hcs⟩ := exists_blank_around cs
  rw [congrArg BracketFree hcs, bracketFree_append, bracketFree_append]
  constructor
  · intro h
    exact ⟨bracketFree_of_blank hb, h, bracketFree_of_blank ha⟩
  · intro h
    exact h.2.1

theorem bracketFree_trimStart {cs : List Char} :
    BracketFree (trimStart cs) ↔ BracketFree cs := by
  rw [← bracketFree_trimChars, trimChars_trimStart, bracketFree_trimChars]

theorem splitBrackets_of_bracketFree {cs : List Char} (h : BracketFree cs) :
    splitBrackets cs = .ok none := by
  unfold splitBrackets
  rw [h.1, h.2]
  rfl

theorem opens_brackets (base inner : List Char) :
    (base ++ '[' :: (inner ++ [']'])).count '[' = base.count '[' + inner.count '[' + 1 := by
  rw [List.count_append, List.count_cons_self, List.count_append]
  rfl

theorem closes_brackets (base inner : List Char) :
    (base ++ '[' :: (inner ++ [']'])).count ']' = base.count ']' + inner.count ']' + 1 := by
  rw [List.count_append, List.count_cons_of_ne (by decide), List.count_append]
  rfl

/-- A text with one bracket of either kind is cut at the opening one, unless the closing one stands
before it or something stands behind the closing one. -/
theorem splitBrackets_of_once {base rest : List Char} (hbase : '[' ∉ base)
    (hopens : (base ++ '[' :: rest).count '[' = 1)
    (hcloses : (base ++ '[' :: rest).count ']' = 1) :
    splitBrackets (base ++ '[' :: rest) =
      if ']' ∈ base then .error .unbalancedBrackets
      else if ('[' :: rest).getLast? ≠ some ']' then .error .textAfterBracket
      else .ok (some (base, rest.dropLast)) := by
  have hchars : ∀ c ∈ base, decide (c ≠ '[') = true := by
    intro c hc
    rw [decide_eq_true_iff]
    rintro rfl
    exact hbase hc
  have htake : (base ++ '[' :: rest).takeWhile (· ≠ '[') = base := by
    rw [List.takeWhile_append_of_pos hchars, List.takeWhile_cons_of_neg (by decide),
      List.append_nil]
  have hdrop : (base ++ '[' :: rest).dropWhile (· ≠ '[') = '[' :: rest := by
    rw [List.dropWhile_append_of_pos hchars, List.dropWhile_cons_of_neg (by decide)]
  have hlast : (base ++ '[' :: rest).getLast? = ('[' :: rest).getLast? := by
    rw [List.getLast?_append, List.getLast?_cons]
    rfl
  unfold splitBrackets
  simp only [hopens, hcloses, htake, hdrop, hlast, List.contains_eq_mem, List.tail_cons]
  simp

/-- A text in brackets after a text without is cut into the two. -/
theorem splitBrackets_brackets {base inner : List Char} (hb : BracketFree base)
    (hi : BracketFree inner) :
    splitBrackets (base ++ '[' :: (inner ++ [']'])) = .ok (some (base, inner)) := by
  rw [splitBrackets_of_once (List.count_eq_zero.mp hb.1) (by rw [opens_brackets, hb.1, hi.1])
    (by rw [closes_brackets, hb.2, hi.2]), if_neg (List.count_eq_zero.mp hb.2), if_neg,
    List.dropLast_concat]
  rw [← List.cons_append, List.getLast?_concat]
  exact not_not_intro rfl

/-- Brackets in what stands before the brackets or in them are a fault. -/
theorem splitBrackets_brackets_error {base inner : List Char}
    (h : ¬(BracketFree base ∧ BracketFree inner)) :
    ∃ fault, splitBrackets (base ++ '[' :: (inner ++ [']'])) = .error fault := by
  unfold splitBrackets
  simp only [opens_brackets, closes_brackets]
  rw [if_neg (by omega)]
  split
  · exact ⟨_, rfl⟩
  · next heq =>
    split
    · exact ⟨_, rfl⟩
    · next hone =>
      refine absurd ?_ h
      simp only [BracketFree]
      omega

/-! ## Reading -/

theorem bracketFree_of_splitBrackets {cs : List Char} (h : splitBrackets cs = .ok none) :
    BracketFree cs := by
  unfold splitBrackets at h
  dsimp only at h
  split at h
  · next hfree => exact hfree
  · repeat' split at h
    all_goals exact absurd h (by simp)

/-- Without brackets the segments are read as they stand. -/
theorem parse_of_bracketFree {s : String} (h : BracketFree s.toList) :
    parse s = (splitSegments s.toList (trim s)).map .plain := by
  unfold parse
  simp only [splitBrackets_of_bracketFree (bracketFree_trimChars.mpr h), splitSegments_trimChars]
  rw [← trim]
  cases splitSegments s.toList (trim s) <;> rfl

/-- A path is read as segments exactly if it has no brackets and they are its segments. -/
theorem parse_eq_plain_iff {s : String} {segments : List String} :
    parse s = .ok (.plain segments) ↔
      BracketFree s.toList ∧ splitSegments s.toList (trim s) = .ok segments := by
  constructor
  · intro h
    have hfree : BracketFree s.toList := by
      unfold parse at h
      dsimp only at h
      split at h
      · exact absurd h (by simp)
      · next hsplit => exact bracketFree_trimChars.mp (bracketFree_of_splitBrackets hsplit)
      · next base inner _ =>
        cases hb : splitSegments base (String.ofList (trimChars s.toList)) with
        | error e => simp [hb, bind, Except.bind] at h
        | ok b =>
          cases hi : splitSegments inner (String.ofList (trimChars s.toList)) with
          | error e => simp [hb, hi, bind, Except.bind] at h
          | ok i => simp [hb, hi, bind, Except.bind, pure, Except.pure] at h
    rw [parse_of_bracketFree hfree] at h
    refine ⟨hfree, ?_⟩
    cases hs : splitSegments s.toList (trim s) with
    | error e => simp [hs, Except.map] at h
    | ok segments' =>
      rw [hs] at h
      injection h with h
      injection h with h
      rw [h]
  · rintro ⟨hfree, hs⟩
    rw [parse_of_bracketFree hfree, hs]
    rfl

/-- A path that is read as segments is not blank. -/
theorem exists_not_blank_of_plain {s : String} {segments : List String}
    (h : parse s = .ok (.plain segments)) : ∃ ch ∈ s.toList, isBlank ch = false := by
  refine Classical.byContradiction fun hblank => ?_
  have hall : ∀ ch ∈ s.toList, isBlank ch = true := by
    intro ch hch
    rw [← Bool.not_eq_false]
    exact fun hc => hblank ⟨ch, hch, hc⟩
  have hs := (parse_eq_plain_iff.mp h).2
  rw [← splitSegments_trimChars, trimChars_eq_nil_iff.mpr hall] at hs
  exact absurd hs (by simp [splitSegments, cutAt, trimChars, trimStart, trimEnd])

theorem parse_ne_plain_of_error {s : String}
    (h : ∀ shown, splitSegments s.toList shown = .error (.invalidPath shown .emptySegment))
    (segments : List String) : parse s ≠ .ok (.plain segments) := by
  intro hs
  rw [parse_eq_plain_iff, h (trim s)] at hs
  exact absurd hs.2 (by simp)

theorem parse_of_splitBrackets_some {s : String} {base inner : List Char}
    (h : splitBrackets (trimChars s.toList) = .ok (some (base, inner))) :
    parse s = (do
      let segments ← splitSegments base (trim s)
      let names ← splitSegments inner (trim s)
      return .bracketed segments names) := by
  unfold parse
  simp only [h]
  rfl

theorem parse_of_splitBrackets_error {s : String} {fault : PathFault}
    (h : splitBrackets (trimChars s.toList) = .error fault) :
    parse s = .error (.invalidPath (trim s) fault) := by
  unfold parse
  simp only [h]
  rfl

/-- **A path with brackets is two paths.**

    The path `base[inner]` is read as what `base` and `inner` are read as on their own, if both
    are read as segments; otherwise the whole path is at fault. -/
theorem parse_bracketed {s base inner : String}
    (hs : trim s = trim (base ++ "[" ++ inner ++ "]")) :
    (∃ segments names, parse base = .ok (.plain segments) ∧ parse inner = .ok (.plain names) ∧
        parse s = .ok (.bracketed segments names)) ∨
      ((∀ segments, parse base ≠ .ok (.plain segments)) ∨
          ∀ names, parse inner ≠ .ok (.plain names)) ∧
        ∃ fault, parse s = .error (.invalidPath (trim s) fault) := by
  have hchars : trimChars s.toList =
      trimStart base.toList ++ '[' :: (inner.toList ++ [']']) := by
    rw [← trimChars_brackets, ← toList_trim, hs, toList_trim]
    simp [String.toList_append]
  by_cases hfree : BracketFree base.toList ∧ BracketFree inner.toList
  · have hsplit : splitBrackets (trimChars s.toList) =
        .ok (some (trimStart base.toList, inner.toList)) := by
      rw [hchars, splitBrackets_brackets (bracketFree_trimStart.mpr hfree.1) hfree.2]
    rw [parse_of_splitBrackets_some hsplit, ← splitSegments_trimChars, trimChars_trimStart,
      splitSegments_trimChars]
    rcases splitSegments_cases base.toList with ⟨segments, hb⟩ | hb
    · rcases splitSegments_cases inner.toList with ⟨names, hi⟩ | hi
      · refine Or.inl ⟨segments, names, ?_, ?_, ?_⟩
        · exact parse_eq_plain_iff.mpr ⟨hfree.1, hb _⟩
        · exact parse_eq_plain_iff.mpr ⟨hfree.2, hi _⟩
        · rw [hb, hi]
          rfl
      · refine Or.inr ⟨Or.inr (parse_ne_plain_of_error hi), .emptySegment, ?_⟩
        rw [hb, hi]
        rfl
    · refine Or.inr ⟨Or.inl (parse_ne_plain_of_error hb), .emptySegment, ?_⟩
      rw [hb]
      rfl
  · obtain ⟨fault, hfault⟩ := splitBrackets_brackets_error
      (fun h => hfree ⟨bracketFree_trimStart.mp h.1, h.2⟩)
    refine Or.inr ⟨?_, fault, parse_of_splitBrackets_error (hchars ▸ hfault)⟩
    rcases Classical.not_and_iff_not_or_not.mp hfree with h | h
    · exact Or.inl fun segments hb => h (parse_eq_plain_iff.mp hb).1
    · exact Or.inr fun names hi => h (parse_eq_plain_iff.mp hi).1

theorem parse_of_plain_parts {s base inner : String} {segments names : List String}
    (hs : trim s = trim (base ++ "[" ++ inner ++ "]"))
    (hb : parse base = .ok (.plain segments)) (hi : parse inner = .ok (.plain names)) :
    parse s = .ok (.bracketed segments names) := by
  rcases parse_bracketed hs with ⟨segments', names', hb', hi', h⟩ | ⟨hneither, -⟩
  · obtain rfl := plain.inj (Except.ok.inj (hb.symm.trans hb'))
    obtain rfl := plain.inj (Except.ok.inj (hi.symm.trans hi'))
    exact h
  · rcases hneither with h | h
    · exact absurd hb (h segments)
    · exact absurd hi (h names)

end PropertyPath

end Winnow
