/-
  The lower case of a text that stands inside another.

  Characters are lowered one by one, except the capital sigma, whose lower case depends on whether
  it ends a word and so on what stands around it. `lowerBetween` is the lower case of a part between
  two others. `lowerBetween_eq_iff` says when it is the same between others: exactly if every
  capital sigma ends a word here as it does there. A part `KeepsSigmas` between two others if they
  change nothing for its sigmas.

  White space is neither a letter nor looked through, so that it makes no difference whether the
  texts around are trimmed (`keepsSigmas_trim_iff`), and a trimmed part stays in a text that is
  trimmed around it (`trimChars_around`). `exists_normalized_around` is both together: in the
  normalized form of a text, what comes of a part is as long as the part's own normalized form, and
  is that form exactly if the part keeps its sigmas.
-/
import Winnow.Text.LetterCase

namespace Winnow

/-! ## Trimming around a part -/

/-- What is left of the end of a text has white space behind it, -/
theorem exists_trimEnd_append (cs : List Char) :
    ∃ bs, (∀ c ∈ bs, isBlank c = true) ∧ cs = trimEnd cs ++ bs := by
  refine ⟨(cs.reverse.takeWhile isBlank).reverse,
    fun c hc => isBlank_of_mem_takeWhile (List.mem_reverse.mp hc), ?_⟩
  rw [trimEnd, ← List.reverse_append, List.takeWhile_append_dropWhile, List.reverse_reverse]

/-- and what is left of its start has it before. -/
theorem exists_append_trimStart (cs : List Char) :
    ∃ bs, (∀ c ∈ bs, isBlank c = true) ∧ cs = bs ++ trimStart cs :=
  ⟨cs.takeWhile isBlank, fun _ hc => isBlank_of_mem_takeWhile hc, by
    rw [trimStart, List.takeWhile_append_dropWhile]⟩

theorem trimStart_of_blank {cs : List Char} (h : ∀ c ∈ cs, isBlank c = true) :
    trimStart cs = [] := dropWhile_isBlank_eq_nil h

/-- Nothing behind a character that is not white space is trimmed at the start, -/
theorem trimStart_append_cons {c : Char} (hc : isBlank c = false) (cs rest : List Char) :
    trimStart (cs ++ c :: rest) = trimStart cs ++ c :: rest := by
  unfold trimStart
  have hrest : (c :: rest).dropWhile isBlank = c :: rest :=
    List.dropWhile_cons_of_neg (by simp [hc])
  rw [List.dropWhile_append]
  split
  · next h => rw [hrest, List.isEmpty_iff.mp h, List.nil_append]
  · rfl

/-- and nothing before it at the end. -/
theorem trimEnd_append_cons {c : Char} (hc : isBlank c = false) (cs rest : List Char) :
    trimEnd (cs ++ c :: rest) = cs ++ c :: trimEnd rest := by
  have hreverse : (cs ++ c :: rest).reverse = rest.reverse ++ c :: cs.reverse := by simp
  rw [trimEnd, hreverse]
  show (trimStart _).reverse = _
  rw [trimStart_append_cons hc]
  simp [trimEnd, trimStart]

theorem not_isBlank_of_trimStart {c : Char} {cs rest : List Char}
    (h : trimStart cs = c :: rest) : isBlank c = false := by
  have hdrop : cs.dropWhile isBlank = c :: rest := h
  have hne : cs.dropWhile isBlank ≠ [] := by
    rw [hdrop]
    exact List.cons_ne_nil _ _
  have hhead := List.head_dropWhile_not isBlank hne
  simpa only [hdrop, List.head_cons] using hhead

/-- What is left of a text begins with a character that is not white space, -/
theorem not_isBlank_head {c : Char} {cs rest : List Char} (h : trimChars cs = c :: rest) :
    isBlank c = false := by
  obtain ⟨bs, -, hbs⟩ := exists_trimEnd_append (trimStart cs)
  rw [← trimChars, h, List.cons_append] at hbs
  exact not_isBlank_of_trimStart hbs

/-- and ends with one. -/
theorem not_isBlank_last {c : Char} {cs before : List Char} (h : trimChars cs = before ++ [c]) :
    isBlank c = false := by
  have hreverse : trimStart (trimStart cs).reverse = c :: before.reverse := by
    rw [← List.reverse_inj, List.reverse_cons, List.reverse_reverse]
    exact h
  exact not_isBlank_of_trimStart hreverse

/-- A part of which something is left stays in the text around it, and the text is trimmed on its
outer sides. -/
theorem trimChars_around {part : List Char} (h : trimChars part ≠ []) (before after : List Char) :
    trimChars (before ++ (trimChars part ++ after)) =
      trimStart before ++ (trimChars part ++ trimEnd after) := by
  obtain ⟨c, rest, hhead⟩ := List.exists_cons_of_ne_nil h
  obtain ⟨start, d, hconcat⟩ := (List.eq_nil_or_concat _).resolve_left h
  have hlast := hconcat.trans List.concat_eq_append
  have hstart : trimStart (before ++ (trimChars part ++ after)) =
      trimStart before ++ (trimChars part ++ after) := by
    rw [hhead, List.cons_append, trimStart_append_cons (not_isBlank_head hhead)]
  have hend : trimEnd ((trimStart before ++ start) ++ d :: after) =
      (trimStart before ++ start) ++ d :: trimEnd after :=
    trimEnd_append_cons (not_isBlank_last hlast) _ _
  rw [trimChars, hstart, hlast]
  simpa using hend

/-! ## Lower case between other texts -/

namespace LetterCase

/-- The lower case of a part between `before`, read backwards, and `after`. -/
def lowerBetween (before : List Char) : List Char → List Char → List Char
  | [], _ => []
  | c :: rest, after =>
    (if c = capitalSigma then [if endsWord before (rest ++ after) then finalSigma else smallSigma]
      else lowerChar c) ++ lowerBetween (c :: before) rest after

/-- With nothing behind it this is the lower case of a text that follows `before`. -/
theorem lowerBetween_nil (before cs : List Char) :
    lowerBetween before cs [] = lowerAfter before cs := by
  induction cs generalizing before with
  | nil => rfl
  | cons c rest ih => rw [lowerBetween, lowerAfter, ih, List.append_nil]

/-- A text is lowered part by part, each with the other around it. -/
theorem lowerAfter_append (before cs after : List Char) :
    lowerAfter before (cs ++ after) =
      lowerBetween before cs after ++ lowerAfter (cs.reverse ++ before) after := by
  induction cs generalizing before with
  | nil => rfl
  | cons c rest ih =>
    rw [List.cons_append, lowerAfter, lowerBetween, ih, List.append_assoc]
    simp

/-- How much there is of the lower case does not depend on what stands around. -/
theorem length_lowerBetween (before before' cs after after' : List Char) :
    (lowerBetween before cs after).length = (lowerBetween before' cs after').length := by
  induction cs generalizing before before' with
  | nil => rfl
  | cons c rest ih =>
    rw [lowerBetween, lowerBetween, List.length_append, List.length_append, ih _ (c :: before')]
    by_cases hc : c = capitalSigma <;> simp [hc]

/-- The two lower cases of the sigma are different letters. -/
theorem sigma_eq_iff (p q : Bool) :
    (if p then finalSigma else smallSigma) = (if q then finalSigma else smallSigma) ↔ p = q := by
  cases p <;> cases q <;> decide

/-- The lower case is the same exactly if every capital sigma ends a word here as it does there. -/
theorem lowerBetween_eq_iff (before before' cs after after' : List Char) :
    lowerBetween before cs after = lowerBetween before' cs after' ↔
      ∀ u v, cs = u ++ capitalSigma :: v →
        endsWord (u.reverse ++ before) (v ++ after) =
          endsWord (u.reverse ++ before') (v ++ after') := by
  induction cs generalizing before before' with
  | nil => simp [lowerBetween]
  | cons c rest ih =>
    have hcons : lowerBetween before (c :: rest) after = lowerBetween before' (c :: rest) after' ↔
        (c = capitalSigma →
          endsWord before (rest ++ after) = endsWord before' (rest ++ after')) ∧
        lowerBetween (c :: before) rest after = lowerBetween (c :: before') rest after' := by
      rw [lowerBetween, lowerBetween]
      by_cases hc : c = capitalSigma
      · rw [if_pos hc, if_pos hc, List.singleton_append, List.singleton_append, List.cons.injEq,
          sigma_eq_iff]
        exact and_congr_left fun _ => ⟨fun h _ => h, fun h => h hc⟩
      · rw [if_neg hc, if_neg hc, List.append_cancel_left_eq]
        exact ⟨fun h => ⟨fun h' => absurd h' hc, h⟩, And.right⟩
    rw [hcons, ih]
    constructor
    · rintro ⟨hhead, hrest⟩ u v huv
      cases u with
      | nil =>
        obtain ⟨hc, rfl⟩ := List.cons.inj huv
        exact hhead hc
      | cons d u =>
        obtain ⟨rfl, rfl⟩ := List.cons.inj huv
        simpa using hrest u v rfl
    · intro h
      refine ⟨fun hc => h [] rest (by rw [hc]; rfl), fun u v huv => ?_⟩
      simpa using h (c :: u) v (by rw [huv]; rfl)

/-! ## Sigmas that are kept -/

/-- Every capital sigma of the part ends a word between `before` and `after` exactly if it does in
the part by itself. -/
def KeepsSigmas (before part after : List Char) : Prop :=
  ∀ u v, part = u ++ capitalSigma :: v →
    endsWord (u.reverse ++ before.reverse) (v ++ after) = endsWord u.reverse v

theorem keepsSigmas_of_not_mem {part : List Char} (h : capitalSigma ∉ part)
    (before after : List Char) : KeepsSigmas before part after := by
  rintro u v rfl
  exact absurd (List.mem_append_right u List.mem_cons_self) h

/-- There is nothing around the part that could change its sigmas. -/
theorem keepsSigmas_nil (part : List Char) : KeepsSigmas [] part [] := by
  intro u v _
  simp

/-- A part that keeps its sigmas has its own lower case. -/
theorem lowerBetween_eq_lowerChars_iff (before part after : List Char) :
    lowerBetween before.reverse part after = lowerChars part ↔ KeepsSigmas before part after := by
  rw [lowerChars, ← lowerBetween_nil, lowerBetween_eq_iff]
  simp [KeepsSigmas]

/-! ## White space around -/

/-- White space is no letter and is not looked through. -/
theorem not_cased_of_isBlank {c : Char} (h : isBlank c = true) :
    isCased c = false ∧ isIgnorable c = false := by
  have hall : blankChars.all (fun b => !isCased b && !isIgnorable b) = true := by decide +kernel
  simpa using List.all_eq_true.mp hall c (mem_blankChars h)

/-- White space at the far end of what is looked through makes no difference. -/
theorem meetsCased_append_blank (cs : List Char) {bs : List Char}
    (h : ∀ c ∈ bs, isBlank c = true) : meetsCased (cs ++ bs) = meetsCased cs := by
  unfold meetsCased
  rw [List.dropWhile_append]
  cases hcs : cs.dropWhile isIgnorable with
  | cons c rest => rfl
  | nil =>
    cases bs with
    | nil => rfl
    | cons b bs =>
      obtain ⟨hcased, hignorable⟩ := not_cased_of_isBlank (h b List.mem_cons_self)
      simp [hignorable, hcased]

/-- The texts around a letter may be trimmed on their outer sides. -/
theorem endsWord_trim (u before v after : List Char) :
    endsWord (u ++ (trimStart before).reverse) (v ++ trimEnd after) =
      endsWord (u ++ before.reverse) (v ++ after) := by
  obtain ⟨bs, hbs, hbefore⟩ := exists_append_trimStart before
  obtain ⟨as, has, hafter⟩ := exists_trimEnd_append after
  have hb : meetsCased (u ++ before.reverse) = meetsCased (u ++ (trimStart before).reverse) := by
    rw [congrArg List.reverse hbefore, List.reverse_append, ← List.append_assoc,
      meetsCased_append_blank _ fun c hc => hbs c (List.mem_reverse.mp hc)]
  have ha : meetsCased (v ++ after) = meetsCased (v ++ trimEnd after) := by
    rw [congrArg (v ++ ·) hafter, ← List.append_assoc, meetsCased_append_blank _ has]
  rw [endsWord, endsWord, hb, ha]

/-- A character that is not in the first of two texts stands in the second, -/
theorem split_right {c : Char} {xs ys u v : List Char} (h : xs ++ ys = u ++ c :: v)
    (hc : c ∉ xs) : ∃ w, u = xs ++ w ∧ ys = w ++ c :: v := by
  rcases List.append_eq_append_iff.mp h with ⟨w, hu, hys⟩ | ⟨w, hxs, hv⟩
  · exact ⟨w, hu, hys⟩
  · cases w with
    | nil => exact ⟨[], by rw [hxs, List.append_nil, List.append_nil], hv.symm⟩
    | cons d w =>
      obtain ⟨rfl, -⟩ := List.cons.inj hv
      exact absurd (by rw [hxs]; simp) hc

/-- and one that is not in the second stands in the first. -/
theorem split_left {c : Char} {xs ys u v : List Char} (h : xs ++ ys = u ++ c :: v)
    (hc : c ∉ ys) : ∃ w, v = w ++ ys ∧ xs = u ++ c :: w := by
  rcases List.append_eq_append_iff.mp h with ⟨w, hu, hys⟩ | ⟨w, hxs, hv⟩
  · exact absurd (by rw [hys]; simp) hc
  · cases w with
    | nil => exact absurd (by rw [← hv.trans (List.nil_append _)]; simp) hc
    | cons d w =>
      obtain ⟨rfl, hrest⟩ := List.cons.inj hv
      exact ⟨w, hrest, hxs⟩

theorem not_isBlank_capitalSigma : isBlank capitalSigma = false := by decide

/-- A part keeps its sigmas exactly if it keeps them without the white space around it and without
that around the whole text. -/
theorem keepsSigmas_trim_iff {lead trail : List Char} (hl : ∀ c ∈ lead, isBlank c = true)
    (ht : ∀ c ∈ trail, isBlank c = true) (before core after : List Char) :
    KeepsSigmas (trimStart (before ++ lead)) core (trimEnd (trail ++ after)) ↔
      KeepsSigmas before (lead ++ (core ++ trail)) after := by
  have hsigma : ∀ {bs : List Char}, (∀ c ∈ bs, isBlank c = true) → capitalSigma ∉ bs := by
    intro bs h hmem
    exact absurd (h _ hmem) (by simp [not_isBlank_capitalSigma])
  have hwhole : ∀ u v : List Char, endsWord (u.reverse ++ (trimStart (before ++ lead)).reverse)
      (v ++ trimEnd (trail ++ after)) =
        endsWord ((lead ++ u).reverse ++ before.reverse) (v ++ trail ++ after) := by
    intro u v
    rw [endsWord_trim]
    simp
  have hown : ∀ u v : List Char, endsWord (lead ++ u).reverse (v ++ trail) =
      endsWord u.reverse v := by
    intro u v
    rw [endsWord, endsWord, List.reverse_append, meetsCased_append_blank v ht,
      meetsCased_append_blank u.reverse fun c hc => hl c (List.mem_reverse.mp hc)]
  constructor
  · intro h u v huv
    obtain ⟨u', rfl, hu⟩ := split_right huv (hsigma hl)
    obtain ⟨v', rfl, hv⟩ := split_left hu (hsigma ht)
    rw [← hwhole, hown]
    exact h u' v' hv
  · intro h u v huv
    rw [hwhole, ← hown]
    exact h (lead ++ u) (v ++ trail) (by rw [huv]; simp)

/-- The normalized form of a text with a part of which something is left: what comes of the text
before, of the part and of the text after. What comes of the part is as long as its own normalized
form, and is that form exactly if the part keeps its sigmas. -/
theorem exists_normalized_around {part : List Char} (h : trimChars part ≠ [])
    (before after : List Char) :
    ∃ x core y, lowerChars (trimChars (before ++ (part ++ after))) = x ++ (core ++ y) ∧
      core.length = (lowerChars (trimChars part)).length ∧
      (core = lowerChars (trimChars part) ↔ KeepsSigmas before part after) ∧
      (before = [] → x = []) ∧ (after = [] → y = []) := by
  obtain ⟨lead, trail, hl, ht, hpart⟩ := exists_blank_around part
  obtain ⟨A, hA⟩ : ∃ A, A = trimStart (before ++ lead) := ⟨_, rfl⟩
  obtain ⟨B, hB⟩ : ∃ B, B = trimEnd (trail ++ after) := ⟨_, rfl⟩
  have htext : before ++ (part ++ after) =
      (before ++ lead) ++ (trimChars part ++ (trail ++ after)) :=
    (congrArg (fun cs => before ++ (cs ++ after)) hpart).trans (by simp)
  refine ⟨lowerBetween [] A (trimChars part ++ B), lowerBetween A.reverse (trimChars part) B,
    lowerAfter ((trimChars part).reverse ++ A.reverse) B, ?_, ?_, ?_, ?_, ?_⟩
  · rw [htext, trimChars_around h, ← hA, ← hB, lowerChars, lowerAfter_append, lowerAfter_append,
      List.append_nil]
  · rw [lowerChars, ← lowerBetween_nil]
    exact length_lowerBetween _ _ _ _ _
  · rw [lowerBetween_eq_lowerChars_iff, hA, hB, keepsSigmas_trim_iff hl ht, ← hpart]
  · rintro rfl
    rw [hA, List.nil_append, trimStart_of_blank hl]
    rfl
  · rintro rfl
    rw [hB, List.append_nil, trimEnd_eq_nil ht]
    rfl

end LetterCase

end Winnow
