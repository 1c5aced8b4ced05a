/-
  Normalized matching ignores the case of ASCII letters and white space at the ends.

  `SameLetters` are two texts with the same characters but for the case of ASCII letters. All that
  lowering a text looks at is the same for a capital as for its small letter: whether it is white
  space, has a case, is looked through, and what its own lower case is (`apply_toLower`). So two
  such texts have one lower case, also where the lower case of a sigma depends on its neighbours
  (`lowerChars_eq_of_sameLetters`). `SameButPadding` adds white space around the texts, and
  normalization takes texts that differ in nothing else to one (`normalizeText_eq`).

  What the formula for a text asks of a reading with normalization is said by
  `holds_textFormula_iff`; it is the same for readings and operands that are `Alike`. The main
  statement, `normalized_matching`, is about two runs: a criterion on one row, and the criterion
  with another operand on a row with other texts.
-/
import Mathlib.Data.List.Forall2
import Winnow.Proofs.BracketedPath
import Winnow.Proofs.Normalization
import Winnow.Proofs.Target

namespace Winnow

variable {ι ρ : Type}

/-! ## Capitals and small letters -/

namespace LetterCase

/-- The capital letters of ASCII. They are few, so that what holds of all of them can be decided. -/
def asciiCapitals : List Char := (CodeRanges.codes [(65, 90)]).map Char.ofNat

theorem toLower_eq_or_mem (c : Char) : c.toLower = c ∨ c ∈ asciiCapitals := by
  by_cases h : CodeRanges.contains [(65, 90)] c.toNat = true
  · exact Or.inr (List.mem_map.mpr ⟨c.toNat, CodeRanges.mem_codes h, Char.ofNat_toNat c⟩)
  · refine Or.inl ?_
    have hrange : ¬ (65 ≤ c.toNat ∧ c.toNat ≤ 90) := by
      simpa [CodeRanges.contains] using h
    unfold Char.toLower
    rw [dif_neg]
    exact hrange

/-- What is the same for a capital and its small letter is the same for a character and its lower
case in ASCII. -/
theorem apply_toLower {α : Type} [DecidableEq α] {f : Char → α}
    (h : asciiCapitals.all (fun c => f c.toLower = f c) = true) (c : Char) :
    f c.toLower = f c := by
  rcases toLower_eq_or_mem c with hc | hc
  · rw [hc]
  · exact of_decide_eq_true (List.all_eq_true.mp h c hc)

theorem isBlank_toLower (c : Char) : isBlank c.toLower = isBlank c :=
  apply_toLower (by decide +kernel) c

theorem isCased_toLower (c : Char) : isCased c.toLower = isCased c :=
  apply_toLower (by decide +kernel) c

theorem isIgnorable_toLower (c : Char) : isIgnorable c.toLower = isIgnorable c :=
  apply_toLower (by decide +kernel) c

theorem lowerChar_toLower (c : Char) : lowerChar c.toLower = lowerChar c :=
  apply_toLower (by decide +kernel) c

theorem toLower_eq_capitalSigma_iff (c : Char) : c.toLower = capitalSigma ↔ c = capitalSigma := by
  have h : decide (c.toLower = capitalSigma) = decide (c = capitalSigma) :=
    apply_toLower (f := fun c => decide (c = capitalSigma)) (by decide +kernel) c
  simpa using h

/-! ## Texts in lower case -/

/-- The texts are the same but for the case of ASCII letters. -/
def SameLetters (cs ds : List Char) : Prop := cs.map Char.toLower = ds.map Char.toLower

instance (cs ds : List Char) : Decidable (SameLetters cs ds) :=
  inferInstanceAs (Decidable (cs.map Char.toLower = ds.map Char.toLower))

theorem meetsCased_map_toLower (cs : List Char) :
    meetsCased (cs.map Char.toLower) = meetsCased cs := by
  have hdrop : (cs.map Char.toLower).dropWhile isIgnorable =
      (cs.dropWhile isIgnorable).map Char.toLower := by
    rw [List.dropWhile_map]
    exact congrArg (fun p => (cs.dropWhile p).map Char.toLower) (funext isIgnorable_toLower)
  unfold meetsCased
  rw [hdrop]
  cases cs.dropWhile isIgnorable with
  | nil => rfl
  | cons c rest => exact isCased_toLower c

/-- Lowering the ASCII letters first changes nothing in the lower case of a text. -/
theorem lowerAfter_map_toLower (before cs : List Char) :
    lowerAfter (before.map Char.toLower) (cs.map Char.toLower) = lowerAfter before cs := by
  induction cs generalizing before with
  | nil => rfl
  | cons c rest ih =>
    have hword : endsWord (before.map Char.toLower) (rest.map Char.toLower) =
        endsWord before rest := by
      rw [endsWord, endsWord, meetsCased_map_toLower, meetsCased_map_toLower]
    rw [List.map_cons, lowerAfter, lowerAfter, ← List.map_cons, ih (c :: before), hword,
      lowerChar_toLower]
    simp only [toLower_eq_capitalSigma_iff]

theorem lowerChars_eq_of_sameLetters {cs ds : List Char} (h : SameLetters cs ds) :
    lowerChars cs = lowerChars ds := by
  have hmap : ∀ cs : List Char, lowerChars (cs.map Char.toLower) = lowerChars cs :=
    lowerAfter_map_toLower []
  rw [← hmap cs, h, hmap ds]

theorem trimChars_map_toLower (cs : List Char) :
    trimChars (cs.map Char.toLower) = (trimChars cs).map Char.toLower := by
  have hblank : isBlank ∘ Char.toLower = isBlank := funext isBlank_toLower
  simp only [trimChars, trimEnd, trimStart, List.dropWhile_map, ← List.map_reverse, hblank]

theorem SameLetters.trim {cs ds : List Char} (h : SameLetters cs ds) :
    SameLetters (trimChars cs) (trimChars ds) := by
  show (trimChars cs).map Char.toLower = (trimChars ds).map Char.toLower
  rw [← trimChars_map_toLower, ← trimChars_map_toLower, h]

/-- The text has the core in it, and besides that white space at its ends. -/
def Pads (core cs : List Char) : Prop :=
  ∃ before after, (∀ c ∈ before, isBlank c = true) ∧ (∀ c ∈ after, isBlank c = true) ∧
    cs = before ++ (core ++ after)

theorem Pads.refl (cs : List Char) : Pads cs cs :=
  ⟨[], [], List.forall_mem_nil _, List.forall_mem_nil _, by simp⟩

theorem Pads.trimChars_eq {core cs : List Char} (h : Pads core cs) :
    trimChars cs = trimChars core := by
  obtain ⟨before, after, hb, ha, rfl⟩ := h
  exact trimChars_append_blank hb ha core

end LetterCase

open LetterCase

/-- The texts differ in nothing but the case of ASCII letters and the white space at their ends. -/
def SameButPadding (s t : String) : Prop :=
  ∃ core core', Pads core s.toList ∧ Pads core' t.toList ∧ SameLetters core core'

theorem SameButPadding.refl (s : String) : SameButPadding s s :=
  ⟨s.toList, s.toList, .refl _, .refl _, rfl⟩

/-- Normalization makes such texts one. -/
theorem normalizeText_eq {s t : String} (h : SameButPadding s t) :
    normalizeText s = normalizeText t := by
  obtain ⟨core, core', hs, ht, hletters⟩ := h
  have hlower : lowerChars (trimChars core) = lowerChars (trimChars core') :=
    lowerChars_eq_of_sameLetters hletters.trim
  rw [← String.toList_inj, toList_normalizeText, toList_normalizeText, hs.trimChars_eq,
    ht.trimChars_eq, hlower]

/-! ## What is asked of texts -/

namespace Reading

/-- The readings are the same, or texts that differ in nothing but the case of ASCII letters and the
white space at their ends. -/
def Alike (f g : Reading ρ) : Prop :=
  f = g ∨ ∃ s t, f = .scalar (.text s) ∧ g = .scalar (.text t) ∧ SameButPadding s t

variable {op : Operator} {part part' : String} {f g : Reading ρ}

theorem Alike.eq_null_iff (h : f.Alike g) : f = .null ↔ g = .null := by
  rcases h with rfl | ⟨s, t, rfl, rfl, -⟩
  · exact Iff.rfl
  · simp

theorem Alike.onText_eq (h : f.Alike g) :
    Term.onText normalizeText f = Term.onText normalizeText g := by
  rcases h with rfl | ⟨s, t, rfl, rfl, hst⟩
  · rfl
  · simp only [Term.onText, normalizeText_eq hst]

theorem finds_iff_onText {tidy : String → String} :
    f.Finds tidy op part ↔
      ∃ s, Term.onText tidy f = .scalar (.text s) ∧ op.Finds (tidy part).toList s.toList := by
  unfold Finds
  cases f with
  | scalar a => cases a <;> simp [Term.onText]
  | _ => simp [Term.onText]

/-- An operand is found in texts that are alike, if at all, in all of them. -/
theorem Alike.finds_iff (h : f.Alike g) (hpart : SameButPadding part part') :
    f.Finds normalizeText op part ↔ g.Finds normalizeText op part' := by
  rw [finds_iff_onText, finds_iff_onText, h.onText_eq, normalizeText_eq hpart]

theorem Alike.asks_iff (h : f.Alike g) (hpart : SameButPadding part part') (nullable : Bool) :
    f.Asks normalizeText op nullable part ↔ g.Asks normalizeText op nullable part' := by
  unfold Asks
  simp only [h.finds_iff hpart, ne_eq, h.eq_null_iff]

end Reading

/-! ## Criteria -/

namespace Criterion

open Formula

/-- Another criterion with the same path and operator, whose operand differs in nothing but the case
of ASCII letters and the white space at its ends. It may have another type that a text accepts. -/
structure Respells (c c' : Criterion) : Prop where
  accepted : Kind.text.accepts c'.operandKind = true
  property : c'.property = c.property
  operator : c'.operator = c.operator
  operand : ∃ part part', c.value.asText? = some part ∧ c'.value.asText? = some part' ∧
    SameButPadding part part'

variable {c c' : Criterion} {m : Term} {nullable : Bool}

/-- With a null as the operand, a comparison of texts is a null test. -/
theorem textFormula_of_null {o : Options} {f : Formula} (hnull : c.value = .null)
    (hop : c.operator.comparesTexts = true) (hf : scalarFormula? o m .text nullable c = some f) :
    f = isNull m ∨ f = isNotNull m := by
  have hw : c.value.widenTo .text = .null := by rw [hnull]; rfl
  cases scalarRule_of_scalarFormula? hf with
  | equal h => exact Or.inl (by rw [hw]; rfl)
  | notEqual h => exact Or.inr (by rw [hw]; rfl)
  | affix t s h hk hv => exact absurd (hw.symm.trans hv) (by simp)
  | oneOf items h hv => exact absurd (hw.symm.trans hv) (by simp)
  | contains s h hk hv => exact absurd (hw.symm.trans hv) (by simp)
  | order k h => exact absurd h (by rw [Operator.comparison?_of_comparesTexts hop]; simp)
  | range h | empty h | notEmpty h | blank h | notBlank h =>
    exact absurd hop (by rw [h]; decide)

variable [Record ρ]

/-- The formula for a text does not tell apart readings that are alike, nor operands. -/
theorem holds_textFormula_alike (hc : c.Built) (hop : c.operator.comparesTexts = true)
    (hitems : c.value.items? = none) (hc' : c' = c ∨ c.Respells c') {f f' : Formula}
    (hf : scalarFormula? ⟨true⟩ m .text nullable c = some f)
    (hf' : scalarFormula? ⟨true⟩ m .text nullable c' = some f') {row row' : ρ}
    (hread : (m.read row).Alike (m.read row')) : f.holds row = f'.holds row' := by
  have htext : ∀ {part part' : String}, c.value.asText? = some part →
      c'.value.asText? = some part' → c'.operator = c.operator → SameButPadding part part' →
      f.holds row = f'.holds row' := by
    intro part part' hpart hpart' hoperator hsame
    have hop' : c'.operator.comparesTexts = true := by rw [hoperator, hop]
    rw [Bool.eq_iff_iff, holds_textFormula_iff hf hpart hop, holds_textFormula_iff hf' hpart' hop',
      hoperator]
    exact hread.asks_iff hsame nullable
  rcases hc' with rfl | hrespells
  · obtain rfl : f = f' := Option.some.inj (hf.symm.trans hf')
    cases hpart : c'.value.asText? with
    | some part => exact htext hpart hpart rfl (SameButPadding.refl part)
    | none =>
      have hnull := hc.sound.eq_null_of_asText?_none hitems hpart (accepts_of_scalarFormula? hf)
      rcases textFormula_of_null hnull hop hf with h | h
      · rw [h, Bool.eq_iff_iff, holds_isNull, holds_isNull, hread.eq_null_iff]
      · rw [h, Bool.eq_iff_iff, holds_isNotNull, holds_isNotNull, ne_eq, hread.eq_null_iff]
  · obtain ⟨part, part', hpart, hpart', hsame⟩ := hrespells.operand
    exact htext hpart hpart' hrespells.operator hsame

end Criterion

theorem any_eq_any_of_forall₂ {α β : Type} {R : β → β → Prop} {g : α → β} {p q : α → Bool}
    (hR : ∀ x y, R (g x) (g y) → p x = q y) {xs ys : List α}
    (h : List.Forall₂ R (xs.map g) (ys.map g)) : xs.any p = ys.any q := by
  rw [List.forall₂_map_left_iff, List.forall₂_map_right_iff] at h
  induction h with
  | nil => rfl
  | cons hxy _ ih => rw [List.any_cons, List.any_cons, hR _ _ hxy, ih]

namespace Criterion

/-- **Normalized matching ignores the case of ASCII letters and white space at the ends.**

    For a built criterion that compares texts, a single operand and a path, with or without
    brackets, to a text member: with normalization the criterion compiles if its operand is a text.
    If it compiles, it compiles with any operand that differs in nothing but the case of ASCII
    letters and the white space at its ends, and it answers the same for every row in which what the
    member holds differs in nothing else, in each record that has the member. -/
theorem normalized_matching {family : Family ι} {i : ι} {c : Criterion} (hc : c.Built)
    {t : Target ι} (ht : c.target family i = .ok t) (htype : t.member.type = .scalar .text)
    (hop : c.operator.comparesTexts = true) (hitems : c.value.items? = none) :
    ((∃ part, c.value.asText? = some part) →
      ∃ p, Predicate.compile family ⟨true⟩ i ⟨[c]⟩ = .ok p) ∧
    ∀ p c', Predicate.compile family ⟨true⟩ i ⟨[c]⟩ = .ok p → c' = c ∨ c.Respells c' →
      ∃ q, Predicate.compile family ⟨true⟩ i ⟨[c']⟩ = .ok q ∧
        ∀ (ρ : Type) [Record ρ] (row row' : ρ),
          List.Forall₂ Reading.Alike (t.readings row) (t.readings row') →
            p.accepts row = q.accepts row' := by
  have hcompiles : ∀ {c' : Criterion} {part : String}, c'.operator.comparesTexts = true →
      Kind.text.accepts c'.operandKind = true → c'.value.asText? = some part →
      ∃ f, memberFormula family ⟨true⟩ t.member c' = .ok f := by
    intro c' part hop' haccepts hpart
    have hsome : (scalarFormula? ⟨true⟩ (.member t.member.path) .text t.member.nullable
        c').isSome = true := isSome_textFormula hpart hop' haccepts ⟨true⟩
    obtain ⟨f, hf⟩ := Option.isSome_iff_exists.mp hsome
    exact ⟨f, (memberFormula_eq_ok_iff_of_text htype hop').mpr hf⟩
  constructor
  · intro h
    obtain ⟨part, hpart⟩ := h
    obtain ⟨f, hf⟩ := hcompiles hop (hc.sound.accepts_of_asText? hpart) hpart
    exact ⟨_, (compile_singleton_of_target ht).mpr ⟨f, hf, rfl⟩⟩
  · intro p c' hp hc'
    obtain ⟨f, hf, rfl⟩ := (compile_singleton_of_target ht).mp hp
    have hop' : c'.operator.comparesTexts = true := by
      rcases hc' with rfl | h
      · exact hop
      · rw [h.operator, hop]
    have ht' : c'.target family i = .ok t := by
      rcases hc' with rfl | h
      · exact ht
      · rw [target_of_property h.property, ht]
    obtain ⟨f', hf'⟩ : ∃ f', memberFormula family ⟨true⟩ t.member c' = .ok f' := by
      rcases hc' with rfl | h
      · exact ⟨f, hf⟩
      · obtain ⟨_, part', _, hpart', _⟩ := h.operand
        exact hcompiles hop' h.accepted hpart'
    refine ⟨_, (compile_singleton_of_target ht').mpr ⟨f', hf', rfl⟩, ?_⟩
    intro ρ _ row row' hrows
    rw [Target.accepts_eq, Target.accepts_eq]
    refine any_eq_any_of_forall₂ (fun r r' hread => ?_) hrows
    exact holds_textFormula_alike hc hop hitems hc'
      ((memberFormula_eq_ok_iff_of_text htype hop).mp hf)
      ((memberFormula_eq_ok_iff_of_text htype hop').mp hf') hread

end Criterion

namespace Sample

/-- The name begins with a text. -/
def nameStarts (text : String) : Criterion :=
  ⟨"Name", .startsWith, .and, .scalar (.text text), .null,
    (ValueType.scalar (.text .borrowed)).operandType⟩

theorem built_nameStarts (text : String) : (nameStarts text).Built :=
  .new (show Criterion.new (.scalar (.text .borrowed)) "Name" .startsWith text none .and =
    .ok (nameStarts text) from rfl)

/-- Neither the operand nor the name has to be written as the other. -/
theorem normalized_matching_ada :
    ∃ p q, Predicate.compile shop ⟨true⟩ .person ⟨[nameStarts "Ad"]⟩ = .ok p ∧
      Predicate.compile shop ⟨true⟩ .person ⟨[nameStarts " AD "]⟩ = .ok q ∧
      p.accepts (named "Ada") = true ∧ q.accepts (named "\taDA") = true := by
  obtain ⟨p, hp, haccepts⟩ : ∃ p,
      Predicate.compile shop ⟨true⟩ .person ⟨[nameStarts "Ad"]⟩ = .ok p ∧
        p.accepts (named "Ada") = true := ⟨_, rfl, by decide +kernel⟩
  have hoperand : SameButPadding "Ad" " AD " :=
    ⟨"Ad".toList, "AD".toList, Pads.refl _, ⟨[' '], [' '], List.forall_mem_singleton.mpr rfl,
      List.forall_mem_singleton.mpr rfl, rfl⟩, by decide +kernel⟩
  have hname : SameButPadding "Ada" "\taDA" :=
    ⟨"Ada".toList, "aDA".toList, Pads.refl _, ⟨['\t'], [], List.forall_mem_singleton.mpr rfl,
      List.forall_mem_nil _, rfl⟩, by decide +kernel⟩
  have hrespells : (nameStarts "Ad").Respells (nameStarts " AD ") :=
    ⟨rfl, rfl, rfl, "Ad", " AD ", rfl, rfl, hoperand⟩
  obtain ⟨q, hq, hsame⟩ := (@Criterion.normalized_matching TypeName shop .person
    (nameStarts "Ad") (built_nameStarts "Ad") _ rfl rfl rfl rfl).2 p _ hp (Or.inr hrespells)
  have hrows := hsame Row (named "Ada") (named "\taDA")
    (.cons (Or.inr ⟨"Ada", "\taDA", rfl, rfl, hname⟩) .nil)
  exact ⟨p, q, hp, hq, haccepts, hrows.symm.trans haccepts⟩

end Sample

end Winnow
