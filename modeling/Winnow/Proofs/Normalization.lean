/-
  What normalization changes for the comparisons of texts.

  A criterion that compares texts looks for its operand in the text of a member, anywhere or at one
  end or as the whole of it. With the option to normalize, the trimmed operand in lower case is
  looked for in the trimmed text in lower case. Both are normalized as wholes, and the lower case of
  a capital sigma at the end of the operand may be another than that of the same letter inside the
  text. `Reading.KeepsSigmas` is the condition that this does not happen.

  `holds_textFormula_iff` says what the formula for a text asks under either option, and
  `Operator.finds_normalized` that an operand which is found is found again in the normalized text,
  if it keeps its sigmas there. `normalization_widens`, the main statement, puts the two together
  for paths with and without brackets: normalization makes positive comparisons accept more and
  negated ones less. `normalization_narrows_sigma` is a text for which the condition fails.
-/
import Winnow.Proofs.LowerCase
import Winnow.Proofs.Quantifier
import Winnow.Proofs.SingleStep

namespace Winnow

open LetterCase

variable {ι ρ : Type}

/-! ## Where an operand is found -/

namespace Operator

/-- The operators that compare a member with a text. -/
def comparesTexts : Operator → Bool
  | .equal | .notEqual | .startsWith | .endsWith => true
  | op => op.isMembership

/-- The operators among them that ask for texts in which the operand is not found. -/
def excludes : Operator → Bool
  | .notEqual => true
  | op => op.isNegatedMembership

/-- What an operator allows around the operand: equality nothing, a test of one end nothing at that
end, membership anything. -/
def FindsAt (op : Operator) (before after : List Char) : Prop :=
  match op with
  | .equal | .notEqual => before = [] ∧ after = []
  | .startsWith => before = []
  | .endsWith => after = []
  | _ => True

/-- The operand is found in the text. -/
def Finds (op : Operator) (part cs : List Char) : Prop :=
  ∃ before after, op.FindsAt before after ∧ cs = before ++ (part ++ after)

variable {op : Operator} {part cs before after : List Char}

theorem finds_of_equality (hop : op = .equal ∨ op = .notEqual) : op.Finds part cs ↔ cs = part := by
  have hat : ∀ x y, op.FindsAt x y ↔ x = [] ∧ y = [] := by
    rcases hop with rfl | rfl <;> exact fun _ _ => Iff.rfl
  constructor
  · rintro ⟨x, y, h, rfl⟩
    obtain ⟨rfl, rfl⟩ := (hat x y).mp h
    simp
  · rintro rfl
    exact ⟨[], [], (hat [] []).mpr ⟨rfl, rfl⟩, by simp⟩

theorem finds_of_isMembership (hop : op.isMembership = true) :
    op.Finds part cs ↔ part <:+: cs := by
  cases op <;> first | exact absurd hop (by decide) | simp [Finds, FindsAt, List.IsInfix, eq_comm]

theorem finds_of_affix? {t : TextTest} (hop : op.affix? = some t) :
    op.Finds part cs ↔ t.Relates part cs := by
  cases op <;> simp [affix?] at hop <;> subst hop <;>
    simp [Finds, FindsAt, TextTest.Relates, List.IsPrefix, List.IsSuffix, eq_comm]

theorem not_excludes_of_affix? {t : TextTest} (hop : op.affix? = some t) :
    ¬ op.excludes = true := by
  cases op <;> first | decide | exact absurd hop (by simp [affix?])

theorem excludes_of_isMembership (hop : op.isMembership = true) :
    op.excludes = op.isNegatedMembership := by
  cases op <;> first | exact absurd hop (by decide) | rfl

theorem comparison?_of_comparesTexts (hop : op.comparesTexts = true) : op.comparison? = none := by
  cases op <;> first | exact absurd hop (by decide) | rfl

/-- Where less stands around the operand, it is found as well. -/
theorem FindsAt.mono {x y : List Char} (hx : before = [] → x = []) (hy : after = [] → y = [])
    (h : op.FindsAt before after) : op.FindsAt x y := by
  cases op with
  | equal | notEqual => exact ⟨hx h.1, hy h.2⟩
  | startsWith => exact hx h
  | endsWith => exact hy h
  | _ => trivial

/-- Nothing is found in every text, unless it has to be the whole of it. -/
theorem finds_nil (h : op.FindsAt before after) (hwhole : before = [] → after = [] → cs = []) :
    op.Finds [] cs := by
  cases op with
  | equal | notEqual => exact ⟨[], [], ⟨rfl, rfl⟩, hwhole h.1 h.2⟩
  | endsWith => exact ⟨cs, [], rfl, by simp⟩
  | startsWith => exact ⟨[], cs, rfl, rfl⟩
  | _ => exact ⟨[], cs, trivial, rfl⟩

/-- An operand that keeps its sigmas is found in normalized form in the normalized text. -/
theorem finds_normalized (hat : op.FindsAt before after)
    (hkeeps : LetterCase.KeepsSigmas before part after) :
    op.Finds (lowerChars (trimChars part))
      (lowerChars (trimChars (before ++ (part ++ after)))) := by
  by_cases h : trimChars part = []
  · rw [h]
    refine finds_nil hat ?_
    rintro rfl rfl
    rw [List.nil_append, List.append_nil, h]
    rfl
  · obtain ⟨x, core, y, htext, -, hcore, hx, hy⟩ := exists_normalized_around h before after
    exact ⟨x, y, hat.mono hx hy, by rw [htext, hcore.mpr hkeeps]⟩

/-- At the ends of a text there is only one place, at which the sigmas have to be kept. -/
theorem keepsSigmas_of_finds_normalized (hop : op = .startsWith ∨ op = .endsWith)
    (hat : op.FindsAt before after)
    (h : op.Finds (lowerChars (trimChars part))
      (lowerChars (trimChars (before ++ (part ++ after))))) :
    LetterCase.KeepsSigmas before part after := by
  by_cases hpart : trimChars part = []
  · refine keepsSigmas_of_not_mem ?_ before after
    intro hmem
    exact absurd (trimChars_eq_nil_iff.mp hpart _ hmem) (by simp [not_isBlank_capitalSigma])
  · obtain ⟨x, core, y, htext, hlength, hcore, hx, hy⟩ :=
      exists_normalized_around hpart before after
    obtain ⟨x', y', hat', htext'⟩ := h
    rw [htext] at htext'
    refine hcore.mp ?_
    rcases hop with rfl | rfl
    · obtain rfl : x = [] := hx hat
      obtain rfl : x' = [] := hat'
      exact List.append_inj_left htext' hlength
    · obtain rfl : y = [] := hy hat
      obtain rfl : y' = [] := hat'
      rw [List.append_nil, List.append_nil] at htext'
      exact List.append_inj_right' htext' hlength

end Operator

/-! ## Readings -/

/-- The reading is a text in which the operand is found, both after `tidy`. -/
def Reading.Finds (tidy : String → String) (op : Operator) (part : String) (f : Reading ρ) : Prop :=
  ∃ s, f = .scalar (.text s) ∧ op.Finds (tidy part).toList (tidy s).toList

/-- If the operand is found in the text at all, it is found at some place at which it keeps its
sigmas. -/
def Reading.KeepsSigmas (op : Operator) (part : String) (f : Reading ρ) : Prop :=
  ∀ s, f = .scalar (.text s) → op.Finds part.toList s.toList →
    ∃ before after, op.FindsAt before after ∧ s.toList = before ++ (part.toList ++ after) ∧
      LetterCase.KeepsSigmas before part.toList after

/-- The operand is asked for, or excluded. Of nulls that are guarded against, neither holds. -/
def Reading.Asks (tidy : String → String) (op : Operator) (nullable : Bool) (part : String)
    (f : Reading ρ) : Prop :=
  if op.excludes = true then
    (op ≠ .notEqual → nullable = true → f ≠ .null) ∧ ¬ f.Finds tidy op part
  else f.Finds tidy op part

/-- With `q` for `p` an operator accepts more, or less if it excludes. -/
def Operator.Widens (op : Operator) (p q : Prop) : Prop :=
  if op.excludes = true then q → p else p → q

namespace Reading

variable {op : Operator} {part : String} {f : Reading ρ}

theorem finds_raw_iff : f.Finds (Options.tidy ⟨false⟩) op part ↔
    ∃ s, f = .scalar (.text s) ∧ op.Finds part.toList s.toList := Iff.rfl

theorem finds_normalized_iff : f.Finds (Options.tidy ⟨true⟩) op part ↔
    ∃ s, f = .scalar (.text s) ∧
      op.Finds (lowerChars (trimChars part.toList)) (lowerChars (trimChars s.toList)) := by
  simp only [← toList_normalizeText]
  exact Iff.rfl

/-- Nothing is found in a null. -/
theorem Finds.ne_null {tidy : String → String} (h : f.Finds tidy op part) : f ≠ .null := by
  obtain ⟨s, rfl, -⟩ := h
  simp

/-- An operand that is found is found in normalized form, if it keeps its sigmas. -/
theorem Finds.normalized (hkeeps : f.KeepsSigmas op part)
    (h : f.Finds (Options.tidy ⟨false⟩) op part) : f.Finds (Options.tidy ⟨true⟩) op part := by
  obtain ⟨s, rfl, hs⟩ := finds_raw_iff.mp h
  obtain ⟨before, after, hat, htext, hsigmas⟩ := hkeeps s rfl hs
  refine finds_normalized_iff.mpr ⟨s, rfl, ?_⟩
  rw [htext]
  exact Operator.finds_normalized hat hsigmas

theorem keepsSigmas_of_finds (hop : op = .startsWith ∨ op = .endsWith)
    (h : f.Finds (Options.tidy ⟨true⟩) op part) : f.KeepsSigmas op part := by
  rintro s hs ⟨before, after, hat, htext⟩
  obtain ⟨s', hs', hfinds⟩ := finds_normalized_iff.mp h
  obtain rfl : s = s' := by simpa [hs] using hs'
  rw [htext] at hfinds
  exact ⟨before, after, hat, htext, Operator.keepsSigmas_of_finds_normalized hop hat hfinds⟩

/-- Operands without capital sigmas, and whole texts, always keep them. -/
theorem keepsSigmas_of (h : op = .equal ∨ op = .notEqual ∨ capitalSigma ∉ part.toList) :
    f.KeepsSigmas op part := by
  rintro s - ⟨before, after, hat, htext⟩
  refine ⟨before, after, hat, htext, ?_⟩
  rcases h with rfl | rfl | h
  · obtain ⟨rfl, rfl⟩ := hat
    exact keepsSigmas_nil _
  · obtain ⟨rfl, rfl⟩ := hat
    exact keepsSigmas_nil _
  · exact keepsSigmas_of_not_mem h before after

/-- What is asked of texts widens with normalization. -/
theorem widens_asks (nullable : Bool) (hkeeps : f.KeepsSigmas op part) :
    op.Widens (f.Asks (Options.tidy ⟨false⟩) op nullable part)
      (f.Asks (Options.tidy ⟨true⟩) op nullable part) := by
  unfold Operator.Widens Asks
  split
  · rintro ⟨hnull, hnot⟩
    exact ⟨hnull, fun h => hnot (h.normalized hkeeps)⟩
  · exact Finds.normalized hkeeps

end Reading

/-! ## Formulas -/

/-- A text equals the operand exactly if the operand is found to be the whole of it. -/
theorem Reading.finds_of_equality {tidy : String → String} {op : Operator} {part : String}
    (hop : op = .equal ∨ op = .notEqual) (f : Reading ρ) :
    f.Finds tidy op part ↔ Term.onText tidy f = .scalar (.text (tidy part)) := by
  simp only [Finds, Operator.finds_of_equality hop, String.toList_inj]
  cases f with
  | scalar a => cases a <;> simp [Term.onText]
  | _ => simp [Term.onText]

theorem Reading.finds_of_affix? {tidy : String → String} {op : Operator} {t : TextTest}
    {part : String} {f : Reading ρ} (hop : op.affix? = some t) :
    f.Finds tidy op part ↔ f.HasPart tidy t part :=
  exists_congr fun _ => and_congr_right fun _ => Operator.finds_of_affix? hop

theorem Reading.finds_of_isMembership {tidy : String → String} {op : Operator} {part : String}
    {f : Reading ρ} (hop : op.isMembership = true) :
    f.Finds tidy op part ↔ f.HasPart tidy .contains part :=
  exists_congr fun _ => and_congr_right fun _ => Operator.finds_of_isMembership hop

theorem Reading.asks_of_not_excludes {tidy : String → String} {op : Operator} {nullable : Bool}
    {part : String} {f : Reading ρ} (hop : ¬ op.excludes = true) :
    f.Asks tidy op nullable part ↔ f.Finds tidy op part := by
  rw [Asks, if_neg hop]

namespace Criterion

open Formula

/-- An operand that is no text is compared as it is, under either option. -/
theorem scalarFormula?_of_asText?_none {c : Criterion} (hv : c.value.asText? = none)
    (o o' : Options) (m : Term) (nullable : Bool) :
    scalarFormula? o m .text nullable c = scalarFormula? o' m .text nullable c := by
  have hw := Value.text?_widenTo hv .text
  have hsides : ∀ n n', sides n m (c.value.widenTo .text) = sides n' m (c.value.widenTo .text) :=
    fun n n' => by rw [sides_of_text?_none n m hw, sides_of_text?_none n' m hw]
  have haffix : ∀ t n, affixFormula? t n m .text (c.value.widenTo .text) = none := by
    intro t n
    simp [affixFormula?, hw]
  have hmember : ∀ n n', membershipFormula? c.operator.isNegatedMembership n nullable m .text
      (c.value.widenTo .text) = membershipFormula? c.operator.isNegatedMembership n' nullable m
        .text (c.value.widenTo .text) := by
    intro n n'
    cases h : c.value.widenTo .text with
    | scalar a =>
      cases a with
      | text s => exact absurd (h ▸ hw) (by simp [Value.text?])
      | _ => rfl
    | _ => rfl
  unfold scalarFormula?
  split
  · rfl
  · -- The operators between the tests of the ends and membership do not look at the options.
    dsimp only
    split
    · rw [equalFormula, equalFormula, hsides]
    · rw [notEqualFormula, notEqualFormula, hsides]
    · rw [haffix, haffix]
    · rw [haffix, haffix]
    · rfl
    · rfl
    · rfl
    · rfl
    · rfl
    · rw [hmember]

variable {c : Criterion} {part : String} {m : Term} {nullable : Bool}

/-- A text as the operand has a formula for every operator that compares texts. -/
theorem isSome_textFormula (hpart : c.value.asText? = some part)
    (hop : c.operator.comparesTexts = true) (ha : Kind.text.accepts c.operandKind = true)
    (o : Options) : (scalarFormula? o m .text nullable c).isSome = true := by
  have hw := Value.widenTo_text_eq_iff.mpr hpart
  unfold scalarFormula?
  rw [ha, hw]
  cases h : c.operator <;> rw [h] at hop <;> first | exact absurd hop (by decide) | rfl

variable [Record ρ]

/-- The two sides are equal exactly if the operand is found to be the whole text. -/
theorem holds_compare_sides (o : Options) (m : Term) (part : String) (row : ρ) :
    (Formula.compare .eq (sides o.normalizeText m (.scalar (.text part))).1
        (sides o.normalizeText m (.scalar (.text part))).2).holds row = true ↔
      (m.read row).Finds o.tidy .equal part := by
  rw [Reading.finds_of_equality (Or.inl rfl), ← Reading.equals_text_iff, ← read_sides_fst,
    ← read_sides_snd]
  exact Iff.rfl

theorem holds_equal_text (o : Options) (m : Term) (nullable : Bool) (part : String) (row : ρ) :
    (equalFormula o.normalizeText nullable m (.scalar (.text part))).holds row = true ↔
      (m.read row).Finds o.tidy .equal part := by
  have hcompare := holds_compare_sides o m part row
  exact (holds_guardedIf_of_imp nullable m fun h => (hcompare.mp h).ne_null).trans hcompare

theorem holds_notEqual_text (o : Options) (m : Term) (nullable : Bool) (part : String)
    (row : ρ) :
    (notEqualFormula o.normalizeText nullable m (.scalar (.text part))).holds row = true ↔
      ¬ (m.read row).Finds o.tidy .notEqual part := by
  have hdiffers : (Formula.compare .ne (sides o.normalizeText m (.scalar (.text part))).1
      (sides o.normalizeText m (.scalar (.text part))).2).holds row = true ↔
        ¬ (m.read row).Finds o.tidy .notEqual part := by
    rw [holds_compare_ne, holds_compare_sides]
    exact Iff.rfl
  cases nullable with
  | false => exact hdiffers
  | true =>
    show (Formula.or (isNull m) (.compare .ne (sides o.normalizeText m (.scalar (.text part))).1
      (sides o.normalizeText m (.scalar (.text part))).2)).holds row = true ↔ _
    rw [Formula.holds, Bool.or_eq_true, hdiffers, holds_isNull, or_iff_right_iff_imp]
    exact fun hnull hfinds => hfinds.ne_null hnull

/-- Whatever formula there is for a text asks for the operand in it, under either option. -/
theorem holds_textFormula_iff {o : Options} {f : Formula}
    (hf : scalarFormula? o m .text nullable c = some f) (hpart : c.value.asText? = some part)
    (hop : c.operator.comparesTexts = true) (row : ρ) :
    f.holds row = true ↔ (m.read row).Asks o.tidy c.operator nullable part := by
  have hn : (o.normalizeText && decide (Kind.text = .text)) = o.normalizeText := by simp
  have hw := Value.widenTo_text_eq_iff.mpr hpart
  cases scalarRule_of_scalarFormula? hf with
  | equal h =>
    rw [hn, hw, holds_equal_text, h]
    exact Iff.rfl
  | notEqual h =>
    rw [hn, hw, holds_notEqual_text, h]
    exact ⟨fun hnot => ⟨fun hne => absurd rfl hne, hnot⟩, And.right⟩
  | affix t s h hk hv =>
    obtain rfl : s = part := by simpa [hv] using hw
    rw [Formula.holds, Bool.and_eq_true, holds_isNotNull, holds_textTest_sides,
      Reading.asks_of_not_excludes (Operator.not_excludes_of_affix? h),
      ← Reading.finds_of_affix? h, and_iff_right_iff_imp]
    exact Reading.Finds.ne_null
  | oneOf items h hv => exact absurd (hv.symm.trans hw) (by simp)
  | contains s h hk hv =>
    obtain rfl : s = part := by simpa [hv] using hw
    have hne : c.operator ≠ .notEqual := fun heq => absurd h (by rw [heq]; decide)
    rw [Reading.Asks, Operator.excludes_of_isMembership h, Reading.finds_of_isMembership h]
    split
    · rw [holds_guardedIf, Formula.holds, Bool.not_eq_true', ← Bool.not_eq_true,
        holds_textTest_sides]
      exact and_congr_left fun _ => ⟨fun hnull _ => hnull, fun hnull => hnull hne⟩
    · exact holds_textTest_sides o .contains m s row
  | order k h => exact absurd h (by rw [Operator.comparison?_of_comparesTexts hop]; simp)
  | range h | empty h | notEmpty h | blank h | notBlank h =>
    exact absurd hop (by rw [h]; decide)

/-- For a text member normalization widens a criterion that compares texts, and at the ends of a
text not without its condition. -/
theorem exists_normalizedFormula {f : Formula}
    (hf : scalarFormula? ⟨false⟩ m .text nullable c = some f)
    (hop : c.operator.comparesTexts = true) :
    ∃ g, scalarFormula? ⟨true⟩ m .text nullable c = some g ∧ ∀ (ρ : Type) [Record ρ] (row : ρ),
      ((∀ part, c.value.asText? = some part → (m.read row).KeepsSigmas c.operator part) →
        c.operator.Widens (f.holds row = true) (g.holds row = true)) ∧
      (c.operator = .startsWith ∨ c.operator = .endsWith → g.holds row = true →
        ∀ part, c.value.asText? = some part → (m.read row).KeepsSigmas c.operator part) := by
  cases hpart : c.value.asText? with
  | none =>
    refine ⟨f, (scalarFormula?_of_asText?_none hpart _ _ m nullable).trans hf, ?_⟩
    intro ρ _ row
    refine ⟨fun _ => ?_, fun _ _ part h => absurd h (by simp)⟩
    unfold Operator.Widens
    split <;> exact id
  | some part =>
    have hsome : (scalarFormula? ⟨true⟩ m .text nullable c).isSome = true :=
      isSome_textFormula hpart hop (accepts_of_scalarFormula? hf) ⟨true⟩
    obtain ⟨g, hg⟩ := Option.isSome_iff_exists.mp hsome
    refine ⟨g, hg, fun ρ _ row => ⟨fun hkeeps => ?_, fun hend hholds part' h => ?_⟩⟩
    · rw [holds_textFormula_iff hf hpart hop, holds_textFormula_iff hg hpart hop]
      exact Reading.widens_asks nullable (hkeeps part rfl)
    · obtain rfl : part = part' := Option.some.inj h
      have hexcludes : ¬ c.operator.excludes = true := by
        rcases hend with h | h <;> rw [h] <;> decide
      rw [holds_textFormula_iff hg hpart hop, Reading.asks_of_not_excludes hexcludes] at hholds
      exact Reading.keepsSigmas_of_finds hend hholds

end Criterion

/-! ## Paths -/

/-- The path leads to a member of a type, of the row or of the elements of a collection. -/
inductive Family.LeadsTo (family : Family ι) (i : ι) : PropertyPath → MemberType ι → Prop
  | plain {segments : List String} {r : ResolvedMember ι} {type : MemberType ι}
      (hr : family.resolve i segments rowParameter = .ok r) (htype : r.type = type) :
      LeadsTo family i (.plain segments) type
  | element {base inner : List String} {r s : ResolvedMember ι} {element : ι}
      {type : MemberType ι} (hr : family.resolve i base rowParameter = .ok r)
      (ht : r.type = .collection element)
      (hs : family.resolve element inner elementParameter = .ok s) (htype : s.type = type) :
      LeadsTo family i (.bracketed base inner) type

/-- What the path reads from a row: one reading, or one from each element of a collection. -/
inductive Family.ReadsAt [Record ρ] (family : Family ι) (i : ι) (row : ρ) :
    PropertyPath → Reading ρ → Prop
  | plain (segments : List String) :
      ReadsAt family i row (.plain segments) (family.valueAt i segments row)
  | element {base inner : List String} {r : ResolvedMember ι} {element : ι} {rows : List ρ}
      {nested : ρ} (hr : family.resolve i base rowParameter = .ok r)
      (ht : r.type = .collection element) (hrows : family.valueAt i base row = .records rows)
      (hmem : nested ∈ rows) :
      ReadsAt family i row (.bracketed base inner) (family.valueAt element inner nested)

/-- What widens for every element widens for the question whether there is one. -/
theorem Operator.Widens.exists_mem {op : Operator} {rows : List ρ} {P Q : ρ → Prop}
    (h : ∀ r ∈ rows, op.Widens (P r) (Q r)) :
    op.Widens (∃ r ∈ rows, P r) (∃ r ∈ rows, Q r) := by
  unfold Operator.Widens at *
  split
  · next hop =>
    simp only [hop, if_true] at h
    rintro ⟨r, hr, hq⟩
    exact ⟨r, hr, h r hr hq⟩
  · next hop =>
    simp only [hop] at h
    rintro ⟨r, hr, hp⟩
    exact ⟨r, hr, h r hr hp⟩

theorem Formula.mem_elements {f : Reading ρ} {r : ρ} (h : r ∈ elements f) :
    ∃ rows, f = .records rows ∧ r ∈ rows := by
  cases f with
  | records rows => exact ⟨rows, rfl, h⟩
  | _ => exact absurd h List.not_mem_nil

namespace Criterion

open Formula

variable {family : Family ι} {i : ι} {c : Criterion} {part : String}

/-- At a text member a criterion that compares texts has the formula for texts, -/
theorem memberFormula_eq_ok_iff_of_text {o : Options} {r : ResolvedMember ι}
    (ht : r.type = .scalar .text) (hop : c.operator.comparesTexts = true) {f : Formula} :
    memberFormula family o r c = .ok f ↔
      scalarFormula? o (.member r.path) .text r.nullable c = some f := by
  have hne : ∀ {op : Operator}, op.comparesTexts = false → c.operator ≠ op := by
    intro op h heq
    rw [← heq, hop] at h
    exact absurd h (by decide)
  rw [memberFormula_of_scalar (hne rfl) (hne rfl) ht (by decide) (by decide),
    orUnsupported_eq_ok_iff]

/-- and compiles to it. -/
theorem compileAt_eq_ok_iff_of_text {o : Options} {segments : List String} {parameter : String}
    {r : ResolvedMember ι} (hr : family.resolve i segments parameter = .ok r)
    (ht : r.type = .scalar .text) (hop : c.operator.comparesTexts = true) {f : Formula} :
    c.compileAt family o i segments parameter = .ok f ↔
      scalarFormula? o (.member r.path) .text r.nullable c = some f := by
  rw [compileAt_eq_ok_iff]
  constructor
  · rintro ⟨r', hr', hf⟩
    obtain rfl : r = r' := by simpa [hr] using hr'
    exact (memberFormula_eq_ok_iff_of_text ht hop).mp hf
  · intro hf
    exact ⟨r, hr, (memberFormula_eq_ok_iff_of_text ht hop).mpr hf⟩

/-- **Normalization widens the comparisons of texts.**

    For a criterion that compares texts, and a path with or without brackets to a text member: if
    it compiles without normalization, it compiles with it. A row that is accepted without it is
    then accepted with it, or the other way around for an operator that excludes its operand,
    provided that the operand keeps its capital sigmas in the texts that the path reads. It always
    does if there are none, and if it has to be the whole text. At the ends of a text at a path
    without brackets, a row that is accepted both ways keeps them, so that the condition cannot be
    left out. -/
theorem normalization_widens {path : PropertyPath}
    (hpath : PropertyPath.parse c.property = .ok path)
    (hleads : family.LeadsTo i path (.scalar .text)) (hop : c.operator.comparesTexts = true)
    {p : Predicate} (hp : Predicate.compile family ⟨false⟩ i ⟨[c]⟩ = .ok p) :
    ∃ q, Predicate.compile family ⟨true⟩ i ⟨[c]⟩ = .ok q ∧
      (∀ (ρ : Type) [Record ρ] (row : ρ),
        (∀ part f, c.value.asText? = some part → family.ReadsAt i row path f →
          f.KeepsSigmas c.operator part) →
        c.operator.Widens (p.accepts row = true) (q.accepts row = true)) ∧
      (∀ part, c.value.asText? = some part →
        c.operator = .equal ∨ c.operator = .notEqual ∨ capitalSigma ∉ part.toList →
        ∀ (ρ : Type) (f : Reading ρ), f.KeepsSigmas c.operator part) ∧
      ∀ segments, path = .plain segments → c.operator = .startsWith ∨ c.operator = .endsWith →
        ∀ (ρ : Type) [Record ρ] (row : ρ), q.accepts row = true →
          ∀ part, c.value.asText? = some part →
            (family.valueAt i segments row).KeepsSigmas c.operator part := by
  have hkeeps : ∀ part, c.value.asText? = some part →
      c.operator = .equal ∨ c.operator = .notEqual ∨ capitalSigma ∉ part.toList →
      ∀ (ρ : Type) (f : Reading ρ), f.KeepsSigmas c.operator part :=
    fun part _ h ρ f => Reading.keepsSigmas_of h
  rw [Predicate.compile_singleton_eq_ok_iff] at hp
  cases hleads with
  | @plain segments r _ hr ht =>
    rw [compile_of_plain hpath, compileAt_eq_ok_iff_of_text hr ht hop] at hp
    obtain ⟨g, hg, hwidens⟩ := exists_normalizedFormula hp hop
    have hread : ∀ (ρ : Type) [Record ρ] (row : ρ),
        (Term.member r.path).read row = family.valueAt i segments row :=
      fun ρ _ row => (Family.resolve_eq_ok_iff.mp hr).read_eq_valueAt row
    refine ⟨⟨g⟩, ?_, fun ρ _ row hrow => ?_, hkeeps, ?_⟩
    · rw [Predicate.compile_singleton_eq_ok_iff, compile_of_plain hpath,
        compileAt_eq_ok_iff_of_text hr ht hop, hg]
    · refine (hwidens ρ row).1 fun part hpart => ?_
      rw [hread]
      exact hrow part _ hpart (.plain segments)
    · rintro _ ⟨⟩ hend ρ _ row hq part hpart
      rw [← hread]
      exact (hwidens ρ row).2 hend hq part hpart
  | @element base inner r s element _ hr ht hs htype =>
    rw [compile_of_bracketed_collection hpath hr ht] at hp
    obtain ⟨f, hf, hany⟩ : ∃ f, c.compileAt family ⟨false⟩ element inner elementParameter = .ok f ∧
        Formula.any r.path f = p.formula := by
      cases h : c.compileAt family ⟨false⟩ element inner elementParameter with
      | error e => simp [h, Except.map] at hp
      | ok f => exact ⟨f, rfl, by simpa [h, Except.map] using hp⟩
    obtain ⟨g, hg, hwidens⟩ :=
      exists_normalizedFormula ((compileAt_eq_ok_iff_of_text hs htype hop).mp hf) hop
    refine ⟨⟨.any r.path g⟩, ?_, fun ρ _ row hrow => ?_, hkeeps, fun _ h => nomatch h⟩
    · rw [Predicate.compile_singleton_eq_ok_iff, compile_of_bracketed_collection hpath hr ht,
        (compileAt_eq_ok_iff_of_text hs htype hop).mpr hg]
      rfl
    · rw [Predicate.accepts, Predicate.accepts, ← hany, Formula.holds, Formula.holds,
        List.any_eq_true, List.any_eq_true]
      refine Operator.Widens.exists_mem fun nested hmem => ?_
      obtain ⟨rows, hrows, hmem⟩ := mem_elements hmem
      rw [(Family.resolve_eq_ok_iff.mp hr).read_eq_valueAt row] at hrows
      refine (hwidens ρ nested).1 fun part hpart => ?_
      show (s.path.read nested).KeepsSigmas c.operator part
      rw [(Family.resolve_eq_ok_iff.mp hs).read_eq_valueAt nested]
      exact hrow part _ hpart (.element hr ht hrows hmem)

end Criterion

namespace Sample

/-- A person of whom no more than the name is known. -/
def named (name : String) : Row :=
  .mk [("Name", .scalar (.text name)), ("Address", .null), ("Orders", .null)]

theorem conforms_named (name : String) : shop.Conforms .person (named name) := by
  rw [Family.conforms_iff]
  intro m hm
  simp only [shop, List.mem_cons, List.not_mem_nil, or_false] at hm
  rcases hm with rfl | rfl | rfl
  · exact Or.inr rfl
  · exact Or.inl ⟨rfl, rfl⟩
  · exact Or.inl ⟨rfl, rfl⟩

/-- The names that start with an alpha and a sigma. -/
def startsWithAlphaSigma : Criterion :=
  ⟨"Name", .startsWith, .and, .scalar (.text "ΑΣ"), .null,
    (ValueType.scalar (.text .borrowed)).operandType⟩

/-- Before a blank the sigma ends a word, as it does in the operand by itself. -/
theorem normalization_widens_sigma :
    ∃ p q, Predicate.compile shop ⟨false⟩ .person ⟨[startsWithAlphaSigma]⟩ = .ok p ∧
      Predicate.compile shop ⟨true⟩ .person ⟨[startsWithAlphaSigma]⟩ = .ok q ∧
      p.accepts (named "ΑΣ Α") = true ∧ q.accepts (named "ΑΣ Α") = true := by
  obtain ⟨p, hp, haccepts⟩ : ∃ p,
      Predicate.compile shop ⟨false⟩ .person ⟨[startsWithAlphaSigma]⟩ = .ok p ∧
        p.accepts (named "ΑΣ Α") = true := ⟨_, rfl, by decide +kernel⟩
  have hpath : PropertyPath.parse startsWithAlphaSigma.property = .ok (.plain ["Name"]) := rfl
  obtain ⟨q, hq, hwidens, -, -⟩ :=
    Criterion.normalization_widens hpath (.plain rfl rfl) rfl hp
  refine ⟨p, q, hp, hq, haccepts, hwidens Row (named "ΑΣ Α") ?_ haccepts⟩
  rintro part f hpart ⟨⟩ s hs -
  obtain rfl : "ΑΣ" = part := Option.some.inj hpart
  obtain rfl : "ΑΣ Α" = s := Scalar.text.inj (Reading.scalar.inj hs)
  refine ⟨[], [' ', 'Α'], rfl, rfl, (lowerBetween_eq_lowerChars_iff _ _ _).mp ?_⟩
  decide +kernel

/-- Inside a word it does not: the name that is accepted as it is written is not accepted in its
normalized form. -/
theorem normalization_narrows_sigma :
    ∃ c p q, Criterion.new (.scalar (.text .borrowed)) "Name" .startsWith "ΑΣ" none .and = .ok c ∧
      Predicate.compile shop ⟨false⟩ .person ⟨[c]⟩ = .ok p ∧
      Predicate.compile shop ⟨true⟩ .person ⟨[c]⟩ = .ok q ∧
      shop.Conforms .person (named "ΑΣΑ") ∧
      p.accepts (named "ΑΣΑ") = true ∧ q.accepts (named "ΑΣΑ") = false :=
  ⟨_, _, _, rfl, rfl, rfl, conforms_named _, by decide +kernel, by decide +kernel⟩

end Sample

end Winnow
