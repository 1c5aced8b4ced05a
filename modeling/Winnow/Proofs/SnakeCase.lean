/-
  The constants of fields in snake case.

  A rule takes the underscores out of a name and marks the words by capitals. The constant of the
  member puts an underscore back before a capital, but only if what stands before it is in lower
  case or a digit: one bit of memory, and where a word is a single letter it is not enough. For
  names whose words are each of two characters or more, a letter first (`IsSnakeCase`), it is, and
  the constant is the name of the field in capitals, with a rule or without
  (`constantName_memberName`).

  The induction is over the words. `joinWords_words` says what a rule makes of a word and what
  stands after it, `capitalize_words` what capitals make of that, and each carries the bit from one
  word to the next: at the end of a word it is set.
-/
import Mathlib.Data.List.Nodup
import Winnow.Proofs.DerivedRecord
import Winnow.Proofs.ConstantNames

namespace Winnow

namespace Naming

/-! ## Names in snake case -/

/-- A letter in lower case, or a digit, in ASCII. -/
def isWordPart (c : Char) : Bool := c.isLower || c.isDigit

/-- A letter in lower case, and after it one or more such letters or digits. -/
def IsWord : List Char → Prop
  | c :: d :: rest => c.isLower = true ∧ (d :: rest).all isWordPart = true
  | _ => False

instance : DecidablePred IsWord
  | c :: d :: rest =>
    inferInstanceAs (Decidable (c.isLower = true ∧ (d :: rest).all isWordPart = true))
  | [] | [_] => isFalse id

/-- One or more words, with single underscores between them. -/
def IsSnakeCase (name : String) : Prop :=
  ∃ words, words ≠ [] ∧ (∀ w ∈ words, IsWord w) ∧ name.toList = List.intercalate ['_'] words

theorem intercalate_eq_flatMap (w : List Char) (words : List (List Char)) :
    List.intercalate ['_'] (w :: words) = w ++ words.flatMap fun v => '_' :: v := by
  induction words generalizing w with
  | nil => simp
  | cons v words ih =>
    rw [List.intercalate_cons_cons, ih, List.flatMap_cons]
    simp

theorem IsSnakeCase.exists_words {name : String} (h : IsSnakeCase name) :
    ∃ (w : List Char) (words : List (List Char)), IsWord w ∧ (∀ v ∈ words, IsWord v) ∧
      name.toList = w ++ words.flatMap fun v => '_' :: v := by
  obtain ⟨words, hne, hwords, hname⟩ := h
  cases words with
  | nil => exact absurd rfl hne
  | cons w words =>
    obtain ⟨hw, hrest⟩ := List.forall_mem_cons.mp hwords
    exact ⟨w, words, hw, hrest, by rw [hname, intercalate_eq_flatMap]⟩

/-! ## Characters of words -/

theorem isWordChar_of_isWordPart {c : Char} (hc : isWordPart c = true) : isWordChar c = true := by
  have hcodes : (decide (97 ≤ c.val) && decide (c.val ≤ 122) ||
      decide (48 ≤ c.val) && decide (c.val ≤ 57)) = true := hc
  have hranges : 97 ≤ c.toNat ∧ c.toNat ≤ 122 ∨ 48 ≤ c.toNat ∧ c.toNat ≤ 57 := by
    simpa [UInt32.le_iff_toNat_le] using hcodes
  simp only [isWordChar, wordRanges, CodeRanges.contains, List.any_cons, List.any_nil,
    Bool.or_eq_true, Bool.and_eq_true, decide_eq_true_eq]
  omega

/-- What the functions on names ask of a character of a word. -/
theorem of_isWordPart {c : Char} (hc : isWordPart c = true) :
    LetterCase.isUppercase c = false ∧ ¬ (c = '_' ∨ c = '-' ∨ c = '.') ∧
      isAlphanumeric c = true ∧ c.toUpper.toLower = c := by
  have hall := of_isWordChar (p := fun c => !isWordPart c ||
    (!LetterCase.isUppercase c && !decide (c = '_' ∨ c = '-' ∨ c = '.') && isAlphanumeric c &&
      c.toUpper.toLower == c)) (by decide +kernel) (isWordChar_of_isWordPart hc)
  simpa [hc, and_assoc] using hall

theorem isUppercase_toUpper {c : Char} (hc : c.isLower = true) :
    LetterCase.isUppercase c.toUpper = true := by
  have hword : isWordChar c = true := isWordChar_of_isWordPart (by simp [isWordPart, hc])
  have hall := of_isWordChar (p := fun c => !c.isLower || LetterCase.isUppercase c.toUpper)
    (by decide +kernel) hword
  simpa [hc] using hall

theorem IsWord.isWordPart_of_mem {w : List Char} (hw : IsWord w) :
    ∀ c ∈ w, isWordPart c = true := by
  match w, hw with
  | c :: d :: rest, ⟨hc, hrest⟩ =>
    exact List.forall_mem_cons.mpr ⟨by simp [isWordPart, hc], List.all_eq_true.mp hrest⟩

/-- A name in snake case is made of the characters of words and underscores. -/
theorem IsSnakeCase.of_mem {name : String} (h : IsSnakeCase name) {c : Char}
    (hc : c ∈ name.toList) : isWordPart c = true ∨ c = '_' := by
  obtain ⟨w, words, hw, hwords, hname⟩ := h.exists_words
  rw [hname, List.mem_append, List.mem_flatMap] at hc
  rcases hc with hc | ⟨v, hv, hc⟩
  · exact Or.inl (hw.isWordPart_of_mem c hc)
  · rcases List.mem_cons.mp hc with rfl | hc
    · exact Or.inr rfl
    · exact Or.inl ((hwords v hv).isWordPart_of_mem c hc)

/-- A name in snake case has no mark of a raw identifier. -/
theorem IsSnakeCase.withoutRawMark_eq {name : String} (h : IsSnakeCase name) :
    withoutRawMark name.toList = name.toList := by
  have hmark : '#' ∉ name.toList := fun hmem => absurd (h.of_mem hmem) (by decide)
  unfold withoutRawMark
  split
  · next rest hcs => exact absurd (by rw [hcs]; simp) hmark
  · rfl

/-! ## Capitals without a rule -/

/-- In capitals a part of a word stays one character, and the bit is set after it. -/
theorem capitalize_cons_part {c : Char} (hc : isWordPart c = true) (afterLower : Bool)
    (cs : List Char) : capitalize afterLower (c :: cs) = c.toUpper :: capitalize true cs := by
  obtain ⟨hupper, hseparator, halphanumeric, -⟩ := of_isWordPart hc
  rw [capitalize, if_neg (by simp [hupper]), if_neg hseparator, halphanumeric]

theorem capitalize_eq_map {cs : List Char} (h : ∀ c ∈ cs, isWordPart c = true ∨ c = '_')
    (afterLower : Bool) : capitalize afterLower cs = cs.map Char.toUpper := by
  induction cs generalizing afterLower with
  | nil => rfl
  | cons c cs ih =>
    obtain ⟨hc, hcs⟩ := List.forall_mem_cons.mp h
    rcases hc with hc | rfl
    · rw [capitalize_cons_part hc, ih hcs, List.map_cons]
    · exact congrArg (List.cons '_') (ih hcs false)

/-! ## Words by a rule -/

/-- The word with its first letter in upper case. -/
def capitalized : List Char → List Char
  | [] => []
  | c :: cs => c.toUpper :: cs

theorem joinWords_cons_part (rule : RenameRule) {c : Char} (hc : isWordPart c = true)
    (capital started : Bool) (cs : List Char) :
    joinWords rule capital started (c :: cs) =
      (if capital then c.toUpper else c) :: joinWords rule false true cs := by
  have hunderscore : c ≠ '_' := fun h => (of_isWordPart hc).2.1 (Or.inl h)
  rw [joinWords, if_neg hunderscore]

/-- After the first letter of a word a rule changes nothing in it. -/
theorem joinWords_rest (rule : RenameRule) {cs : List Char} (h : ∀ c ∈ cs, isWordPart c = true)
    (after : List Char) :
    joinWords rule false true (cs ++ after) = cs ++ joinWords rule false true after := by
  induction cs with
  | nil => rfl
  | cons c cs ih =>
    obtain ⟨hc, hcs⟩ := List.forall_mem_cons.mp h
    rw [List.cons_append, joinWords_cons_part rule hc, ih hcs]
    rfl

theorem joinWords_word (rule : RenameRule) {w : List Char} (hw : IsWord w)
    (capital started : Bool) (after : List Char) :
    joinWords rule capital started (w ++ after) =
      (if capital then capitalized w else w) ++ joinWords rule false true after := by
  have hparts := hw.isWordPart_of_mem
  cases w with
  | nil => exact hw.elim
  | cons c rest =>
    obtain ⟨hc, hrest⟩ := List.forall_mem_cons.mp hparts
    rw [List.cons_append, joinWords_cons_part rule hc, joinWords_rest rule hrest]
    cases capital <;> rfl

/-- Each word after the first loses its underscore and gets a capital. -/
theorem joinWords_words (rule : RenameRule) {words : List (List Char)}
    (h : ∀ w ∈ words, IsWord w) :
    joinWords rule false true (words.flatMap fun v => '_' :: v) = words.flatMap capitalized := by
  induction words with
  | nil => rfl
  | cons w words ih =>
    obtain ⟨hw, hwords⟩ := List.forall_mem_cons.mp h
    rw [List.flatMap_cons, List.cons_append, joinWords, if_pos rfl, joinWords_word rule hw,
      ih hwords, List.flatMap_cons]
    rfl

/-! ## Capitals of words -/

theorem capitalize_rest {cs : List Char} (h : ∀ c ∈ cs, isWordPart c = true)
    (after : List Char) :
    capitalize true (cs ++ after) = cs.map Char.toUpper ++ capitalize true after := by
  induction cs with
  | nil => rfl
  | cons c cs ih =>
    obtain ⟨hc, hcs⟩ := List.forall_mem_cons.mp h
    rw [List.cons_append, capitalize_cons_part hc, ih hcs]
    rfl

theorem capitalize_word {w : List Char} (hw : IsWord w) (afterLower : Bool) (after : List Char) :
    capitalize afterLower (w ++ after) = w.map Char.toUpper ++ capitalize true after := by
  have hparts := hw.isWordPart_of_mem
  cases w with
  | nil => exact hw.elim
  | cons c rest =>
    obtain ⟨hc, hrest⟩ := List.forall_mem_cons.mp hparts
    rw [List.cons_append, capitalize_cons_part hc, capitalize_rest hrest]
    rfl

/-- The capital at the start of a word brings the underscore back. It takes the bit away, and the
character after it, which a word has, sets it again for the next word. -/
theorem capitalize_capitalized {w : List Char} (hw : IsWord w) (afterLower : Bool)
    (after : List Char) :
    capitalize afterLower (capitalized w ++ after) =
      (if afterLower then ['_'] else []) ++ w.map Char.toUpper ++ capitalize true after := by
  match w, hw with
  | c :: d :: rest, ⟨hc, hall⟩ =>
    obtain ⟨hd, hrest⟩ := List.forall_mem_cons.mp (List.all_eq_true.mp hall)
    show capitalize afterLower (c.toUpper :: d :: (rest ++ after)) = _
    rw [capitalize, if_pos (isUppercase_toUpper hc), capitalize_cons_part hd,
      capitalize_rest hrest]
    cases afterLower <;> rfl

theorem capitalize_words {words : List (List Char)} (h : ∀ w ∈ words, IsWord w) :
    capitalize true (words.flatMap capitalized) =
      (words.flatMap fun v => '_' :: v).map Char.toUpper := by
  induction words with
  | nil => rfl
  | cons w words ih =>
    obtain ⟨hw, hwords⟩ := List.forall_mem_cons.mp h
    rw [List.flatMap_cons, capitalize_capitalized hw, ih hwords, List.flatMap_cons,
      List.map_append]
    rfl

/-! ## Constants -/

/-- What a rule makes of a name in snake case, in capitals, is the name in capitals. -/
theorem capitalize_joinWords (rule : RenameRule) {name : String} (h : IsSnakeCase name)
    (capital : Bool) :
    capitalize false (joinWords rule capital false name.toList) =
      name.toList.map Char.toUpper := by
  obtain ⟨w, words, hw, hwords, hname⟩ := h.exists_words
  rw [hname, joinWords_word rule hw, joinWords_words rule hwords, List.map_append]
  cases capital with
  | false => exact (capitalize_word hw false _).trans (congrArg _ (capitalize_words hwords))
  | true => exact (capitalize_capitalized hw false _).trans (congrArg _ (capitalize_words hwords))

theorem constantName_memberName {name : String} (h : IsSnakeCase name)
    (rule : Option RenameRule) : constantName (memberName none rule name) = name.toUpper := by
  have hcapitals : capitalize false (memberName none rule name).toList =
      name.toList.map Char.toUpper := by
    cases rule with
    | none =>
      rw [memberName, String.toList_ofList, h.withoutRawMark_eq]
      exact capitalize_eq_map (fun c hc => h.of_mem hc) false
    | some rule =>
      rw [memberName, applyRule, String.toList_ofList, h.withoutRawMark_eq]
      exact capitalize_joinWords rule h _
  rw [constantName, hcapitals, ← String.toList_inj, String.toList_ofList, String.toUpper,
    String.toList_map]

/-- A name in snake case can be read off its capitals. -/
theorem IsSnakeCase.toUpper_inj {name name' : String} (h : IsSnakeCase name)
    (h' : IsSnakeCase name') (heq : name.toUpper = name'.toUpper) : name = name' := by
  have hback : ∀ {s : String}, IsSnakeCase s →
      (s.toList.map Char.toUpper).map Char.toLower = s.toList := by
    intro s hs
    rw [List.map_map]
    refine (List.map_congr_left fun c hc => ?_).trans (List.map_id _)
    rcases hs.of_mem hc with hc | rfl
    · exact (of_isWordPart hc).2.2.2
    · rfl
  have hlists : name.toList.map Char.toUpper = name'.toList.map Char.toUpper := by
    rw [← String.toList_map, ← String.toList_map]
    exact congrArg String.toList heq
  rw [← String.toList_inj, ← hback h, hlists, hback h']

/-- **Constants do not depend on the rule.**

    For every rule for names, or none, and all names of fields in snake case, that is of one or more
    words joined by single underscores, each a letter in lower case and at least one such letter or
    digit after it: the constant of the member is the name of the field in capitals. So two fields
    with different names of this form have different constants, and different names of members. -/
theorem constantName_of_snakeCase (rule : Option RenameRule) :
    (∀ name, IsSnakeCase name → constantName (memberName none rule name) = name.toUpper) ∧
    ∀ name name', IsSnakeCase name → IsSnakeCase name' → name ≠ name' →
      constantName (memberName none rule name) ≠ constantName (memberName none rule name') ∧
        memberName none rule name ≠ memberName none rule name' := by
  refine ⟨fun name h => constantName_memberName h rule, fun name name' h h' hne => ?_⟩
  have hconstants : constantName (memberName none rule name) ≠
      constantName (memberName none rule name') := by
    rw [constantName_memberName h, constantName_memberName h']
    exact fun heq => hne (h.toUpper_inj h' heq)
  exact ⟨hconstants, fun heq => hconstants (congrArg constantName heq)⟩

-- A single letter is no word: the capital after it follows a capital and gets no underscore.
example : constantName (memberName none (some .camel) "map_x_y") = "MAP_XY" := by decide

end Naming

namespace Sample

theorem constantName_of_snakeCase_dates :
    Naming.constantName (Naming.memberName none (some .camel) "created_at") = "CREATED_AT" ∧
      Naming.memberName none (some .camel) "created_at" ≠
        Naming.memberName none (some .camel) "created_at2" := by
  have hat : Naming.IsSnakeCase "created_at" :=
    ⟨["created".toList, "at".toList], by decide, by decide, by decide⟩
  have hat2 : Naming.IsSnakeCase "created_at2" :=
    ⟨["created".toList, "at2".toList], by decide, by decide, by decide⟩
  obtain ⟨hconstant, hdistinct⟩ := Naming.constantName_of_snakeCase (some .camel)
  have hcapitals : "created_at".toUpper = "CREATED_AT" := by
    rw [← String.toList_inj, String.toUpper, String.toList_map]
    rfl
  exact ⟨(hconstant "created_at" hat).trans hcapitals,
    (hdistinct "created_at" "created_at2" hat hat2 (by decide)).2⟩

end Sample

/-! ## Generated constants -/

/-- The constants of an item with fields in snake case, which have no other names given to them, are
the names of the fields that are not skipped in capitals. So no two are the same if no two fields
are, whatever the rule. -/
theorem ModelCode.constants_of_snakeCase {item : Item} {fields : List ItemField} {code : ModelCode}
    (hbody : item.body = .record fields) (h : generate item = .ok code)
    (hnames : ∀ f ∈ fields.filter (!·.marks.skip),
      Naming.IsSnakeCase f.name ∧ f.marks.rename = none) :
    ∃ rule, RenameRule.ofAttributes item.attributes = .ok rule ∧
      code.constants = ((fields.filter (!·.marks.skip)).map fun f =>
        (f.name.toUpper, Naming.memberName none rule f.name)) ∧
      ((fields.map ItemField.name).Nodup → (code.constants.map Prod.fst).Nodup) := by
  obtain ⟨rule, ds, hrule, hds, rfl⟩ := exists_derived hbody h
  have hconstants : ((fields.filter (!·.marks.skip)).map fun f =>
      (f.name.toUpper, Naming.memberName none rule f.name)) =
        ds.map fun d => (d.constant, d.name) := by
    refine map_eq_of_forall₂ (((List.forall₂_and_left _ _).mpr ⟨hnames, hds⟩).imp ?_)
    rintro f d ⟨⟨hsnake, hrename⟩, hd⟩
    have hname : d.name = Naming.memberName none rule f.name := hrename ▸ hd.name
    rw [hd.constant, hname, Naming.constantName_memberName hsnake]
  refine ⟨rule, hrule, hconstants.symm, fun hnodup => ?_⟩
  have hkept : ((fields.filter (!·.marks.skip)).map ItemField.name).Nodup :=
    hnodup.sublist (List.filter_sublist.map _)
  rw [show (extend ⟨item.name, [], [], []⟩ ds).constants = _ from hconstants.symm, List.map_map]
  refine List.Nodup.map_on ?_ (List.Nodup.of_map _ hkept)
  intro f hf g hg heq
  have hname : f.name = g.name := (hnames f hf).1.toUpper_inj (hnames g hg).1 heq
  exact List.inj_on_of_nodup_map hkept hf hg hname

end Winnow
