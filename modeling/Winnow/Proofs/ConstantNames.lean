/-
  The names that are formed for constants.

  The constant of a member is the name of the member in capitals, and code is refused if that is no
  identifier. Capitals do no harm, for the constant of a name is an identifier if the name is one
  (`isIdentifier_capitalize`). A rule for names may: it leaves out underscores, those at the start
  too, so that the name which is left begins with a digit, or is empty (`isIdentifier_joinWords`).

  `constant_refused_iff`, the main statement, says that this is the only way: where fields have no
  other names given to them, a constant is refused exactly for the first field that is not skipped
  and has no letter after its first underscores, if there is a rule.
-/
import Winnow.Proofs.GeneratedCode

namespace Winnow

namespace Naming

/-! ## Characters of names -/

/-- The digits, the letters and the underscore of ASCII. They are few, so that what holds of all of
them can be decided. -/
def wordRanges : CodeRanges := [(48, 57), (65, 90), (95, 95), (97, 122)]

/-- The character may stand in a name in ASCII. -/
def isWordChar (c : Char) : Bool := wordRanges.contains c.toNat

theorem of_isWordChar {p : Char → Bool} (h : (wordRanges.codes.map Char.ofNat).all p = true)
    {c : Char} (hc : isWordChar c = true) : p c = true :=
  List.all_eq_true.mp h c
    (List.mem_map.mpr ⟨c.toNat, CodeRanges.mem_codes hc, Char.ofNat_toNat c⟩)

theorem isWordChar_toUpper {c : Char} (hc : isWordChar c = true) :
    isWordChar c.toUpper = true :=
  of_isWordChar (p := fun c => isWordChar c.toUpper) (by decide +kernel) hc

theorem isDigit_toUpper {c : Char} (hc : isWordChar c = true) : c.toUpper.isDigit = c.isDigit :=
  beq_iff_eq.mp (of_isWordChar (p := fun c => c.toUpper.isDigit == c.isDigit)
    (by decide +kernel) hc)

/-- The characters of a name in ASCII make an identifier unless the first of them is a digit. -/
theorem isIdentifier_cons {c : Char} {cs : List Char}
    (h : ∀ d ∈ c :: cs, isWordChar d = true) : isIdentifier (c :: cs) = !c.isDigit := by
  obtain ⟨hc, hcs⟩ := List.forall_mem_cons.mp h
  have hstart : isIdentifierStart c = !c.isDigit :=
    beq_iff_eq.mp (of_isWordChar (p := fun c => isIdentifierStart c == !c.isDigit)
      (by decide +kernel) hc)
  have hparts : cs.all isIdentifierPart = true :=
    List.all_eq_true.mpr fun d hd => of_isWordChar (by decide +kernel) (hcs d hd)
  rw [isIdentifier, hstart, hparts, Bool.and_true]

/-! ## Names in capitals -/

theorem isWordChar_of_mem_capitalize {cs : List Char} (h : ∀ c ∈ cs, isWordChar c = true)
    (afterLower : Bool) : ∀ d ∈ capitalize afterLower cs, isWordChar d = true := by
  induction cs generalizing afterLower with
  | nil => exact fun d hd => absurd hd List.not_mem_nil
  | cons c cs ih =>
    obtain ⟨hc, hcs⟩ := List.forall_mem_cons.mp h
    have hunderscore : isWordChar '_' = true := by decide
    unfold capitalize
    split
    · cases afterLower <;> simp_all
    · split
      · exact List.forall_mem_cons.mpr ⟨hunderscore, ih hcs false⟩
      · exact List.forall_mem_cons.mpr ⟨isWordChar_toUpper hc, ih hcs _⟩

/-- A name in capitals begins with a digit exactly if the name does. -/
theorem exists_capitalize_cons {c : Char} (hc : isWordChar c = true) (cs : List Char) :
    ∃ d ds, capitalize false (c :: cs) = d :: ds ∧ d.isDigit = c.isDigit := by
  unfold capitalize
  split
  · exact ⟨c, capitalize false cs, rfl, rfl⟩
  · split
    · next hseparator =>
      refine ⟨'_', capitalize false cs, rfl, ?_⟩
      rcases hseparator with rfl | rfl | rfl <;> rfl
    · exact ⟨c.toUpper, capitalize (isAlphanumeric c) cs, rfl, isDigit_toUpper hc⟩

/-- A name in capitals is an identifier exactly if the name is. -/
theorem isIdentifier_capitalize {cs : List Char} (h : ∀ c ∈ cs, isWordChar c = true) :
    isIdentifier (capitalize false cs) = isIdentifier cs := by
  cases cs with
  | nil => rfl
  | cons c cs =>
    have hword := isWordChar_of_mem_capitalize h false
    obtain ⟨d, ds, hcapitalize, hdigit⟩ := exists_capitalize_cons (h c List.mem_cons_self) cs
    rw [hcapitalize] at hword ⊢
    rw [isIdentifier_cons hword, isIdentifier_cons h, hdigit]

/-! ## Names by a rule -/

theorem isWordChar_of_mem_joinWords (rule : RenameRule) {cs : List Char}
    (h : ∀ c ∈ cs, isWordChar c = true) (capital started : Bool) :
    ∀ d ∈ joinWords rule capital started cs, isWordChar d = true := by
  induction cs generalizing capital started with
  | nil => exact fun d hd => absurd hd List.not_mem_nil
  | cons c cs ih =>
    obtain ⟨hc, hcs⟩ := List.forall_mem_cons.mp h
    unfold joinWords
    split
    · exact ih hcs _ _
    · refine List.forall_mem_cons.mpr ⟨?_, ih hcs _ _⟩
      cases capital with
      | true => exact isWordChar_toUpper hc
      | false => exact hc

/-- The first character that is not an underscore is a letter. -/
def letterFirst (cs : List Char) : Bool := (cs.dropWhile (· = '_')).head?.any Char.isAlpha

/-- What a rule makes of a name is an identifier exactly if the first character that is left is a
letter. -/
theorem isIdentifier_joinWords (rule : RenameRule) {cs : List Char}
    (h : ∀ c ∈ cs, isWordChar c = true) (capital started : Bool) :
    isIdentifier (joinWords rule capital started cs) = letterFirst cs := by
  induction cs generalizing capital started with
  | nil => rfl
  | cons c cs ih =>
    obtain ⟨hc, hcs⟩ := List.forall_mem_cons.mp h
    have hjoined := isWordChar_of_mem_joinWords rule h capital started
    by_cases hunderscore : c = '_'
    · subst hunderscore
      exact ih hcs _ _
    · have hletter : (!c.isDigit) = c.isAlpha := by
        have hcases : c = '_' ∨ (!c.isDigit) = c.isAlpha := by
          simpa using of_isWordChar (p := fun c => c == '_' || (!c.isDigit) == c.isAlpha)
            (by decide +kernel) hc
        exact hcases.resolve_left hunderscore
      have hfirst : (if capital then c.toUpper else c).isDigit = c.isDigit := by
        cases capital with
        | true => exact isDigit_toUpper hc
        | false => rfl
      rw [joinWords, if_neg hunderscore] at hjoined ⊢
      rw [isIdentifier_cons hjoined, hfirst, hletter, letterFirst,
        List.dropWhile_cons_of_neg (by simpa using hunderscore)]
      rfl

/-! ## Names of fields -/

/-- The name of a field in ASCII: an identifier, after the mark of a raw one. -/
def isFieldName (name : String) : Bool :=
  isIdentifier (withoutRawMark name.toList) && (withoutRawMark name.toList).all isWordChar

/-- The constant of a member that is named after its field is an identifier unless there is a rule
and no letter comes first. -/
theorem isIdentifier_constantName {field : String} (h : isFieldName field = true)
    (rule : Option RenameRule) :
    isIdentifier (constantName (memberName none rule field)).toList =
      (rule.isNone || letterFirst (withoutRawMark field.toList)) := by
  obtain ⟨hidentifier, hall⟩ := Bool.and_eq_true_iff.mp h
  have hword := List.all_eq_true.mp hall
  rw [constantName, String.toList_ofList]
  cases rule with
  | none => rw [memberName, String.toList_ofList, isIdentifier_capitalize hword, hidentifier]; rfl
  | some rule =>
    rw [memberName, applyRule, String.toList_ofList,
      isIdentifier_capitalize (isWordChar_of_mem_joinWords rule hword _ _),
      isIdentifier_joinWords rule hword]
    rfl

end Naming

/-! ## Refused constants -/

/-- A traversal fails at the first element that fails. -/
theorem mapM_eq_error_iff {ε α β : Type} {f : α → Except ε β} {as : List α} {e : ε} :
    as.mapM f = .error e ↔ ∃ before a after, as = before ++ a :: after ∧
      (∀ b ∈ before, ∃ c, f b = .ok c) ∧ f a = .error e := by
  induction as with
  | nil => simp [pure, Except.pure]
  | cons a as ih =>
    have hlast : ∀ c, (as.mapM f >>= fun cs => pure (c :: cs)) = .error e ↔
        as.mapM f = .error e := fun c => by simp [bind_eq_error_iff, pure, Except.pure]
    simp only [List.mapM_cons, bind_eq_error_iff (x := f a), hlast, ih]
    constructor
    · rintro (hfault | ⟨c, hc, before, a', after, rfl, hok, hfault⟩)
      · exact ⟨[], a, as, rfl, List.forall_mem_nil _, hfault⟩
      · exact ⟨a :: before, a', after, rfl, List.forall_mem_cons.mpr ⟨⟨c, hc⟩, hok⟩, hfault⟩
    · rintro ⟨before, a', after, hsplit, hok, hfault⟩
      cases before with
      | nil =>
        obtain ⟨rfl, -⟩ := List.cons.inj hsplit
        exact Or.inl hfault
      | cons b before =>
        obtain ⟨rfl, rfl⟩ := List.cons.inj hsplit
        obtain ⟨⟨c, hc⟩, hok⟩ := List.forall_mem_cons.mp hok
        exact Or.inr ⟨c, hc, before, a', after, rfl, hok, hfault⟩

theorem criteriaParts_ne_constantNotAName (attributes : List Attribute) (text : String) :
    criteriaParts attributes ≠ .error (.constantNotAName text) := by
  unfold criteriaParts
  split <;> exact nofun

theorem RenameRule.ofAttributes_ne_constantNotAName (attributes : List Attribute)
    (text : String) : ofAttributes attributes ≠ .error (.constantNotAName text) := by
  intro h
  rcases bind_eq_error_iff.mp h with hparts | ⟨metas, -, hread⟩
  · exact criteriaParts_ne_constantNotAName attributes text hparts
  · obtain ⟨part, -, rule, hpart⟩ := exists_of_foldlM_eq_error hread
    unfold read at hpart
    split at hpart
    · split at hpart <;> cases hpart
    · cases hpart
    · cases hpart

theorem FieldOptions.ofAttributes_ne_constantNotAName (attributes : List Attribute)
    (text : String) : ofAttributes attributes ≠ .error (.constantNotAName text) := by
  intro h
  rcases bind_eq_error_iff.mp h with hparts | ⟨metas, -, hread⟩
  · exact criteriaParts_ne_constantNotAName attributes text hparts
  · rcases bind_eq_error_iff.mp hread with hread | ⟨o, -, hsettle⟩
    · obtain ⟨part, -, o, hpart⟩ := exists_of_foldlM_eq_error hread
      unfold read at hpart
      split at hpart <;> cases hpart
    · split at hsettle <;> cases hsettle

theorem MemberShape.ofField_ne_constantNotAName (o : FieldOptions) (t : TypeExpr)
    (text : String) : ofField o t ≠ .error (.constantNotAName text) := by
  unfold ofField
  dsimp only
  split
  · exact nofun
  · split
    · split <;> exact nofun
    · exact nofun

/-- The constant of a field is refused if the field is not skipped and the constant is no
identifier, whatever the type of the field is. -/
theorem DerivedModel.member?_eq_constantNotAName_iff {rule : Option RenameRule} {f : ItemField}
    {text : String} :
    member? rule f = .error (.constantNotAName text) ↔
      FieldOptions.ofAttributes f.attributes = .ok f.marks ∧ f.marks.skip = false ∧
      isIdentifier text.toList = false ∧
      text = Naming.constantName (Naming.memberName f.marks.rename rule f.name) := by
  have hoptions := FieldOptions.ofAttributes_ne_constantNotAName f.attributes text
  have hshape := MemberShape.ofField_ne_constantNotAName f.marks f.type text
  rw [member?, bind_eq_error_iff, or_iff_right hoptions]
  constructor
  · rintro ⟨o, ho, h⟩
    obtain rfl := FieldOptions.ofAttributes_eq_ok ho
    split at h
    · cases h
    · next hskip =>
      dsimp only at h
      split at h
      · next hnot =>
        cases h
        exact ⟨ho, by simpa using hskip, by simpa using hnot, rfl⟩
      · rcases bind_eq_error_iff.mp h with h | ⟨shape, -, h⟩
        · exact absurd h hshape
        · cases h
  · rintro ⟨ho, hskip, hnot, rfl⟩
    refine ⟨f.marks, ho, ?_⟩
    simp [hskip, hnot, throw, throwThe, MonadExceptOf.throw, bind, Except.bind]

/-- A model is refused for a constant if it is for the constant of one of the fields. -/
theorem DerivedModel.derive_eq_constantNotAName_iff {item : Item} {fields : List ItemField}
    {text : String} (hbody : item.body = .record fields) :
    derive item = .error (.constantNotAName text) ↔
      item.generics = [] ∧ ∃ rule, RenameRule.ofAttributes item.attributes = .ok rule ∧
        fields.mapM (member? rule) = .error (.constantNotAName text) := by
  have hrule := RenameRule.ofAttributes_ne_constantNotAName item.attributes text
  unfold derive
  rw [hbody]
  cases item.generics with
  | cons g generics => exact iff_of_false nofun fun h => absurd h.1 nofun
  | nil =>
    show (RenameRule.ofAttributes item.attributes >>= fun rule =>
      fields.mapM (member? rule) >>= fun ds => pure (⟨item.name, ds.filterMap id⟩ : DerivedModel)) =
        .error (.constantNotAName text) ↔ _
    rw [bind_eq_error_iff, or_iff_right hrule, eq_self_iff_true, true_and]
    refine exists_congr fun rule => and_congr_right fun _ => ?_
    simp [bind_eq_error_iff, pure, Except.pure]

namespace ModelCode

/-- **When a constant is refused.**

    For every item with named fields whose names are identifiers in ASCII, raw ones among them, and
    which have no other name given to them: code is refused for a constant that is no identifier
    exactly if the item is not generic, has a rule, and there is a field with attributes that can be
    read, not skipped, with no letter after its first underscores, and the members of all fields
    before it can be derived. Without a rule it does not happen, and it does not depend on the type
    of the field, nor on whether it is nested or a collection. -/
theorem constant_refused_iff {item : Item} {fields : List ItemField} {text : String}
    (hbody : item.body = .record fields)
    (hnames : ∀ f ∈ fields, Naming.isFieldName f.name = true)
    (hrename : ∀ f ∈ fields, f.marks.rename = none) :
    generate item = .error (.constantNotAName text) ↔
      item.generics = [] ∧ ∃ rule before f after,
        RenameRule.ofAttributes item.attributes = .ok (some rule) ∧
        fields = before ++ f :: after ∧
        (∀ g ∈ before, ∃ d, DerivedModel.member? (some rule) g = .ok d) ∧
        FieldOptions.ofAttributes f.attributes = .ok f.marks ∧ f.marks.skip = false ∧
        Naming.letterFirst (Naming.withoutRawMark f.name.toList) = false ∧
        text = Naming.constantName (Naming.applyRule rule f.name) := by
  have hgenerate : generate item = .error (.constantNotAName text) ↔
      DerivedModel.derive item = .error (.constantNotAName text) := by
    rw [generate_eq]
    cases DerivedModel.derive item <;> simp [Except.map]
  rw [hgenerate, DerivedModel.derive_eq_constantNotAName_iff hbody]
  refine and_congr_right fun _ => ⟨?_, ?_⟩
  · rintro ⟨rule, hrule, hfault⟩
    obtain ⟨before, f, after, rfl, hbefore, hmember⟩ := mapM_eq_error_iff.mp hfault
    obtain ⟨ho, hskip, hnot, htext⟩ := DerivedModel.member?_eq_constantNotAName_iff.mp hmember
    have hf : f ∈ before ++ f :: after := by simp
    rw [hrename f hf] at htext
    rw [htext, Naming.isIdentifier_constantName (hnames f hf)] at hnot
    cases rule with
    | none => cases hnot
    | some rule => exact ⟨rule, before, f, after, hrule, rfl, hbefore, ho, hskip, hnot, htext⟩
  · rintro ⟨rule, before, f, after, hrule, rfl, hbefore, ho, hskip, hletter, rfl⟩
    have hf : f ∈ before ++ f :: after := by simp
    have hnot := Naming.isIdentifier_constantName (hnames f hf) (some rule)
    rw [hletter] at hnot
    refine ⟨some rule, hrule, mapM_eq_error_iff.mpr ⟨before, f, after, rfl, hbefore, ?_⟩⟩
    rw [DerivedModel.member?_eq_constantNotAName_iff, hrename f hf]
    exact ⟨ho, hskip, hnot, rfl⟩

end ModelCode

namespace Sample

/-- A field that is skipped, so that its name does not count. -/
def unusedField : ItemField := ⟨"_0", .path ["u32"] [], [⟨"criteria", some [.word "skip"]⟩]⟩

/-- A raw name with a letter after the underscores. -/
def rawField : ItemField := ⟨"r#__type", .path ["String"] [], []⟩

/-- A name with a digit after the underscore. -/
def numberedField : ItemField := ⟨"_1", .path ["u32"] [], []⟩

/-- A point with the fields, under a rule. -/
def pointItem (fields : List ItemField) : Item :=
  ⟨"Point", [], [⟨"criteria", some [.assign "rename_all" (some "PascalCase")]⟩], .record fields⟩

theorem constant_refused_point :
    ModelCode.generate (pointItem [unusedField, rawField, numberedField]) =
      .error (.constantNotAName "1") := by
  have hbody : (pointItem [unusedField, rawField, numberedField]).body =
      .record [unusedField, rawField, numberedField] := rfl
  have hbefore : ∀ g ∈ [unusedField, rawField],
      ∃ d, DerivedModel.member? (some .pascal) g = .ok d := by
    simp only [List.forall_mem_cons]
    exact ⟨⟨_, rfl⟩, ⟨_, rfl⟩, List.forall_mem_nil _⟩
  refine (ModelCode.constant_refused_iff hbody (by decide) (by decide)).mpr
    ⟨rfl, .pascal, [unusedField, rawField], numberedField, [], rfl, rfl, hbefore, rfl, ?_⟩
  decide

/-- The name of the field is an identifier, and that of its constant is not. -/
theorem numbered_field_refused :
    Naming.isFieldName numberedField.name = true ∧
      Naming.constantName (Naming.memberName none (some .pascal) numberedField.name) = "1" ∧
      isIdentifier "1".toList = false ∧
      ModelCode.generate (pointItem [numberedField]) = .error (.constantNotAName "1") :=
  ⟨by decide, by decide, by decide, rfl⟩

end Sample

end Winnow
