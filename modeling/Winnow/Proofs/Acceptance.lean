/-
  Which criteria are accepted for which members.

  A criterion is checked twice: its operator against the type of its operand when it is built, and
  its operator, operand and operand's kind against the member when it is compiled. `Legal` says what
  passes both, for each type of member. The rules of `Compilation` are what compilation does if it
  succeeds; here they are shown to be complete for built criteria. Of these it is known that the
  operator tests membership or is one of the operand's kind (`Sound.mem_operators`), that a test for
  membership of something other than a text or flags has a list (`Sound.eq_list_of_isMembership`),
  and that a range has an upper bound of the operand's kind.

  The formulas are taken kind by kind (`isSome_scalarFormula?_text` and those after it),
  `isOk_memberFormula_iff` puts the kinds together, and `compile_accepts`, the main statement, adds
  the path.
-/
import Winnow.Proofs.Normalization
import Winnow.Proofs.Target

namespace Winnow

variable {ι : Type}

namespace Operator

/-- The operators that ask whether there is a value at all. -/
def isNullTest (op : Operator) : Bool := op = .isNull || op = .isNotNull

/-- The operators that look for their operand in a text or in a list. -/
def looksFor (op : Operator) : Bool := op.affix?.isSome || op.isMembership

/-- The operators that ask whether a text is empty or blank. -/
def isTextCheck : Operator → Bool
  | .isEmpty | .isNotEmpty | .isNullOrWhiteSpace | .isNotNullOrWhiteSpace => true
  | _ => false

theorem ne_of_isNullTest_false {op : Operator} (h : op.isNullTest = false) :
    op ≠ .isNull ∧ op ≠ .isNotNull := by
  simpa [isNullTest] using h

theorem isNullTest_iff {op : Operator} :
    op.isNullTest = true ↔ op = .isNull ∨ op = .isNotNull := by
  simp [isNullTest]

end Operator

namespace Criterion

open Formula

/-- The criterion suits a member of the type. -/
def Legal (c : Criterion) (type : MemberType ι) : Prop :=
  c.operator.isNullTest = true ∨
    match type with
    | .scalar .spatial => c.operator.isSpatial = true ∧ c.value ≠ .null
    | .scalar .enum => c.operandKind = .enum
    | .scalar .text =>
      (c.operandKind = .text ∨ c.operandKind = .char) ∧
        (c.operator.looksFor = true → c.value ≠ .null)
    | .scalar .char =>
      c.operandKind = .char ∧ (c.operator = .equal ∨ c.operator = .notEqual ∨
        c.operator.isMembership = true ∧ ∃ items, c.value = .list items)
    | .scalar kind => c.operandKind = kind ∧ (c.operator.isMembership = true → c.value ≠ .null)
    | .record _ | .collection _ => False

/-- How a criterion is refused for a member of the type. -/
def refusal (family : Family ι) (c : Criterion) : MemberType ι → Error
  | .scalar _ => c.unsupported
  | type => .unsupportedOperation c.operator (type.describe family)

end Criterion

/-! ## What is known of built criteria -/

/-- Besides lists only texts, characters and flags are tested for membership. -/
theorem Kind.of_isMembership {k : Kind} {op : Operator} (hk : op ∈ k.operators)
    (hop : op.isMembership = true) : k = .array ∨ k ∈ [text, char, enum] := by
  have hall : ∀ k ∈ all, ∀ op ∈ k.operators, op.isMembership = true →
      k = .array ∨ k ∈ [text, char, enum] := by decide
  exact hall k k.mem_all op hk hop

theorem Operator.looksFor_of_comparison? {op : Operator} {k : Comparison}
    (h : op.comparison? = some k) : op.looksFor = false := by
  cases op <;> first | rfl | exact absurd h (by simp [comparison?])

theorem Operator.comparesTexts_of_looksFor {op : Operator} (h : op.looksFor = true) :
    op.comparesTexts = true := by
  cases op <;> first | rfl | exact absurd h (by decide)

theorem Operator.isNullTest_of_isMembership {op : Operator} (hop : op.isMembership = true) :
    op.isNullTest = false := by
  cases op <;> first | rfl | exact absurd hop (by decide)

namespace Criterion

open Formula

variable {c : Criterion}

/-- Apart from null tests, the operator is one of the kind of the operand itself. -/
theorem Sound.mem_type_operators (h : c.Sound) (hnull : c.operator.isNullTest = false) :
    c.operator ∈ c.type.kind.operators := by
  have hsupports := h.supports
  have hne := Operator.ne_of_isNullTest_false hnull
  simpa [OperandType.supports, OperandType.nullOperators, hne.1, hne.2] using hsupports

/-- The operator tests membership, or is one of the kind that a member is checked for. -/
theorem Sound.mem_operators (h : c.Sound) (hnull : c.operator.isNullTest = false) :
    c.operator.isMembership = true ∨ c.operator ∈ c.operandKind.operators := by
  have hmem := h.mem_type_operators hnull
  by_cases hk : c.type.kind = .array
  · rw [hk] at hmem
    have hall : ∀ op ∈ Kind.array.operators, op.isMembership = true := by decide
    exact Or.inl (hall c.operator hmem)
  · rw [operandKind, OperandType.operandKind_of_ne_array hk]
    exact Or.inr hmem

/-- A single operand whose membership is tested is a text, a character or an enum. -/
theorem Sound.eq_list_of_isMembership (h : c.Sound) (hop : c.operator.isMembership = true)
    (hkind : c.operandKind ∉ [Kind.text, .char, .enum]) (hvalue : c.value ≠ .null) :
    ∃ items, c.value = .list items := by
  cases hv : c.value with
  | null => exact absurd hv hvalue
  | list items => exact ⟨items, rfl⟩
  | scalar s =>
    have hfits := h.fits
    rw [hv] at hfits
    have hk : c.type.kind = c.operandKind := hfits.symm.trans (h.kind_eq_operandKind hv)
    have hmem := h.mem_type_operators (Operator.isNullTest_of_isMembership hop)
    rcases Kind.of_isMembership hmem hop with harray | hmember
    · exact absurd (hfits.trans harray) s.kind_ne_array
    · exact absurd (hk ▸ hmember) hkind

/-! ## Formulas that there are -/

section Formulas

variable {o : Options} {m : Term} {kind : Kind} {nullable : Bool}

theorem isSome_of_list {items : List Value} (ha : kind.accepts c.operandKind = true)
    (hop : c.operator.isMembership = true) (hv : c.value = .list items) :
    (scalarFormula? o m kind nullable c).isSome = true := by
  have hw : c.value.widenTo kind = .list (items.map (·.widenTo kind)) := by
    rw [Value.widenTo_eq_list_iff]
    exact ⟨items, hv, rfl⟩
  unfold scalarFormula?
  rw [ha, hw]
  cases h : c.operator <;> rw [h] at hop <;> first | exact absurd hop (by decide) | rfl

theorem isSome_of_equality (ha : kind.accepts c.operandKind = true)
    (hop : c.operator = .equal ∨ c.operator = .notEqual) :
    (scalarFormula? o m kind nullable c).isSome = true := by
  unfold scalarFormula?
  rw [ha]
  rcases hop with h | h
  · rw [h]
    rfl
  · rw [h]
    rfl

/-- What is looked for is no null. -/
theorem ScalarRule.ne_null {f : Formula} (h : ScalarRule o m kind nullable c f)
    (hop : c.operator.looksFor = true) : c.value ≠ .null := by
  have hne : ∀ {op : Operator}, c.operator = op → op.looksFor = false → c.value ≠ .null := by
    intro op heq hfalse
    rw [heq, hfalse] at hop
    exact absurd hop (by decide)
  have hwiden : c.value = .null → c.value.widenTo kind = .null := by
    intro hv
    rw [hv]
    rfl
  cases h with
  | equal h | notEqual h | range h | empty h | notEmpty h | blank h | notBlank h =>
    exact hne h rfl
  | order k h => exact hne rfl (Operator.looksFor_of_comparison? h)
  | affix t s h hk hv => exact fun hnull => absurd ((hwiden hnull).symm.trans hv) (by simp)
  | oneOf items h hv => exact fun hnull => absurd ((hwiden hnull).symm.trans hv) (by simp)
  | contains s h hk hv => exact fun hnull => absurd ((hwiden hnull).symm.trans hv) (by simp)

theorem isSome_of_textCheck (ha : Kind.text.accepts c.operandKind = true)
    (hop : c.operator.isTextCheck = true) :
    (scalarFormula? o m .text nullable c).isSome = true := by
  unfold scalarFormula?
  rw [ha]
  cases h : c.operator <;> rw [h] at hop <;> first | exact absurd hop (by decide) | rfl

/-- In a text everything but a null can be looked for. -/
theorem isSome_of_looksFor (hc : c.Sound) (ha : Kind.text.accepts c.operandKind = true)
    (hop : c.operator.looksFor = true) (hvalue : c.value ≠ .null) :
    (scalarFormula? o m .text nullable c).isSome = true := by
  cases hpart : c.value.asText? with
  | some part => exact isSome_textFormula hpart (Operator.comparesTexts_of_looksFor hop) ha o
  | none =>
    obtain ⟨items, hitems⟩ : ∃ items, c.value = .list items := by
      cases hv : c.value with
      | list items => exact ⟨items, rfl⟩
      | _ => exact absurd (hc.eq_null_of_asText?_none (by rw [hv]; rfl) hpart ha) hvalue
    have hmembership : c.operator.isMembership = true := by
      rcases hc.operator_of_list hitems with h | h | h
      · exact h
      · exact absurd hop (by rw [h]; decide)
      · exact absurd hop (by rw [h]; decide)
    exact isSome_of_list ha hmembership hitems

/-- For a text there is a formula unless a null is looked for in it. -/
theorem isSome_scalarFormula?_text (hc : c.Sound) (hnull : c.operator.isNullTest = false) :
    (scalarFormula? o m .text nullable c).isSome = true ↔
      (c.operandKind = .text ∨ c.operandKind = .char) ∧
        (c.operator.looksFor = true → c.value ≠ .null) := by
  have hkind : Kind.text.accepts c.operandKind = true ↔
      c.operandKind = .text ∨ c.operandKind = .char := by
    simp [Kind.accepts_iff]
  rw [← hkind]
  constructor
  · intro h
    obtain ⟨f, hf⟩ := Option.isSome_iff_exists.mp h
    exact ⟨accepts_of_scalarFormula? hf, (scalarRule_of_scalarFormula? hf).ne_null⟩
  · intro h
    obtain ⟨ha, hvalue⟩ := h
    by_cases hlooks : c.operator.looksFor = true
    · exact isSome_of_looksFor hc ha hlooks (hvalue hlooks)
    · have hmem : c.operator ∈ Kind.text.operators := by
        rcases hc.mem_operators hnull with hop | hop
        · exact absurd (by simp [Operator.looksFor, hop]) hlooks
        · rcases hkind.mp ha with h | h
          · rwa [h] at hop
          · rwa [h] at hop
      have hall : ∀ op ∈ Kind.text.operators, ¬ op.looksFor = true → op.isNullTest = false →
          (op = .equal ∨ op = .notEqual) ∨ op.isTextCheck = true := by decide
      rcases hall c.operator hmem hlooks hnull with hop | hop
      · exact isSome_of_equality ha hop
      · exact isSome_of_textCheck ha hop

/-- For a character there is equality, and membership in a list. -/
theorem isSome_scalarFormula?_char :
    (scalarFormula? o m .char nullable c).isSome = true ↔
      c.operandKind = .char ∧ (c.operator = .equal ∨ c.operator = .notEqual ∨
        c.operator.isMembership = true ∧ ∃ items, c.value = .list items) := by
  have hkind : Kind.char.accepts c.operandKind = true ↔ c.operandKind = .char := by
    simp [Kind.accepts_iff]
  rw [← hkind]
  constructor
  · intro h
    obtain ⟨f, hf⟩ := Option.isSome_iff_exists.mp h
    refine ⟨accepts_of_scalarFormula? hf, ?_⟩
    cases scalarRule_of_scalarFormula? hf with
    | equal h => exact Or.inl h
    | notEqual h => exact Or.inr (Or.inl h)
    | oneOf items h hv =>
      obtain ⟨vs, hvs, -⟩ := Value.widenTo_eq_list_iff.mp hv
      exact Or.inr (Or.inr ⟨h, vs, hvs⟩)
    | order k h hk => exact absurd hk (by decide)
    | range h hk => exact absurd hk (by decide)
    | affix t s h hk => exact absurd hk (by decide)
    | contains s h hk => exact absurd hk (by decide)
    | empty h hk | notEmpty h hk | blank h hk | notBlank h hk => exact absurd hk (by decide)
  · intro h
    obtain ⟨ha, hop | hop | ⟨hop, items, hv⟩⟩ := h
    · exact isSome_of_equality ha (Or.inl hop)
    · exact isSome_of_equality ha (Or.inr hop)
    · exact isSome_of_list ha hop hv

/-- A range has an upper bound of the operand's kind. -/
theorem isSome_of_between (hc : c.Built) (hop : c.operator = .between)
    (ho : c.operandKind.isOrdered = true) :
    (scalarFormula? o m c.operandKind nullable c).isSome = true := by
  have hbound : c.value2.kind? = some c.operandKind := (hc.passes .value2).1 hop
  have hhigh : (c.value2.widenTo c.operandKind).kind?.any c.operandKind.accepts = true := by
    rw [Value.widenTo_of_ne_text (ne_text_of_isOrdered ho), hbound]
    exact c.operandKind.accepts_self
  unfold scalarFormula?
  rw [c.operandKind.accepts_self, hop]
  simp only [ho, hhigh, Bool.and_self, Bool.not_true, Bool.false_eq_true, if_true, if_false]
  rfl

/-- For the other kinds there is whatever a built criterion of the kind may ask, unless a null is
looked for in a list. -/
theorem isSome_scalarFormula?_other (hc : c.Built) (hnull : c.operator.isNullTest = false)
    (hkind : kind ∉ [Kind.text, .char, .enum]) (hs : kind ≠ .spatial) :
    (scalarFormula? o m kind nullable c).isSome = true ↔
      c.operandKind = kind ∧ (c.operator.isMembership = true → c.value ≠ .null) := by
  have hne : kind ≠ .text := fun h => hkind (by rw [h]; decide)
  have haccepts : kind.accepts c.operandKind = true ↔ c.operandKind = kind := by
    simp [Kind.accepts_iff, hne]
  constructor
  · intro h
    obtain ⟨f, hf⟩ := Option.isSome_iff_exists.mp h
    refine ⟨haccepts.mp (accepts_of_scalarFormula? hf), fun hop => ?_⟩
    exact (scalarRule_of_scalarFormula? hf).ne_null (by simp [Operator.looksFor, hop])
  · intro h
    obtain ⟨rfl, hvalue⟩ := h
    have ha := c.operandKind.accepts_self
    rcases hc.sound.mem_operators hnull with hop | hop
    · obtain ⟨items, hv⟩ := hc.sound.eq_list_of_isMembership hop hkind (hvalue hop)
      exact isSome_of_list ha hop hv
    · have hall : ∀ k ∈ Kind.all, k ∉ [Kind.text, .char, .enum] → k ≠ .spatial →
          ∀ op ∈ k.operators, (op = .equal ∨ op = .notEqual) ∨ op.isMembership = true ∨
            k.isOrdered = true ∧ (op = .between ∨ op.comparison?.isSome = true) := by decide
      rcases hall _ c.operandKind.mem_all hkind hs _ hop with h | h | ⟨ho, h | h⟩
      · exact isSome_of_equality ha h
      · obtain ⟨items, hv⟩ := hc.sound.eq_list_of_isMembership h hkind (hvalue h)
        exact isSome_of_list ha h hv
      · exact isSome_of_between hc h ho
      · obtain ⟨comparison, hcomparison⟩ := Option.isSome_iff_exists.mp h
        rw [scalarFormula?_of_comparison? hcomparison, if_pos ⟨ha, ho⟩]
        rfl

end Formulas

/-- For an enum there is equality and membership, of flags or in a list. -/
theorem isSome_enumFormula?_iff (hc : c.Sound) (hnull : c.operator.isNullTest = false) (m : Term) :
    (enumFormula? m c).isSome = true ↔ c.operandKind = .enum := by
  constructor
  · intro h
    obtain ⟨f, hf⟩ := Option.isSome_iff_exists.mp h
    exact (enumRule_of_enumFormula? hf).1
  · intro hk
    have hop : (c.operator = .equal ∨ c.operator = .notEqual) ∨
        c.operator.isMembership = true := by
      rcases hc.mem_operators hnull with hop | hop
      · exact Or.inr hop
      · rw [hk] at hop
        have hall : ∀ op ∈ Kind.enum.operators,
            (op = .equal ∨ op = .notEqual) ∨ op.isMembership = true := by decide
        exact hall c.operator hop
    unfold enumFormula?
    rw [hk]
    rcases hop with (h | h) | h
    · rw [h]
      rfl
    · rw [h]
      rfl
    · cases hcase : c.operator <;> rw [hcase] at h <;> first | exact absurd h (by decide) | rfl

/-- For a geometry there are the spatial tests, of a geometry. -/
theorem isSome_spatialFormula?_iff (hc : c.Sound) (m : Term) :
    (spatialFormula? m c).isSome = true ↔ c.operator.isSpatial = true ∧ c.value ≠ .null := by
  constructor
  · intro h
    obtain ⟨f, hf⟩ := Option.isSome_iff_exists.mp h
    obtain ⟨t, g, hop, hv⟩ := spatialRule_of_spatialFormula? hf
    refine ⟨?_, by simp [hv]⟩
    rw [← SpatialTest.isSome_ofOperator?, hop]
    rfl
  · intro h
    obtain ⟨hop, hvalue⟩ := h
    have hnull : c.operator.isNullTest = false := by
      cases hcase : c.operator <;> rw [hcase] at hop <;> first | rfl | exact absurd hop (by decide)
    have hkind : c.type.kind = .spatial := by
      have hall : ∀ k ∈ Kind.all, ∀ op ∈ k.operators, op.isSpatial = true → k = .spatial := by
        decide
      exact hall _ c.type.kind.mem_all _ (hc.mem_type_operators hnull) hop
    obtain ⟨g, hg⟩ : ∃ g, c.value = .scalar (.geometry g) := by
      have hfits := hc.fits
      cases hv : c.value with
      | null => exact absurd hv hvalue
      | list items =>
        rw [hv] at hfits
        exact absurd (hfits.1.symm.trans hkind) (by decide)
      | scalar s =>
        rw [hv] at hfits
        have hs : s.kind = .spatial := hfits.trans hkind
        cases s with
        | geometry g => exact ⟨g, rfl⟩
        | _ => exact absurd hs (by simp [Scalar.kind])
    rw [← SpatialTest.isSome_ofOperator?] at hop
    obtain ⟨t, ht⟩ := Option.isSome_iff_exists.mp hop
    unfold spatialFormula?
    rw [ht, hg]
    rfl

/-! ## Members -/

section Members

variable {family : Family ι} {o : Options} {i : ι}

theorem legal_of_isNullTest (h : c.operator.isNullTest = true) (type : MemberType ι) :
    c.Legal type := Or.inl h

/-- There is a formula, or the criterion is refused, as something holds or does not. -/
theorem orUnsupported_decides {f? : Option Formula} {P : Prop} (h : f?.isSome = true ↔ P) :
    (P → ∃ f, c.orUnsupported f? = .ok f) ∧ (¬ P → c.orUnsupported f? = .error c.unsupported) := by
  cases f? with
  | none => exact ⟨fun hP => absurd (h.mpr hP) (by simp), fun _ => rfl⟩
  | some f => exact ⟨fun _ => ⟨f, rfl⟩, fun hP => absurd (h.mp rfl) hP⟩

/-- For a member there is a formula exactly if the criterion suits it. -/
theorem memberFormula_decides (hc : c.Built) (family : Family ι) (o : Options)
    (r : ResolvedMember ι) :
    (c.Legal r.type → ∃ f, memberFormula family o r c = .ok f) ∧
      (¬ c.Legal r.type → memberFormula family o r c = .error (c.refusal family r.type)) := by
  cases hnull : c.operator.isNullTest with
  | true =>
    refine ⟨fun _ => ?_, fun h => absurd (legal_of_isNullTest hnull r.type) h⟩
    unfold memberFormula
    rcases Operator.isNullTest_iff.mp hnull with h | h
    · exact ⟨isNull (.member r.path), by rw [h]⟩
    · exact ⟨isNotNull (.member r.path), by rw [h]⟩
  | false =>
    have hne := Operator.ne_of_isNullTest_false hnull
    rw [memberFormula_of_ne hne.1 hne.2]
    cases r.type with
    | record | collection =>
      have hillegal : ∀ P, c.operator.isNullTest = true ∨ P ↔ P := by simp [hnull]
      exact ⟨fun h => ((hillegal False).mp h).elim, fun _ => rfl⟩
    | scalar kind =>
      have hlegal : ∀ P, c.operator.isNullTest = true ∨ P ↔ P := by simp [hnull]
      cases kind with
      | text =>
        exact orUnsupported_decides ((isSome_scalarFormula?_text hc.sound hnull).trans
          (hlegal _).symm)
      | char => exact orUnsupported_decides (isSome_scalarFormula?_char.trans (hlegal _).symm)
      | enum =>
        exact orUnsupported_decides ((isSome_enumFormula?_iff hc.sound hnull _).trans
          (hlegal _).symm)
      | spatial =>
        exact orUnsupported_decides ((isSome_spatialFormula?_iff hc.sound _).trans
          (hlegal _).symm)
      | _ =>
        exact orUnsupported_decides ((isSome_scalarFormula?_other hc hnull (by decide)
          (by decide)).trans (hlegal _).symm)

/-- A range suits the members of its operand's kind, whatever its bounds. -/
theorem legal_between_iff (hc : c.Built) (hop : c.operator = .between) (type : MemberType ι) :
    c.Legal type ↔ type = .scalar c.operandKind := by
  have hordered : c.operandKind.isOrdered = true := by
    have hall : ∀ k ∈ Kind.all, .between ∈ k.operators → k.isOrdered = true := by decide
    rcases hc.sound.mem_operators (by rw [hop]; rfl) with h | h
    · exact absurd h (by rw [hop]; decide)
    · exact hall _ c.operandKind.mem_all (hop ▸ h)
  have hne : ∀ k : Kind, k.isOrdered = false → c.operandKind ≠ k := by
    intro k hk heq
    rw [← heq, hordered] at hk
    exact absurd hk (by decide)
  have hflip : ∀ kind : Kind,
      (MemberType.scalar kind : MemberType ι) = .scalar c.operandKind ↔ c.operandKind = kind := by
    simp [eq_comm]
  unfold Legal
  rw [hop]
  cases type with
  | record | collection => simp [Operator.isNullTest]
  | scalar kind =>
    rw [hflip]
    cases kind <;>
      simp [Operator.isNullTest, Operator.isSpatial, Operator.isMembership, Operator.looksFor,
        Operator.affix?, hne .text rfl, hne .char rfl, hne .spatial rfl]

/-- **Which criteria are accepted for which members.**

    A built criterion with a path, with or without brackets, that leads to a member compiles under
    any options exactly if it suits the member's type. Otherwise the error is that the operator is
    not supported, by the type of the operand if the member is a single value, and else by the
    member. A range is accepted exactly for members of its operand's kind: its bounds are never the
    reason of a refusal. -/
theorem compile_accepts (hc : c.Built) {t : Target ι} (ht : c.target family i = .ok t) :
    ((∃ f, c.compile family o i = .ok f) ↔ c.Legal t.member.type) ∧
    (¬ c.Legal t.member.type →
      c.compile family o i = .error (c.refusal family t.member.type)) ∧
    (c.operator = .between →
      ((∃ f, c.compile family o i = .ok f) ↔ t.member.type = .scalar c.operandKind)) := by
  obtain ⟨hlegal, hillegal⟩ := memberFormula_decides hc family o t.member
  have hrefused : ¬ c.Legal t.member.type →
      c.compile family o i = .error (c.refusal family t.member.type) := by
    intro h
    rw [compile_of_target ht, hillegal h]
    rfl
  have hiff : (∃ f, c.compile family o i = .ok f) ↔ c.Legal t.member.type := by
    constructor
    · intro h
      obtain ⟨f, hf⟩ := h
      refine Classical.byContradiction fun hnot => ?_
      exact absurd (hf.symm.trans (hrefused hnot)) (by simp)
    · intro h
      obtain ⟨f, hf⟩ := hlegal h
      rw [compile_of_target ht, hf]
      exact ⟨t.quantify f, rfl⟩
  exact ⟨hiff, hrefused, fun hop => hiff.trans (legal_between_iff hc hop t.member.type)⟩

end Members

end Criterion

namespace Sample

/-- The number of an order is asked for a note that is missing: an optional text in a list. -/
def idIn : Criterion :=
  ⟨"Orders[Id]", .isIn, .and, .list [.null], .null,
    (ValueType.sequence .vector (.optional (.scalar (.text .owned)))).operandType⟩

theorem built_idIn : idIn.Built :=
  .new (show Criterion.new (.sequence .vector (.optional (.scalar (.text .owned)))) "Orders[Id]"
    .isIn ⟨[none], rfl⟩ none .and = .ok idIn from rfl)

/-- A note may be in the list, but not a number: the criterion is refused for the type that it was
built with. -/
theorem compile_accepts_id :
    ¬ idIn.Legal (.scalar .number : MemberType TypeName) ∧
      idIn.compile shop ⟨true⟩ .person = .error (.unsupportedOperation .isIn
        "alloc::vec::Vec<core::option::Option<alloc::string::String>>") := by
  have hillegal : ¬ idIn.Legal (.scalar .number : MemberType TypeName) := by
    intro h
    rcases h with h | ⟨h, -⟩
    · exact absurd h (by decide)
    · exact absurd h (by decide)
  have htarget : idIn.target shop .person = .ok ⟨some ⟨rowParameter, ["Orders"]⟩,
      ⟨⟨elementParameter, ["Id"]⟩, "Order", .scalar .number, false⟩⟩ := rfl
  exact ⟨hillegal, (Criterion.compile_accepts built_idIn htarget).2.1 hillegal⟩

end Sample

end Winnow
