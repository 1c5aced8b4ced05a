/-
  Compound operators are made of simple ones.

  A test for membership of a list is a scan of the list, a test for equality a guarded comparison,
  and for an enum one of bits, with a null test in the place of equality with a null. For a list of
  any type (`ValueType.Lists`) and a record whatever, `accepts_equal_iff` says that the test for
  equality with an item computes what the scan does with the item: the two sides of a comparison may
  be swapped, guards add nothing, and a character is widened in both. The rest is the quantifier
  over the items, for the negated operators by `parallel_of_negation?`. A range is two comparisons
  under one guard (`holds_range_iff`).

  `compound_decomposes`, the main statement, has the list operators and the range together.
-/
import Winnow.Proofs.Agreement
import Winnow.Proofs.Complement
import Winnow.Proofs.WellKinded

namespace Winnow

variable {ι ρ : Type} {family : Family ι} {o : Options} {i : ι}

/-! ## Lists as operands -/

/-- The operand is a list of items of a type, perhaps of a list type with a null added. -/
inductive ValueType.Lists :
    (t : ValueType) → t.Carrier → (item : ValueType) → List item.Carrier → Prop
  | sequence (form : SequenceForm) (item : ValueType) (vs : (sequence form item).Carrier) :
      Lists (.sequence form item) vs item vs.val
  | optional {inner item : ValueType} {v : inner.Carrier} {vs : List item.Carrier}
      (h : Lists inner v item vs) : Lists (.optional inner) (some v) item vs

namespace ValueType

variable {t item : ValueType} {operand : t.Carrier} {vs : List item.Carrier}

theorem Lists.toValue_eq (h : t.Lists operand item vs) :
    t.toValue operand = .list (vs.map item.toValue) := by
  induction h with
  | sequence form item vs => rfl
  | optional h ih => exact ih

theorem Lists.operandKind_eq (h : t.Lists operand item vs) :
    t.operandType.operandKind = item.operandType.kind := by
  have helement : t.operandType.kind = .array ∧
      t.operandType.element = some item.operandType.kind := by
    induction h with
    | sequence form item vs => exact ⟨rfl, rfl⟩
    | optional h ih => exact ih
  exact OperandType.operandKind_of_element helement.1 helement.2

end ValueType

namespace Criterion

open Formula

variable {c : Criterion}

/-- The formula for a list scans its items, widened to the kind of the member. -/
theorem MemberRule.list {r : ResolvedMember ι} {f : Formula} (h : MemberRule o r c f)
    (hop : c.operator.isMembership = true) {items : List Value} (hv : c.value = .list items) :
    ∃ kind, r.type = .scalar kind ∧ kind ≠ .spatial ∧ kind.accepts c.operandKind = true ∧
      f = negatedIf c.operator.isNegatedMembership
        (.oneOf (items.map (·.widenTo kind)) (.member r.path)) := by
  have hne : ∀ {op : Operator} {P : Prop}, c.operator = op → op.isMembership = false → P := by
    intro op P heq hfalse
    rw [heq, hfalse] at hop
    exact absurd hop (by decide)
  cases h with
  | isNull h => exact hne h rfl
  | isNotNull h => exact hne h rfl
  | spatial ht h =>
    obtain ⟨t, g, h, hvalue⟩ := h
    exact absurd (hv.symm.trans hvalue) (by simp)
  | enum ht hk h =>
    have hwiden : items.map (·.widenTo .enum) = items := by
      rw [← Value.widenItems_eq_map, Value.widenItems_of_ne_text (by decide)]
    cases h with
    | equal h => exact hne h rfl
    | notEqual h => exact hne h rfl
    | flags h hitems => exact absurd hitems (by simp [hv, Value.items?])
    | oneOf vs h hvalue =>
      obtain rfl : items = vs := by simpa [hv] using hvalue
      exact ⟨.enum, ht, by decide, by rw [hk]; rfl, by rw [hwiden]⟩
  | scalar kind ht hs ha h =>
    cases h with
    | equal h => exact hne h rfl
    | notEqual h => exact hne h rfl
    | affix t s h hk hvalue => exact absurd hvalue (by simp [hv, Value.widenTo])
    | order k h => exact hne rfl (Operator.of_comparison? h).1
    | range h | empty h | notEmpty h | blank h | notBlank h => exact hne h rfl
    | contains s h hk hvalue => exact absurd hvalue (by simp [hv, Value.widenTo])
    | oneOf ws h hvalue =>
      obtain ⟨vs, hvs, rfl⟩ := Value.widenTo_eq_list_iff.mp hvalue
      obtain rfl : items = vs := by simpa [hv] using hvs
      exact ⟨kind, ht, hs, ha, rfl⟩

/-- A range has a formula for the kinds with an order only. -/
theorem MemberRule.range {r : ResolvedMember ι} {f : Formula} (h : MemberRule o r c f)
    (hop : c.operator = .between) :
    ∃ kind, r.type = .scalar kind ∧ kind.accepts c.operandKind = true ∧ kind.isOrdered = true ∧
      f = guardedIf r.nullable (.member r.path)
        (rangeFormula (.member r.path) c.value c.value2) := by
  have hne : ∀ {op : Operator} {P : Prop}, c.operator = op → op ≠ .between → P :=
    fun heq hop' => absurd (heq.symm.trans hop) hop'
  have hmembership : ∀ {P : Prop}, c.operator.isMembership = true → P := by
    intro P h
    rw [hop] at h
    exact absurd h (by decide)
  cases h with
  | isNull h => exact hne h (by decide)
  | isNotNull h => exact hne h (by decide)
  | spatial ht h =>
    obtain ⟨t, g, h, -⟩ := h
    rw [hop] at h
    exact absurd h (by simp [SpatialTest.ofOperator?])
  | enum ht hk h =>
    cases h with
    | equal h => exact hne h (by decide)
    | notEqual h => exact hne h (by decide)
    | oneOf items h => exact hmembership h
    | flags h => exact hmembership h
  | scalar kind ht hs ha h =>
    cases h with
    | range h hk hhigh =>
      have hwiden := Value.widenTo_of_ne_text (ne_text_of_isOrdered hk)
      exact ⟨kind, ht, ha, hk, by rw [hwiden, hwiden]⟩
    | equal h => exact hne h (by decide)
    | notEqual h => exact hne h (by decide)
    | affix t s h => exact absurd h (by rw [hop]; simp [Operator.affix?])
    | order k h => exact absurd h (by rw [hop]; simp [Operator.comparison?])
    | empty h | notEmpty h | blank h | notBlank h => exact hne h (by decide)
    | oneOf items h => exact hmembership h
    | contains s h => exact hmembership h

/-! ## Equality with an item -/

section Equality

variable [Record ρ]

/-- Equality with a constant may be asked from either side. -/
theorem holds_equalFormula_iff (nullable : Bool) (m : Term) (w : Value) (row : ρ) :
    (equalFormula false nullable m w).holds row = true ↔
      (Reading.ofValue w : Reading ρ).equals (m.read row) = true := by
  have hcomm : (Reading.ofValue w : Reading ρ).equals (m.read row) =
      (m.read row).equals (Reading.ofValue w : Reading ρ) :=
    Reading.equals_comm _ _
  unfold equalFormula
  split
  · next hnull =>
    rw [Value.isNull_iff.mp hnull, holds_isNull]
    exact (Reading.null_equals_iff (m.read row)).symm
  · next hnull =>
    rw [hcomm]
    refine holds_guardedIf_of_imp nullable m ?_
    intro hequal hread
    have hconstant : (Reading.null : Reading ρ).equals (Reading.ofValue w : Reading ρ) = true :=
      hread ▸ hequal
    have hvalue : (Reading.ofValue w : Reading ρ) = .null :=
      (Reading.null_equals_iff _).mp hconstant
    cases w with
    | null => exact hnull rfl
    | scalar s => exact absurd hvalue (by simp [Reading.ofValue])
    | list items => exact absurd hvalue (by simp [Reading.ofValue])

/-- Two enums are equal if their bits are, and the bits of anything else equal none. -/
theorem holds_bitsFormula_iff (m : Term) (b : UInt64) (row : ρ) :
    (Formula.compare .eq (.bits m) (.bits (.constant (.scalar (.enum b))))).holds row = true ↔
      (Reading.ofValue (.scalar (.enum b)) : Reading ρ).equals (m.read row) = true := by
  show (Term.bitsOf (m.read row)).equals
    (.scalar (.number (.unsigned b)) : Reading ρ) = true ↔ _
  cases m.read row with
  | scalar s =>
    cases s with
    | enum a =>
      show (Scalar.number (.unsigned a)).equals (.number (.unsigned b)) = true ↔
        (Scalar.enum b).equals (.enum a) = true
      rw [Scalar.equals_unsigned, Scalar.equals_enum]
      exact eq_comm
    | _ => simp [Term.bitsOf, Reading.ofValue, Reading.equals, Scalar.equals, Scalar.compare?]
  | _ => simp [Term.bitsOf, Reading.ofValue, Reading.equals]

end Equality

/-- There is a formula for equality with an operand, and it computes equality with the constant. -/
theorem exists_equalFormula {c : Criterion} {r : ResolvedMember ι} {kind : Kind}
    (hc : c.Sound) (hop : c.operator = .equal) (hvalue : c.value ≠ .null)
    (ht : r.type = .scalar kind) (hs : kind ≠ .spatial)
    (ha : kind.accepts c.operandKind = true) (family : Family ι) :
    ∃ f, memberFormula family ⟨false⟩ r c = .ok f ∧ ∀ (ρ : Type) [Record ρ] (row : ρ),
      f.holds row = true ↔
        (Reading.ofValue (c.value.widenTo kind) : Reading ρ).equals (r.path.read row) = true := by
  have hnull : c.operator ≠ .isNull ∧ c.operator ≠ .isNotNull := by
    rw [hop]
    exact ⟨by decide, by decide⟩
  by_cases henum : kind = .enum
  · subst henum
    have hoperand : c.operandKind = .enum := by simpa [Kind.accepts_iff] using ha
    obtain ⟨b, hb⟩ : ∃ b, c.value = .scalar (.enum b) :=
      (hc.enum_operand hoperand (hc.items?_of_equality (Or.inl hop))).resolve_left hvalue
    refine ⟨.compare .eq (.bits (.member r.path)) (.bits (.constant c.value)), ?_, ?_⟩
    · rw [memberFormula_of_ne hnull.1 hnull.2, ht]
      simp only [enumFormula?, hoperand, hop]
      rfl
    · intro ρ _ row
      rw [Value.widenTo_of_ne_text (by decide), hb]
      exact holds_bitsFormula_iff (.member r.path) b row
  · refine ⟨equalFormula false r.nullable (.member r.path) (c.value.widenTo kind), ?_, ?_⟩
    · rw [memberFormula_of_scalar hnull.1 hnull.2 ht henum hs]
      simp only [scalarFormula?, ha, hop]
      rfl
    · intro ρ _ row
      exact holds_equalFormula_iff r.nullable (.member r.path) (c.value.widenTo kind) row

end Criterion

namespace CriteriaSet

/-- The step comes to a predicate that accepts the row. -/
def Step.Accepts [Record ρ] (family : Family ι) (o : Options) (i : ι) (st : Step) (row : ρ) :
    Prop :=
  ∃ p, st.predicate family o i = .ok p ∧ p.accepts row = true

/-- If there is a predicate, the step accepts what the predicate accepts. -/
theorem Step.accepts_iff [Record ρ] {st : Step} {p : Predicate}
    (hp : st.predicate family o i = .ok p) {row : ρ} :
    st.Accepts family o i row ↔ p.accepts row = true := by
  constructor
  · intro h
    obtain ⟨p', hp', h⟩ := h
    obtain rfl : p = p' := by simpa [hp] using hp'
    exact h
  · intro h
    exact ⟨p, hp, h⟩

section Items

variable {item : ValueType} {property : String} {segments : List String} {r : ResolvedMember ι}
  {kind : Kind}

/-- A test for equality with an item comes to a predicate, and the predicate asks what the scan of
a list asks of the item. -/
theorem accepts_equal_iff (hpath : PropertyPath.parse property = .ok (.plain segments))
    (hr : family.resolve i segments rowParameter = .ok r) (ht : r.type = .scalar kind)
    (hs : kind ≠ .spatial) (harray : kind ≠ .array)
    (ha : kind.accepts item.operandType.kind = true) (v : item.Carrier) :
    ∃ q, (Step.test .equal item property v).predicate family ⟨false⟩ i = .ok q ∧
      ∀ (ρ : Type) [Record ρ] (row : ρ), q.accepts row = true ↔
        (Reading.ofValue ((item.toValue v).widenTo kind) : Reading ρ).equals
          (r.path.read row) = true := by
  have hblank := PropertyPath.exists_not_blank_of_plain hpath
  by_cases hv : item.toValue v = .null
  · have hnullable : item.operandType.nullable = true := by
      refine Classical.byContradiction fun h => ?_
      exact ValueType.toValue_ne_null (by simpa using h) v hv
    have hsupports : item.operandType.supports .isNull = true := by
      rw [OperandType.supports, hnullable]
      simp [OperandType.nullOperators]
    have hpasses : ∀ check, (⟨property, .isNull, .and, .null, .null, item.operandType⟩ :
        Criterion).Passes check :=
      Criterion.forall_passes_of_ne hblank hsupports Operator.noConfusion Operator.noConfusion
    refine ⟨_, predicate_of_memberFormula (described?_nullTest (k := .eq) rfl hv property) hpasses
      hpath hr rfl, ?_⟩
    intro ρ _ row
    rw [hv]
    exact (Formula.holds_isNull (.member r.path) row).trans
      (Reading.null_equals_iff (r.path.read row)).symm
  · have hitem : item.operandType.kind ≠ .array ∧ item.operandType.kind ≠ .spatial := by
      rcases Kind.accepts_iff.mp ha with h | ⟨-, h⟩
      · rw [h]
        exact ⟨harray, hs⟩
      · rw [h]
        exact ⟨by decide, by decide⟩
    have hdescribed := described?_test (k := .eq) (t := item) (Or.inr hv) property
    have hsupports : item.operandType.supports .equal = true := by
      have hmem : Operator.equal ∈ item.operandType.kind.operators :=
        Comparison.Suits.mem_operators (k := .eq) (Or.inl rfl) hitem.2 hitem.1
      rw [OperandType.supports, List.contains_iff_mem.mpr hmem, Bool.true_or]
    have hpasses : ∀ check, (⟨property, .equal, .and, item.toValue v, .null, item.operandType⟩ :
        Criterion).Passes check :=
      Criterion.forall_passes_of_ne hblank hsupports Operator.noConfusion Operator.noConfusion
    have hoperand : item.operandType.operandKind = item.operandType.kind :=
      OperandType.operandKind_of_ne_array hitem.1
    have haccepts : kind.accepts item.operandType.operandKind = true := by rwa [hoperand]
    obtain ⟨f, hf, hholds⟩ := Criterion.exists_equalFormula
      (c := ⟨property, .equal, .and, item.toValue v, .null, item.operandType⟩)
      ⟨hsupports, item.fits_toValue v⟩ rfl hv ht hs haccepts family
    exact ⟨⟨f⟩, predicate_of_memberFormula hdescribed hpasses hpath hr hf, hholds⟩

/-- A test for inequality accepts what the test for equality does not. -/
theorem accepts_notEqual_iff (hpath : PropertyPath.parse property = .ok (.plain segments))
    (v : item.Carrier) {q : Predicate}
    (hq : (Step.test .equal item property v).predicate family ⟨false⟩ i = .ok q) :
    ∃ q', (Step.test .notEqual item property v).predicate family ⟨false⟩ i = .ok q' ∧
      ∀ (ρ : Type) [Record ρ] (row : ρ), q'.accepts row = true ↔ ¬ q.accepts row = true := by
  obtain ⟨c, op', hc, hc', hnegation, hmembership⟩ := described?_equal item property v
  have hproperty : c.property = property := by
    simp only [Step.described?] at hc
    split at hc <;> exact (congrArg Criterion.property (Option.some.inj hc)).symm
  have hplain : ∀ base inner, PropertyPath.parse c.property ≠ .ok (.bracketed base inner) := by
    intro base inner h
    rw [hproperty, hpath] at h
    exact absurd h (by simp)
  have hparallel := @parallel_of_negation? ι family ⟨false⟩ i _ _ c op' hc hc' hplain hnegation
    fun h => absurd (hmembership.symm.trans h) (by decide)
  rw [hq] at hparallel
  generalize (Step.test .notEqual item property v).predicate family ⟨false⟩ i = outcome
    at hparallel ⊢
  cases hparallel with
  | @ok _ q' hopposite =>
    refine ⟨q', rfl, fun ρ _ row => ?_⟩
    rw [hopposite ρ row]
    simp

end Items

/-! ## Lists and ranges -/

theorem described?_of_nullTest?_none {op : Operator} (h : nullTest? op = none) (t : ValueType)
    (property : String) (operand : t.Carrier) :
    (Step.test op t property operand).described? =
      some ⟨property, op, .and, t.toValue operand, .null, t.operandType⟩ := by
  simp only [Step.described?, h]

theorem nullTest?_of_isMembership {op : Operator} (h : op.isMembership = true) :
    nullTest? op = none := by
  cases op <;> first | rfl | exact absurd h (by decide)

section Lists

variable {t item : ValueType} {operand : t.Carrier} {vs : List item.Carrier} {property : String}
  {segments : List String} {r : ResolvedMember ι} {op : Operator} {p : Predicate}

/-- The predicate of a list scans its items, each of which has a test for equality that computes the
same. -/
theorem exists_list_predicate (hpath : PropertyPath.parse property = .ok (.plain segments))
    (hr : family.resolve i segments rowParameter = .ok r) (harray : r.type ≠ .scalar .array)
    (hlist : t.Lists operand item vs) (hop : op.isMembership = true)
    (hp : (Step.test op t property operand).predicate family ⟨false⟩ i = .ok p) :
    (∀ v ∈ vs, ∃ q, (Step.test .equal item property v).predicate family ⟨false⟩ i = .ok q) ∧
      ∀ (ρ : Type) [Record ρ] (row : ρ), p.accepts row = true ↔
        if op.isNegatedMembership = true then
          ¬ ∃ v ∈ vs, (Step.test .equal item property v).Accepts family ⟨false⟩ i row
        else ∃ v ∈ vs, (Step.test .equal item property v).Accepts family ⟨false⟩ i row := by
  have hdescribed :=
    described?_of_nullTest?_none (nullTest?_of_isMembership hop) t property operand
  obtain ⟨-, hformula⟩ := memberFormula_of_predicate hdescribed hpath hr hp
  obtain ⟨kind, ht, hs, ha, hf⟩ := (Criterion.memberRule_of_memberFormula hformula).list hop
    hlist.toValue_eq
  have hitem : kind.accepts item.operandType.kind = true := by
    rw [← hlist.operandKind_eq]
    exact ha
  have hne : kind ≠ .array := fun h => harray (by rw [ht, h])
  have hequal := fun v : item.Carrier => accepts_equal_iff hpath hr ht hs hne hitem v
  refine ⟨fun v _ => ?_, fun ρ _ row => ?_⟩
  · obtain ⟨q, hq, -⟩ := hequal v
    exact ⟨q, hq⟩
  · have hscan : (Formula.oneOf ((vs.map item.toValue).map (·.widenTo kind))
        (.member r.path)).holds row = true ↔
          ∃ v ∈ vs, (Step.test .equal item property v).Accepts family ⟨false⟩ i row := by
      rw [Formula.holds, List.any_map, List.any_map, List.any_eq_true]
      refine exists_congr fun v => and_congr_right fun _ => ?_
      obtain ⟨q, hq, haccepts⟩ := hequal v
      rw [Step.accepts_iff hq, haccepts ρ row]
      exact Iff.rfl
    rw [Predicate.accepts, hf, Formula.holds_negatedIf, hscan]

/-- A range holds where both of its comparisons do. -/
theorem holds_range_iff [Record ρ] (nullable : Bool) (m : Term) (low high : Value) (row : ρ) :
    (Formula.guardedIf nullable m (Criterion.rangeFormula m low high)).holds row = true ↔
      (Formula.guardedIf nullable m (.compare .ge m (.constant low))).holds row = true ∧
        (Formula.guardedIf nullable m (.compare .le m (.constant high))).holds row = true := by
  simp only [Formula.holds_guardedIf, Criterion.rangeFormula, Formula.holds, Bool.and_eq_true]
  constructor
  · intro h
    exact ⟨⟨h.1, h.2.1⟩, h.1, h.2.2⟩
  · intro h
    exact ⟨h.1.1, h.1.2, h.2.2⟩

/-- A comparison by order comes to the predicate with the guarded comparison. -/
theorem order_predicate {comparison : Comparison} {kind : Kind}
    (hop : op.comparison? = some comparison)
    (hpath : PropertyPath.parse property = .ok (.plain segments))
    (hr : family.resolve i segments rowParameter = .ok r) (ht : r.type = .scalar kind)
    (hk : kind.isOrdered = true) (ha : kind.accepts t.operandType.operandKind = true)
    (hsupports : t.operandType.supports op = true) (operand : t.Carrier) :
    (Step.test op t property operand).predicate family o i =
      .ok ⟨.guardedIf r.nullable (.member r.path)
        (.compare comparison (.member r.path) (.constant (t.toValue operand)))⟩ := by
  have htest : nullTest? op = none := by
    cases op <;> first | rfl | exact absurd hop (by simp [Operator.comparison?])
  have hne : ∀ {op' : Operator}, op'.comparison? = none → op ≠ op' := by
    intro op' hnone heq
    rw [heq, hnone] at hop
    exact absurd hop (by simp)
  have hkind : kind ≠ .enum ∧ kind ≠ .spatial := by
    cases kind <;> first | exact absurd hk (by decide) | exact ⟨by decide, by decide⟩
  have hpasses : ∀ check, (⟨property, op, .and, t.toValue operand, .null, t.operandType⟩ :
      Criterion).Passes check :=
    Criterion.forall_passes_of_ne (PropertyPath.exists_not_blank_of_plain hpath) hsupports (hne rfl)
      (hne rfl)
  refine predicate_of_memberFormula (described?_of_nullTest?_none htest t property operand) hpasses
    hpath hr ?_
  rw [Criterion.memberFormula_of_scalar (hne rfl) (hne rfl) ht hkind.1 hkind.2,
    Criterion.scalarFormula?_of_comparison? hop, if_pos ⟨ha, hk⟩]
  rfl

/-- The predicate of a range asks for both comparisons, each of which has a predicate. -/
theorem exists_bound_predicates {low high : t.Carrier}
    (hpath : PropertyPath.parse property = .ok (.plain segments))
    (hr : family.resolve i segments rowParameter = .ok r)
    (hp : (Step.between t property low high).predicate family o i = .ok p) :
    ∃ q q', (Step.test .greaterThanOrEqual t property low).predicate family o i = .ok q ∧
      (Step.test .lessThanOrEqual t property high).predicate family o i = .ok q' ∧
      ∀ (ρ : Type) [Record ρ] (row : ρ),
        p.accepts row = true ↔ q.accepts row = true ∧ q'.accepts row = true := by
  have hdescribed : (Step.between t property low high).described? =
      some ⟨property, .between, .and, t.toValue low, t.toValue high, t.operandType⟩ := rfl
  obtain ⟨hpasses, hformula⟩ := memberFormula_of_predicate hdescribed hpath hr hp
  obtain ⟨kind, ht, ha, hk, hf⟩ :=
    (Criterion.memberRule_of_memberFormula hformula).range rfl
  have hsupports : ∀ op ∈ [Operator.greaterThanOrEqual, .lessThanOrEqual],
      t.operandType.supports op = true := by
    intro op hop
    have hrange : t.operandType.supports .between = true := hpasses .operator
    have hmem : Operator.between ∈ t.operandType.kind.operators := by
      simpa [OperandType.supports, OperandType.nullOperators] using hrange
    have hall : ∀ k ∈ Kind.all, Operator.between ∈ k.operators →
        ∀ op ∈ [Operator.greaterThanOrEqual, .lessThanOrEqual], op ∈ k.operators := by decide
    rw [OperandType.supports,
      List.contains_iff_mem.mpr (hall _ t.operandType.kind.mem_all hmem op hop), Bool.true_or]
  refine ⟨_, _, order_predicate rfl hpath hr ht hk ha (hsupports _ (by decide)) low,
    order_predicate rfl hpath hr ht hk ha (hsupports _ (by decide)) high, ?_⟩
  intro ρ _ row
  rw [Predicate.accepts, hf]
  exact holds_range_iff r.nullable (.member r.path) (t.toValue low) (t.toValue high) row

end Lists

/-- **Compound operators are made of simple ones.**

    At a path without brackets, without normalization, and for every record whatever. If a test for
    membership of a list comes to a predicate, for a member that is declared to hold no list of
    values itself, then the test for equality with each item does, and a record is accepted exactly
    if it is by one of these. For the negated test it is the tests for inequality with the items,
    and a record has to be accepted by all of them. The list may be empty and of items of any type;
    equality with an item that is a null is a null test. A range, under any options, accepts what
    both the comparison with its lower and that with its upper bound accept. -/
theorem compound_decomposes {property : String} {segments : List String} {r : ResolvedMember ι}
    (hpath : PropertyPath.parse property = .ok (.plain segments))
    (hr : family.resolve i segments rowParameter = .ok r) :
    (∀ (t : ValueType) (operand : t.Carrier) (item : ValueType) (vs : List item.Carrier)
      (op : Operator) (p : Predicate), t.Lists operand item vs → r.type ≠ .scalar .array →
      op = .isIn ∨ op = .contains →
      (Step.test op t property operand).predicate family ⟨false⟩ i = .ok p →
        (∀ v ∈ vs, ∃ q,
          (Step.test .equal item property v).predicate family ⟨false⟩ i = .ok q) ∧
        ∀ (ρ : Type) [Record ρ] (row : ρ), p.accepts row = true ↔
          ∃ v ∈ vs, (Step.test .equal item property v).Accepts family ⟨false⟩ i row) ∧
    (∀ (t : ValueType) (operand : t.Carrier) (item : ValueType) (vs : List item.Carrier)
      (op : Operator) (p : Predicate), t.Lists operand item vs → r.type ≠ .scalar .array →
      op = .notIn ∨ op = .notContains →
      (Step.test op t property operand).predicate family ⟨false⟩ i = .ok p →
        (∀ v ∈ vs, ∃ q,
          (Step.test .notEqual item property v).predicate family ⟨false⟩ i = .ok q) ∧
        ∀ (ρ : Type) [Record ρ] (row : ρ), p.accepts row = true ↔
          ∀ v ∈ vs, (Step.test .notEqual item property v).Accepts family ⟨false⟩ i row) ∧
    ∀ (o : Options) (t : ValueType) (low high : t.Carrier) (p : Predicate),
      (Step.between t property low high).predicate family o i = .ok p →
        ∃ q q', (Step.test .greaterThanOrEqual t property low).predicate family o i = .ok q ∧
          (Step.test .lessThanOrEqual t property high).predicate family o i = .ok q' ∧
          ∀ (ρ : Type) [Record ρ] (row : ρ),
            p.accepts row = true ↔ q.accepts row = true ∧ q'.accepts row = true := by
  refine ⟨?_, ?_, fun o t low high p hp => exists_bound_predicates hpath hr hp⟩
  · intro t operand item vs op p hlist harray hop hp
    have hpositive : op.isMembership = true ∧ ¬ op.isNegatedMembership = true := by
      rcases hop with rfl | rfl <;> decide
    obtain ⟨hitems, haccepts⟩ := exists_list_predicate hpath hr harray hlist hpositive.1 hp
    refine ⟨hitems, fun ρ _ row => ?_⟩
    rw [haccepts ρ row, if_neg hpositive.2]
  · intro t operand item vs op p hlist harray hop hp
    have hnegated : op.isMembership = true ∧ op.isNegatedMembership = true := by
      rcases hop with rfl | rfl <;> decide
    obtain ⟨hitems, haccepts⟩ := exists_list_predicate hpath hr harray hlist hnegated.1 hp
    refine ⟨fun v hv => ?_, fun ρ _ row => ?_⟩
    · obtain ⟨q, hq⟩ := hitems v hv
      obtain ⟨q', hq', -⟩ := accepts_notEqual_iff hpath v hq
      exact ⟨q', hq'⟩
    · rw [haccepts ρ row, if_pos hnegated.2]
      simp only [not_exists, not_and]
      refine forall₂_congr fun v hv => ?_
      obtain ⟨q, hq⟩ := hitems v hv
      obtain ⟨q', hq', hopposite⟩ := accepts_notEqual_iff hpath v hq
      rw [Step.accepts_iff hq, Step.accepts_iff hq', hopposite ρ row]

end CriteriaSet

namespace Sample

/-- A mark for a note, or none. -/
def mark : ValueType := .optional (.scalar .char)

/-- Notes that are the letter "a", and notes that are missing. -/
def marks : (ValueType.sequence .vector mark).Carrier := ⟨[some 'a', none], rfl⟩

/-- A missing note is in a list of characters with a null, by equality with the null. -/
theorem compound_decomposes_note :
    ∃ p, (CriteriaSet.Step.test .isIn (.sequence .vector mark) "note" marks).predicate shop ⟨false⟩
        .order = .ok p ∧ p.accepts (order (.signed 1) .null) = true ∧
      ∃ v ∈ marks.val, (CriteriaSet.Step.test .equal mark "note" v).Accepts shop ⟨false⟩ .order
        (order (.signed 1) .null) := by
  obtain ⟨p, hp, haccepts⟩ : ∃ p, (CriteriaSet.Step.test .isIn (.sequence .vector mark) "note"
      marks).predicate shop ⟨false⟩ .order = .ok p ∧
        p.accepts (order (.signed 1) .null) = true := ⟨_, rfl, by decide +kernel⟩
  obtain ⟨-, hiff⟩ := (@CriteriaSet.compound_decomposes TypeName shop .order "note" ["note"] _ rfl
    rfl).1 _ marks mark marks.val .isIn p (.sequence .vector mark marks) (by decide) (Or.inl rfl) hp
  exact ⟨p, hp, haccepts, (hiff Row (order (.signed 1) .null)).mp haccepts⟩

end Sample

end Winnow
