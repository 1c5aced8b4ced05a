/-
  What a criterion means, and that its predicate decides it.

  `Criterion.Meaning o c f` is the meaning of an operator on what the member holds, said without
  formulas: null tests, equality, parts of texts, order, ranges, membership, flags, blank texts
  and relations of geometries. Texts are compared as they are or, if the options say so, trimmed and
  in lower case (`Options.tidy`); blank texts, lists and the empty text are taken as they are. A
  null equals only a null, has no part, is in no order and is no geometry; the negated tests of a
  text fail for it as well.

  `accepts_iff_meaning`: for a built criterion that compiles at a path to a single value, and for
  every record that conforms, the predicate accepts the record exactly if the criterion's meaning
  holds of what the record holds along the path. Guards against nulls stand only where a path is
  nullable: for the negated tests of a text the proof needs that a conforming record holds no null
  elsewhere.

  One lemma for each group of rules (`ScalarRule.holds_iff`, `EnumRule.holds_iff`,
  `SpatialRule.holds_iff`), each by the cases of the rules.
-/
import Winnow.Proofs.Compilation
import Winnow.Proofs.Construction
import Winnow.Proofs.Evaluation

namespace Winnow

variable {ι ρ : Type}

/-! ## The meaning of the operators -/

/-- The reading is in an order with the operand. -/
def Reading.ComparesAs (o : Ordering) (f : Reading ρ) (v : Value) : Prop :=
  f.compare? (.ofValue v : Reading ρ) = some o

/-- The flags of the reading are all among those of the operand. No flags at all, as an operand,
ask for nothing. -/
def Reading.FlagsWithin (f : Reading ρ) (v : Value) : Prop :=
  v = .null ∨ ∃ a b, f = .scalar (.enum a) ∧ v = .scalar (.enum b) ∧ a ||| b = b

/-- What the operators of membership ask: the reading is an item of a list, has the operand as a
part of its text, or has its flags among the operand's. -/
def Reading.MemberOf (tidy : String → String) (f : Reading ρ) (v : Value) : Prop :=
  match v, v.asText? with
  | .list items, _ => ∃ item ∈ items, f.EqualsWith id item
  | _, some part => f.HasPart tidy .contains part
  | _, none => f.FlagsWithin v

/-- What the negated operators of membership ask: the opposite, but of a text only where there is
one. -/
def Reading.NotMemberOf (tidy : String → String) (f : Reading ρ) (v : Value) : Prop :=
  (v.asText?.isSome = true → f ≠ .null) ∧ ¬ f.MemberOf tidy v

/-- The reading is a geometry, and passes the test against the operand. -/
def SpatialTest.Passes (t : SpatialTest) (f : Reading ρ) (v bound : Value) : Prop :=
  ∃ g other, f = .scalar (.geometry g) ∧ v = .scalar (.geometry other) ∧
    match t with
    | .relation r => r.holds g other = true
    | .isWithinDistance =>
      ∃ n, bound.number? = some n ∧ g.isWithinDistance other n.toDouble = true

/-- What a criterion says of the reading of its member. -/
def Criterion.Meaning (o : Options) (c : Criterion) (f : Reading ρ) : Prop :=
  match c.operator with
  | .equal => f.EqualsWith o.tidy c.value
  | .notEqual => ¬ f.EqualsWith o.tidy c.value
  | .startsWith => ∃ part, c.value.asText? = some part ∧ f.HasPart o.tidy .startsWith part
  | .endsWith => ∃ part, c.value.asText? = some part ∧ f.HasPart o.tidy .endsWith part
  | .greaterThan => f.ComparesAs .gt c.value
  | .greaterThanOrEqual => f.ComparesAs .gt c.value ∨ f.ComparesAs .eq c.value
  | .lessThan => f.ComparesAs .lt c.value
  | .lessThanOrEqual => f.ComparesAs .lt c.value ∨ f.ComparesAs .eq c.value
  | .between =>
    (f.ComparesAs .gt c.value ∨ f.ComparesAs .eq c.value) ∧
      (f.ComparesAs .lt c.value2 ∨ f.ComparesAs .eq c.value2)
  | .isNull => f = .null
  | .isNotNull => f ≠ .null
  | .isEmpty => f = .scalar (.text "")
  | .isNotEmpty => f ≠ .scalar (.text "")
  | .isNullOrWhiteSpace =>
    f = .null ∨ ∃ s, f = .scalar (.text s) ∧ ∀ ch ∈ s.toList, isBlank ch = true
  | .isNotNullOrWhiteSpace =>
    ∃ s, f = .scalar (.text s) ∧ ∃ ch ∈ s.toList, isBlank ch = false
  | .isIn | .contains => f.MemberOf o.tidy c.value
  | .notIn | .notContains => f.NotMemberOf o.tidy c.value
  | op => ∃ t, SpatialTest.ofOperator? op = some t ∧ t.Passes f c.value c.value2

/-! ## The parts of the meaning, computed -/

theorem Comparison.holds_gt_iff {σ : Type} (f : Reading ρ) (g : Reading σ) :
    Comparison.gt.holds f g = true ↔ f.compare? g = some .gt := by
  cases h : f.compare? g with
  | none => simp [Comparison.holds, h]
  | some o => cases o <;> simp [Comparison.holds, h, Comparison.accepts]

theorem Comparison.holds_ge_iff {σ : Type} (f : Reading ρ) (g : Reading σ) :
    Comparison.ge.holds f g = true ↔ f.compare? g = some .gt ∨ f.compare? g = some .eq := by
  cases h : f.compare? g with
  | none => simp [Comparison.holds, h]
  | some o => cases o <;> simp [Comparison.holds, h, Comparison.accepts]

theorem Comparison.holds_lt_iff {σ : Type} (f : Reading ρ) (g : Reading σ) :
    Comparison.lt.holds f g = true ↔ f.compare? g = some .lt := by
  cases h : f.compare? g with
  | none => simp [Comparison.holds, h]
  | some o => cases o <;> simp [Comparison.holds, h, Comparison.accepts]

theorem Comparison.holds_le_iff {σ : Type} (f : Reading ρ) (g : Reading σ) :
    Comparison.le.holds f g = true ↔ f.compare? g = some .lt ∨ f.compare? g = some .eq := by
  cases h : f.compare? g with
  | none => simp [Comparison.holds, h]
  | some o => cases o <;> simp [Comparison.holds, h, Comparison.accepts]

/-- No comparison by order holds of a null. -/
theorem Comparison.ne_null_of_holds {comparison : Comparison} {op : Operator}
    (hop : op.comparison? = some comparison) {f g : Reading ρ}
    (h : comparison.holds f g = true) : f ≠ .null := by
  rintro rfl
  cases op <;> simp [Operator.comparison?] at hop <;> subst hop <;>
    simp [Comparison.holds, Reading.compare?] at h

theorem Reading.equals_text_iff (f : Reading ρ) (s : String) :
    f.equals (.scalar (.text s) : Reading ρ) = true ↔ f = .scalar (.text s) := by
  cases f with
  | scalar a =>
    cases a with
    | text t => simp [Reading.equals, Scalar.equals_text]
    | _ => simp [Reading.equals, Scalar.equals, Scalar.compare?]
  | _ => simp [Reading.equals]

/-- Nothing is left of a text without the white space around it if there is nothing else. -/
theorem trim_eq_empty_iff (s : String) : trim s = "" ↔ ∀ ch ∈ s.toList, isBlank ch = true := by
  have htrim : trim s = "" ↔ trimChars s.toList = [] := by
    rw [← String.toList_inj, toList_trim]
    rfl
  rw [htrim, trimChars_eq_nil_iff]

/-! ## Single values that are neither enums nor geometries -/

namespace Criterion

open Formula

/-- The meaning of the operators of membership, negated or not. -/
theorem meaning_of_isMembership {c : Criterion} (hop : c.operator.isMembership = true)
    (o : Options) (f : Reading ρ) :
    c.Meaning o f ↔ if c.operator.isNegatedMembership = true then f.NotMemberOf o.tidy c.value
      else f.MemberOf o.tidy c.value := by
  unfold Meaning
  cases h : c.operator <;> simp_all [Operator.isMembership, Operator.isNegatedMembership]

theorem meaning_of_comparison? {c : Criterion} {comparison : Comparison}
    (hop : c.operator.comparison? = some comparison) (o : Options) (f : Reading ρ) :
    comparison.holds f (.ofValue c.value : Reading ρ) = true ↔ c.Meaning o f := by
  unfold Meaning Reading.ComparesAs
  cases h : c.operator <;> rw [h] at hop <;> simp only [Operator.comparison?, reduceCtorEq,
    Option.some.injEq] at hop <;> subst hop
  · exact Comparison.holds_gt_iff f _
  · exact Comparison.holds_ge_iff f _
  · exact Comparison.holds_lt_iff f _
  · exact Comparison.holds_le_iff f _

theorem meaning_of_affix? {c : Criterion} {t : TextTest} (hop : c.operator.affix? = some t)
    (o : Options) (f : Reading ρ) :
    c.Meaning o f ↔ ∃ part, c.value.asText? = some part ∧ f.HasPart o.tidy t part := by
  unfold Meaning
  cases h : c.operator <;> simp_all [Operator.affix?]

variable [Record ρ]

theorem holds_equalFormula (o : Options) {m : Term} {kind : Kind} {row : ρ}
    (hf : (m.read row).OfKind kind) (nullable : Bool) (v : Value) :
    (equalFormula (o.normalizeText && kind = .text) nullable m (v.widenTo kind)).holds row =
      true ↔ (m.read row).EqualsWith o.tidy v := by
  unfold equalFormula
  rw [Value.isNull_widenTo]
  split
  · next hv =>
    rw [Value.isNull_iff.mp hv, Reading.equalsWith_null_iff, holds_isNull]
  · next hv =>
    have hcompare : (Formula.compare .eq
        (sides (o.normalizeText && kind = .text) m (v.widenTo kind)).1
        (sides (o.normalizeText && kind = .text) m (v.widenTo kind)).2).holds row = true ↔
          (m.read row).EqualsWith o.tidy v := equals_sides o hf v
    rw [← hcompare]
    refine holds_guardedIf_of_imp nullable m ?_
    intro h hnull
    have heq := hcompare.mp h
    rw [hnull, Reading.null_equalsWith_iff] at heq
    exact hv (Value.isNull_iff.mpr heq)

theorem holds_notEqualFormula (o : Options) {m : Term} {kind : Kind} {row : ρ}
    (hf : (m.read row).OfKind kind) (nullable : Bool) (v : Value) :
    (notEqualFormula (o.normalizeText && kind = .text) nullable m (v.widenTo kind)).holds row =
      true ↔ ¬ (m.read row).EqualsWith o.tidy v := by
  unfold notEqualFormula
  rw [Value.isNull_widenTo]
  split
  · next hv =>
    rw [Value.isNull_iff.mp hv, Reading.equalsWith_null_iff, holds_isNotNull]
  · next hv =>
    have hcompare : (Formula.compare .ne
        (sides (o.normalizeText && kind = .text) m (v.widenTo kind)).1
        (sides (o.normalizeText && kind = .text) m (v.widenTo kind)).2).holds row = true ↔
          ¬ (m.read row).EqualsWith o.tidy v := by
      rw [holds_compare_ne]
      exact not_congr (equals_sides o hf v)
    dsimp only
    split
    · -- The null test in front adds nothing: a null differs from every value.
      rw [Formula.holds, Bool.or_eq_true, hcompare, holds_isNull]
      constructor
      · rintro (hnull | h)
        · rw [hnull, Reading.null_equalsWith_iff]
          exact fun hn => hv (Value.isNull_iff.mpr hn)
        · exact h
      · exact Or.inr
    · exact hcompare

theorem ne_text_of_isOrdered {kind : Kind} (hk : kind.isOrdered = true) : kind ≠ .text := by
  rintro rfl
  exact absurd hk (by decide)

theorem holds_trim_empty (m : Term) (row : ρ) :
    (Formula.compare .eq (.trim m) emptyText).holds row = true ↔
      ∃ s, m.read row = .scalar (.text s) ∧ ∀ ch ∈ s.toList, isBlank ch = true := by
  show ((Term.onText Winnow.trim (m.read row)).equals (.scalar (.text "") : Reading ρ)) = true ↔ _
  rw [Reading.equals_text_iff]
  cases m.read row with
  | scalar a =>
    cases a with
    | text s => simp [Term.onText, trim_eq_empty_iff]
    | _ => simp [Term.onText]
  | _ => simp [Term.onText]

/-- Each rule for a single value decides the meaning of the criterion. -/
theorem ScalarRule.holds_iff {o : Options} {m : Term} {kind : Kind} {nullable : Bool}
    {c : Criterion} {f : Formula} (hrule : ScalarRule o m kind nullable c f) {row : ρ}
    (hf : (m.read row).OfKind kind)
    (hnull : m.read row = .null → nullable = true) :
    f.holds row = true ↔ c.Meaning o (m.read row) := by
  cases hrule with
  | equal hop =>
    rw [holds_equalFormula o hf, Meaning, hop]
  | notEqual hop =>
    rw [holds_notEqualFormula o hf, Meaning, hop]
  | affix t s hop hk hv =>
    subst hk
    rw [meaning_of_affix? hop, Formula.holds, Bool.and_eq_true, holds_isNotNull,
      holds_textTest_sides, Value.widenTo_text_eq_iff.mp hv]
    constructor
    · rintro ⟨-, hpart⟩
      exact ⟨s, rfl, hpart⟩
    · rintro ⟨part, hpart, h⟩
      injection hpart with hpart
      subst hpart
      obtain ⟨text, htext, _⟩ := id h
      exact ⟨by rw [htext]; simp, h⟩
  | order comparison hop hk =>
    rw [Value.widenTo_of_ne_text (ne_text_of_isOrdered hk), ← meaning_of_comparison? hop]
    exact holds_guardedIf_of_imp nullable m (Comparison.ne_null_of_holds hop)
  | range hop hk hhigh =>
    have hne := ne_text_of_isOrdered hk
    rw [Value.widenTo_of_ne_text hne, Value.widenTo_of_ne_text hne, Meaning, hop]
    have hrange : (rangeFormula m c.value c.value2).holds row = true ↔
        ((m.read row).ComparesAs .gt c.value ∨ (m.read row).ComparesAs .eq c.value) ∧
          ((m.read row).ComparesAs .lt c.value2 ∨ (m.read row).ComparesAs .eq c.value2) := by
      rw [rangeFormula, Formula.holds, Bool.and_eq_true]
      exact and_congr (Comparison.holds_ge_iff _ _) (Comparison.holds_le_iff _ _)
    rw [← hrange]
    refine holds_guardedIf_of_imp nullable m ?_
    intro h hn
    rw [hrange, hn] at h
    simp [Reading.ComparesAs, Reading.compare?] at h
  | empty hop hk =>
    rw [Meaning, hop]
    exact Reading.equals_text_iff _ _
  | notEmpty hop hk =>
    rw [Meaning, hop, holds_compare_ne]
    exact not_congr (Reading.equals_text_iff _ _)
  | blank hop hk =>
    rw [Meaning, hop, Formula.holds, Bool.or_eq_true, holds_isNull, holds_trim_empty]
  | notBlank hop hk =>
    rw [Meaning, hop, Formula.holds, Bool.and_eq_true, holds_isNotNull, holds_compare_ne,
      holds_trim_empty]
    subst hk
    rcases hf with hf | hf
    · simp [hf]
    · obtain ⟨s, hs⟩ := Reading.eq_text_of_kind? hf
      simp [hs]
  | oneOf items hop hv =>
    obtain ⟨vs, hvs, rfl⟩ := Value.widenTo_eq_list_iff.mp hv
    rw [meaning_of_isMembership hop, holds_negatedIf, holds_oneOf_widened hf, hvs]
    simp [Reading.NotMemberOf, Reading.MemberOf, Value.asText?]
  | contains s hop hk hv =>
    subst hk
    have hpart := Value.widenTo_text_eq_iff.mp hv
    have hmember : (m.read row).MemberOf o.tidy c.value ↔
        (m.read row).HasPart o.tidy .contains s := by
      unfold Reading.MemberOf
      rw [hpart]
      cases hc : c.value with
      | list items => rw [hc] at hpart; exact absurd hpart (by simp [Value.asText?])
      | _ => exact Iff.rfl
    rw [meaning_of_isMembership hop, Reading.NotMemberOf, hmember, hpart]
    split
    · rw [holds_guardedIf, Formula.holds, Bool.not_eq_true', ← Bool.not_eq_true,
        holds_textTest_sides]
      refine and_congr_left fun _ => ?_
      constructor
      · intro h _ hn
        exact h (hnull hn) hn
      · intro h _
        exact h rfl
    · exact holds_textTest_sides o .contains m s row

/-! ## Operands for texts and enums -/

theorem Sound.accepts_of_asText? {c : Criterion} (h : c.Sound) {part : String}
    (hpart : c.value.asText? = some part) : Kind.text.accepts c.operandKind = true := by
  cases hv : c.value with
  | scalar s =>
    rw [← h.kind_eq_operandKind hv, ← Value.isSome_asText?_scalar, ← hv, hpart]
    rfl
  | _ => exact absurd hpart (by simp [hv, Value.asText?])

/-- Neither a list nor a text, but accepted for a text, is only a null. -/
theorem Sound.eq_null_of_asText?_none {c : Criterion} (h : c.Sound)
    (hitems : c.value.items? = none) (hpart : c.value.asText? = none)
    (ha : Kind.text.accepts c.operandKind = true) : c.value = .null := by
  cases hv : c.value with
  | null => rfl
  | list items => exact absurd hitems (by simp [hv, Value.items?])
  | scalar s =>
    rw [← h.kind_eq_operandKind hv, ← Value.isSome_asText?_scalar, ← hv, hpart] at ha
    exact absurd ha (by decide)

/-- An operand that is compared to an enum is a null or an enum itself. -/
theorem Sound.enum_operand {c : Criterion} (h : c.Sound) (hk : c.operandKind = .enum)
    (hv : c.value.items? = none) : c.value = .null ∨ ∃ b, c.value = .scalar (.enum b) := by
  rcases h.kind_of_items?_none hv with hnull | hkind
  · exact Or.inl hnull
  · rw [hk] at hkind
    cases hc : c.value with
    | scalar s =>
      rw [hc] at hkind
      cases s with
      | enum b => exact Or.inr ⟨b, rfl⟩
      | _ => exact absurd hkind (by simp [Value.kind?, Scalar.kind])
    | _ =>
      rw [hc] at hkind
      exact absurd hkind (by simp [Value.kind?])

theorem holds_bits_equal (m : Term) (v : Value) (row : ρ)
    (hf : m.read row = .null ∨ ∃ a, m.read row = .scalar (.enum a))
    (hv : v = .null ∨ ∃ b, v = .scalar (.enum b)) (tidy : String → String) :
    (Formula.compare .eq (.bits m) (.bits (.constant v))).holds row = true ↔
      (m.read row).EqualsWith tidy v := by
  rcases hf with hf | ⟨a, hf⟩ <;> rcases hv with rfl | ⟨b, rfl⟩ <;>
    simp [Formula.holds, Comparison.holds, Term.read, hf, Term.bitsOf, Reading.ofValue,
      Reading.equals, Reading.EqualsWith, Value.asText?, Scalar.equals_enum,
      Scalar.equals_unsigned]

/-- The bits of a null are a null, and two nulls are equal: a null operand asks for nothing. -/
theorem holds_flagsFormula_iff (m : Term) {v : Value}
    (hv : v = .null ∨ ∃ b, v = .scalar (.enum b)) (row : ρ) :
    (flagsFormula m v).holds row = true ↔ (m.read row).FlagsWithin v := by
  by_cases hread : ∃ a, m.read row = .scalar (.enum a)
  · obtain ⟨a, hread⟩ := hread
    rcases hv with rfl | ⟨b, rfl⟩ <;>
      simp [flagsFormula, Formula.holds, Comparison.holds, Term.read, hread, Term.bitsOf,
        Term.unionOf, Reading.ofValue, Reading.equals, Reading.FlagsWithin,
        Scalar.equals_unsigned]
  · -- Only enums have bits.
    have hne := not_exists.mp hread
    rcases hv with rfl | ⟨b, rfl⟩ <;>
      simp [flagsFormula, Formula.holds, Comparison.holds, Term.read, hne, Term.bitsOf,
        Term.unionOf, Reading.ofValue, Reading.equals, Reading.FlagsWithin]

theorem EnumRule.holds_iff {m : Term} {c : Criterion} {f : Formula} (hrule : EnumRule m c f)
    (hc : c.Sound) (hk : c.operandKind = .enum) (o : Options) {row : ρ}
    (hf : (m.read row).OfKind .enum) : f.holds row = true ↔ c.Meaning o (m.read row) := by
  have hread := (Reading.ofKind_enum_iff _).mp hf
  cases hrule with
  | equal hop =>
    have hv := hc.enum_operand hk (hc.items?_of_equality (Or.inl hop))
    rw [Meaning, hop, holds_bits_equal m c.value row hread hv o.tidy]
  | notEqual hop =>
    have hv := hc.enum_operand hk (hc.items?_of_equality (Or.inr hop))
    rw [Meaning, hop, holds_compare_ne, holds_bits_equal m c.value row hread hv o.tidy]
  | oneOf items hop hv =>
    have hmap : items.map (·.widenTo .enum) = items := by
      rw [← Value.widenItems_eq_map]
      exact Value.widenItems_of_ne_text (by decide) items
    rw [meaning_of_isMembership hop, holds_negatedIf, ← hmap,
      holds_oneOf_widened hf, hv]
    simp [Reading.NotMemberOf, Reading.MemberOf, Value.asText?]
  | flags hop hv =>
    have hvalue := hc.enum_operand hk hv
    have htext : c.value.asText? = none := by
      rcases hvalue with hvalue | ⟨b, hvalue⟩ <;> rw [hvalue] <;> rfl
    have hflags : (flagsFormula m c.value).holds row = true ↔
        (m.read row).MemberOf o.tidy c.value := by
      rw [holds_flagsFormula_iff m hvalue]
      rcases hvalue with hvalue | ⟨b, hvalue⟩ <;> rw [hvalue] <;> exact Iff.rfl
    rw [meaning_of_isMembership hop, holds_negatedIf, hflags, Reading.NotMemberOf, htext]
    simp

/-! ## Geometries -/

theorem SpatialRule.holds_iff {m : Term} {c : Criterion} {f : Formula}
    (hrule : SpatialRule m c f) (o : Options) (row : ρ) :
    f.holds row = true ↔ c.Meaning o (m.read row) := by
  cases hrule with
  | test t g hop hv =>
    have hmeaning : c.Meaning o (m.read row) ↔ t.Passes (m.read row) c.value c.value2 := by
      unfold Meaning
      cases h : c.operator <;> rw [h] at hop <;>
        simp_all [SpatialTest.ofOperator?]
    rw [hmeaning, SpatialTest.Passes, hv]
    rw [Formula.holds, Bool.and_eq_true, holds_isNotNull, Formula.holds]
    cases m.read row with
    | scalar s =>
      cases s with
      | geometry subject =>
        cases t with
        | relation r => simp [passes, SpatialTest.holds]
        | isWithinDistance =>
          cases hn : c.value2.number? <;> simp [passes, SpatialTest.holds, distance?, hn]
      | _ => simp [passes]
    | _ => simp [passes]

/-! ## Members -/

/-- Whatever rule a formula for a single value comes from, it decides the meaning of the
criterion. -/
theorem MemberRule.holds_iff {o : Options} {r : ResolvedMember ι} {c : Criterion} {f : Formula}
    (hrule : MemberRule o r c f) (hc : c.Sound) {kind : Kind} (ht : r.type = .scalar kind)
    {row : ρ} (hf : (r.path.read row).OfKind kind)
    (hnull : r.path.read row = .null → r.nullable = true) :
    f.holds row = true ↔ c.Meaning o (r.path.read row) := by
  cases hrule with
  | isNull hop =>
    rw [holds_isNull, Meaning, hop]
    exact Iff.rfl
  | isNotNull hop =>
    rw [holds_isNotNull, Meaning, hop]
    exact Iff.rfl
  | enum ht' hk hf' =>
    have hkind : kind = .enum := MemberType.scalar.inj (ht.symm.trans ht')
    subst hkind
    exact hf'.holds_iff hc hk o hf
  | spatial ht' hf' => exact hf'.holds_iff o row
  | scalar kind' ht' _ _ hf' =>
    have hkind : kind = kind' := MemberType.scalar.inj (ht.symm.trans ht')
    subst hkind
    exact hf'.holds_iff hf hnull

/-- **A compiled criterion decides its meaning.**

    For a built criterion that compiles at a path without brackets to a single value, under
    either way of comparing texts, and for a record that conforms: the predicate accepts the
    record exactly if what the operator means holds of the value that the record holds along the
    path, a null if a record on the way is null. -/
theorem accepts_iff_meaning {family : Family ι} {o : Options} {i : ι} {c : Criterion}
    {segments : List String} {r : ResolvedMember ι} {kind : Kind} {p : Predicate} {row : ρ}
    (hc : c.Built) (hpath : PropertyPath.parse c.property = .ok (.plain segments))
    (hr : family.resolve i segments rowParameter = .ok r) (ht : r.type = .scalar kind)
    (hp : Predicate.compile family o i ⟨[c]⟩ = .ok p) (hrow : family.Conforms i row) :
    p.accepts row = true ↔ c.Meaning o (family.valueAt i segments row) := by
  rw [Predicate.compile_singleton_eq_ok_iff, compile_of_plain hpath] at hp
  obtain ⟨r', hr', hm⟩ := compileAt_eq_ok_iff.mp hp
  rw [hr] at hr'
  injection hr' with hr'
  subst hr'
  have hreaches := Family.resolve_eq_ok_iff.mp hr
  have hvalue := hreaches.scalar_valueAt ht hrow
  rw [← hreaches.read_eq_valueAt row] at hvalue ⊢
  refine (memberRule_of_memberFormula hm).holds_iff hc.sound ht (hvalue.imp_left And.left) ?_
  intro hnull
  rcases hvalue with hvalue | hvalue
  · exact hvalue.2
  · rw [hnull] at hvalue
    exact absurd hvalue (by simp [Reading.kind?])

end Criterion

namespace Sample

theorem accepts_iff_meaning_stranger :
    (cityWithout "lis").Built ∧
      PropertyPath.parse "address.city" = .ok (.plain ["address", "city"]) ∧
      shop.Conforms .person stranger ∧
      ∃ p, Predicate.compile shop ⟨true⟩ .person ⟨[cityWithout "lis"]⟩ = .ok p ∧
        (p.accepts stranger = true ↔
          (cityWithout "lis").Meaning ⟨true⟩
            (shop.valueAt .person ["address", "city"] stranger)) :=
  ⟨built_cityWithout "lis", rfl, conforms_stranger, _, rfl,
    Criterion.accepts_iff_meaning (built_cityWithout "lis") rfl rfl rfl rfl conforms_stranger⟩

end Sample

end Winnow
