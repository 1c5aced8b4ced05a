/-
  What the formulas that compilation makes evaluate to, in terms of what their member holds.

  `Reading.EqualsWith tidy f v` is equality of a reading with an operand: a character counts as its
  text against a text, texts are compared after `tidy`, and all else is equality of readings.
  `equals_sides` and `equals_widenTo` say that the constants and the pairs of terms that
  compilation makes compute it. The section before gives the same for the tests of a text, the
  section after for null tests, guards and negation.
-/
import Winnow.Proofs.Conformance
import Winnow.Predicate.Compile

namespace Winnow

variable {ρ : Type}

/-! ## Equality of readings -/

theorem Scalar.equals_text (a b : String) :
    (Scalar.text a).equals (.text b) = true ↔ a = b := by
  simp [Scalar.equals, Scalar.compare?]

theorem Scalar.equals_enum (a b : UInt64) :
    (Scalar.enum a).equals (.enum b) = true ↔ a = b := by
  simp [Scalar.equals, Scalar.compare?]

theorem Scalar.equals_unsigned (a b : UInt64) :
    (Scalar.number (.unsigned a)).equals (.number (.unsigned b)) = true ↔ a = b := by
  have hword : (a.toNat : Int) = b.toNat ↔ a = b := by rw [Int.ofNat_inj, UInt64.toNat_inj]
  simpa [Scalar.equals, Scalar.compare?, Number.compare?, Number.integer?] using hword

theorem Reading.equals_null_iff (f : Reading ρ) :
    f.equals (.null : Reading ρ) = true ↔ f = .null := by
  cases f <;> simp [Reading.equals]

theorem Reading.null_equals_iff (f : Reading ρ) :
    (Reading.null : Reading ρ).equals f = true ↔ f = .null := by
  cases f <;> simp [Reading.equals]

theorem Scalar.equals_eq_compare? {a b : Scalar} (h : a.kind ≠ .spatial) :
    a.equals b = (a.compare? b == some .eq) := by
  cases a with
  | geometry g => exact absurd rfl h
  | _ => rfl

/-! ## Widened constants -/

/-- The operand as text: a character counts as the text of that character. -/
def Value.asText? : Value → Option String
  | .scalar (.text s) => some s
  | .scalar (.char c) => some (String.singleton c)
  | _ => none

/-- The single values that a text accepts are texts and characters. -/
theorem Value.isSome_asText?_scalar (s : Scalar) :
    (Value.scalar s).asText?.isSome = Kind.text.accepts s.kind := by
  cases s <;> rfl

mutual

theorem Value.widenTo_of_ne_text {kind : Kind} (h : kind ≠ .text) :
    (v : Value) → v.widenTo kind = v
  | .null => rfl
  | .scalar s => by cases s <;> simp [Value.widenTo, h]
  | .list items => congrArg Value.list (Value.widenItems_of_ne_text h items)

theorem Value.widenItems_of_ne_text {kind : Kind} (h : kind ≠ .text) :
    (vs : List Value) → Value.widenTo.widenItems kind vs = vs
  | [] => rfl
  | v :: vs => by
    rw [Value.widenTo.widenItems, Value.widenTo_of_ne_text h v, Value.widenItems_of_ne_text h vs]

end

theorem Value.widenItems_eq_map (kind : Kind) (vs : List Value) :
    Value.widenTo.widenItems kind vs = vs.map (·.widenTo kind) := by
  induction vs with
  | nil => rfl
  | cons v vs ih => rw [Value.widenTo.widenItems, ih, List.map_cons]

theorem Value.widenTo_text_eq_iff {v : Value} {s : String} :
    v.widenTo .text = .scalar (.text s) ↔ v.asText? = some s := by
  cases v with
  | scalar a => cases a <;> simp [Value.widenTo, Value.asText?]
  | _ => simp [Value.widenTo, Value.asText?]

theorem Value.widenTo_eq_list_iff {kind : Kind} {v : Value} {items : List Value} :
    v.widenTo kind = .list items ↔
      ∃ vs, v = .list vs ∧ items = vs.map (·.widenTo kind) := by
  cases v with
  | null => simp [Value.widenTo]
  | scalar a =>
    cases a with
    | char c => by_cases h : kind = .text <;> simp [Value.widenTo, h]
    | _ => simp [Value.widenTo]
  | list vs => simp [Value.widenTo, Value.widenItems_eq_map, eq_comm]

theorem Value.isNull_widenTo (kind : Kind) (v : Value) :
    (v.widenTo kind).isNull = v.isNull := by
  cases v with
  | scalar a =>
    cases a with
    | char c => by_cases h : kind = .text <;> simp [Value.widenTo, h, Value.isNull]
    | _ => rfl
  | _ => rfl

/-- The constant for an operand that is no text is none either. -/
theorem Value.text?_widenTo {v : Value} (h : v.asText? = none) (kind : Kind) :
    (v.widenTo kind).text? = none := by
  cases v with
  | scalar s =>
    cases s with
    | text | char => exact absurd h (by simp [Value.asText?])
    | _ => rfl
  | _ => rfl

theorem Value.isNull_iff {v : Value} : v.isNull = true ↔ v = .null := by
  cases v <;> simp [Value.isNull]

/-- A constant that a member accepts is of the member's kind once it is widened. -/
theorem Value.kind?_widenTo {kind k : Kind} {v : Value} (hv : v.kind? = some k)
    (ha : kind.accepts k = true) : (v.widenTo kind).kind? = some kind := by
  by_cases hk : kind = .text
  · subst hk
    rcases Kind.accepts_iff.mp ha with rfl | ⟨-, rfl⟩
    · cases v with
      | scalar a => cases a <;> simp_all [Value.kind?, Scalar.kind, Value.widenTo]
      | _ => exact absurd hv (by simp [Value.kind?])
    · cases v with
      | scalar a => cases a <;> simp_all [Value.kind?, Scalar.kind, Value.widenTo]
      | _ => exact absurd hv (by simp [Value.kind?])
  · rw [Value.widenTo_of_ne_text hk, hv]
    rcases Kind.accepts_iff.mp ha with rfl | ⟨rfl, -⟩
    · rfl
    · exact absurd rfl hk

/-! ## Equality with an operand -/

/-- How texts are compared: as they are, or without the white space around them and in lower
case. -/
def Options.tidy (o : Options) (s : String) : String :=
  if o.normalizeText then lower (trim s) else s

/-- The reading equals the operand. Two texts are compared after `tidy`, and against a text a
character counts as its text. -/
def Reading.EqualsWith (tidy : String → String) (f : Reading ρ) (v : Value) : Prop :=
  match f, v.asText? with
  | .scalar (.text s), some t => tidy s = tidy t
  | f, _ => f.equals (.ofValue v : Reading ρ) = true

theorem Reading.equalsWith_of_ne_text (tidy : String → String) {f : Reading ρ} (v : Value)
    (hf : f.kind? ≠ some .text) :
    f.EqualsWith tidy v ↔ f.equals (.ofValue v : Reading ρ) = true := by
  cases f with
  | scalar a =>
    cases a with
    | text s => exact absurd rfl hf
    | _ => rfl
  | _ => rfl

theorem Reading.text_equalsWith_of_asText?_none (tidy : String → String) (s : String) {v : Value}
    (hv : v.asText? = none) :
    ¬ (Reading.scalar (.text s) : Reading ρ).EqualsWith tidy v := by
  unfold Reading.EqualsWith
  rw [hv]
  cases v with
  | scalar a =>
    cases a with
    | text t => exact absurd hv (by simp [Value.asText?])
    | _ => simp [Reading.ofValue, Reading.equals, Scalar.equals, Scalar.compare?]
  | _ => simp [Reading.ofValue, Reading.equals]

theorem Reading.equalsWith_null_iff (tidy : String → String) (f : Reading ρ) :
    f.EqualsWith tidy .null ↔ f = .null := by
  unfold Reading.EqualsWith Value.asText?
  simp only [Reading.ofValue]
  exact f.equals_null_iff

theorem Reading.null_equalsWith_iff (tidy : String → String) (v : Value) :
    (Reading.null : Reading ρ).EqualsWith tidy v ↔ v = .null := by
  rw [Reading.equalsWith_of_ne_text tidy v (by simp [Reading.kind?]), Reading.null_equals_iff]
  cases v <;> simp [Reading.ofValue]

/-- A reading of a text that is a text has the kind of texts. -/
theorem Reading.eq_text_of_kind? {f : Reading ρ} (h : f.kind? = some .text) :
    ∃ s, f = .scalar (.text s) := by
  cases f with
  | scalar a => cases a <;> simp_all [Reading.kind?, Scalar.kind]
  | _ => exact absurd h (by simp [Reading.kind?])

/-- What a member of a kind may hold: a null or a value of the kind. -/
def Reading.OfKind (kind : Kind) (f : Reading ρ) : Prop := f = .null ∨ f.kind? = some kind

theorem Reading.OfKind.kind?_ne {kind k : Kind} {f : Reading ρ} (hf : f.OfKind kind)
    (hk : kind ≠ k) : f.kind? ≠ some k := by
  rcases hf with rfl | hf
  · simp [Reading.kind?]
  · rw [hf]
    simpa using hk

theorem Reading.ofKind_enum_iff (f : Reading ρ) :
    f.OfKind .enum ↔ f = .null ∨ ∃ a, f = .scalar (.enum a) := by
  cases f with
  | scalar s => cases s <;> simp [Reading.OfKind, Reading.kind?, Scalar.kind]
  | _ => simp [Reading.OfKind, Reading.kind?]

/-- Widening a constant computes equality with the operand. -/
theorem Reading.equals_widenTo {kind : Kind} {f : Reading ρ} (hf : f.OfKind kind) (v : Value) :
    f.equals (.ofValue (v.widenTo kind) : Reading ρ) = true ↔ f.EqualsWith id v := by
  by_cases hk : kind = .text
  · subst hk
    rcases hf with rfl | hf
    · rw [Reading.null_equalsWith_iff, Reading.null_equals_iff, ← Value.isNull_iff,
        ← Value.isNull_widenTo .text v]
      cases v.widenTo .text <;> simp [Reading.ofValue, Value.isNull]
    · obtain ⟨s, rfl⟩ := Reading.eq_text_of_kind? hf
      cases hv : v.asText? with
      | some t =>
        rw [Value.widenTo_text_eq_iff.mpr hv]
        simp only [Reading.EqualsWith, hv, Reading.ofValue, Reading.equals, id_eq]
        exact Scalar.equals_text s t
      | none =>
        refine iff_of_false ?_ (Reading.text_equalsWith_of_asText?_none id s hv)
        cases v with
        | scalar a =>
          cases a <;> simp_all [Value.asText?, Value.widenTo, Reading.ofValue, Reading.equals,
            Scalar.equals, Scalar.compare?]
        | _ => simp [Value.widenTo, Reading.ofValue, Reading.equals]
  · rw [Value.widenTo_of_ne_text hk, Reading.equalsWith_of_ne_text id v (hf.kind?_ne hk)]

theorem Reading.equalsWith_of_asText?_none (tidy : String → String) (f : Reading ρ) {v : Value}
    (hv : v.asText? = none) :
    f.EqualsWith tidy v ↔ f.equals (.ofValue v : Reading ρ) = true := by
  unfold Reading.EqualsWith
  rw [hv]
  split
  · next h => exact absurd h (by simp)
  · exact Iff.rfl

/-! ## Texts -/

/-- The part stands where the test looks for it. -/
def TextTest.Relates : TextTest → List Char → List Char → Prop
  | .startsWith, part, cs => part <+: cs
  | .endsWith, part, cs => part <:+ cs
  | .contains, part, cs => part <:+: cs

theorem TextTest.holdsOf_iff (t : TextTest) (cs part : List Char) :
    t.holdsOf cs part = true ↔ t.Relates part cs := by
  cases t with
  | startsWith => exact List.isPrefixOf_iff_prefix
  | endsWith => exact List.isSuffixOf_iff_suffix
  | contains => exact occursIn_iff

/-- The reading is a text in which the part stands, both after `tidy`. -/
def Reading.HasPart (tidy : String → String) (t : TextTest) (f : Reading ρ) (part : String) :
    Prop :=
  ∃ s, f = .scalar (.text s) ∧ t.Relates (tidy part).toList (tidy s).toList

theorem Term.onText_id (f : Reading ρ) : Term.onText (fun s => s) f = f := by
  cases f with
  | scalar a => cases a <;> rfl
  | _ => rfl

variable [Record ρ]

open Formula

theorem Criterion.read_sides_fst (o : Options) (m : Term) (s : String) (row : ρ) :
    (Criterion.sides o.normalizeText m (.scalar (.text s))).1.read row =
      Term.onText o.tidy (m.read row) := by
  cases h : o.normalizeText with
  | true =>
    have ht : o.tidy = normalizeText := by
      funext s
      simp [Options.tidy, h, normalizeText]
    rw [ht]
    rfl
  | false =>
    have ht : o.tidy = fun s => s := funext fun s => by simp [Options.tidy, h]
    rw [ht, Term.onText_id]
    rfl

theorem Criterion.read_sides_snd (o : Options) (m : Term) (s : String) (row : ρ) :
    (Criterion.sides o.normalizeText m (.scalar (.text s))).2.read row =
      .scalar (.text (o.tidy s)) := by
  cases h : o.normalizeText <;>
    simp [Criterion.sides, Term.read, Reading.ofValue, Options.tidy, normalizeText, h]

theorem Criterion.sides_of_text?_none (normalize : Bool) (m : Term) {v : Value}
    (hv : v.text? = none) : Criterion.sides normalize m v = (m, .constant v) := by
  cases v with
  | scalar a =>
    cases a <;> cases normalize <;> first | rfl | exact absurd hv (by simp [Value.text?])
  | _ => cases normalize <;> rfl

theorem Criterion.sides_false (m : Term) (v : Value) :
    Criterion.sides false m v = (m, .constant v) := rfl

theorem Formula.holds_textTest_sides (o : Options) (t : TextTest) (m : Term) (part : String)
    (row : ρ) :
    (Formula.textTest t (Criterion.sides o.normalizeText m (.scalar (.text part))).1
        (Criterion.sides o.normalizeText m (.scalar (.text part))).2).holds row = true ↔
      (m.read row).HasPart o.tidy t part := by
  rw [Formula.holds, Criterion.read_sides_fst, Criterion.read_sides_snd]
  unfold Reading.HasPart
  cases m.read row with
  | scalar a =>
    cases a with
    | text s =>
      simp only [Term.onText, TextTest.holds, Reading.text?, TextTest.holdsOf_iff,
        Reading.scalar.injEq, Scalar.text.injEq, exists_eq_left']
    | _ => simp [Term.onText, TextTest.holds, Reading.text?]
  | _ => simp [Term.onText, TextTest.holds, Reading.text?]

/-- The two sides of an equality compute equality with the operand. -/
theorem Criterion.equals_sides (o : Options) {m : Term} {kind : Kind} {row : ρ}
    (hf : (m.read row).OfKind kind) (v : Value) :
    ((sides (o.normalizeText && kind = .text) m (v.widenTo kind)).1.read row).equals
        ((sides (o.normalizeText && kind = .text) m (v.widenTo kind)).2.read row : Reading ρ) =
          true ↔ (m.read row).EqualsWith o.tidy v := by
  by_cases hk : kind = .text
  · subst hk
    have hn : (o.normalizeText && decide (Kind.text = .text)) = o.normalizeText := by simp
    rw [hn]
    cases hv : v.asText? with
    | some t =>
      rw [Value.widenTo_text_eq_iff.mpr hv, read_sides_fst, read_sides_snd]
      rcases hf with hf | hf
      · rw [hf, Reading.null_equalsWith_iff]
        refine iff_of_false (by simp [Term.onText, Reading.equals]) ?_
        rintro rfl
        exact absurd hv (by simp [Value.asText?])
      · obtain ⟨s, hs⟩ := Reading.eq_text_of_kind? hf
        rw [hs]
        simp only [Reading.EqualsWith, hv, Term.onText, Reading.equals]
        exact Scalar.equals_text _ _
    | none =>
      rw [sides_of_text?_none _ m (Value.text?_widenTo hv .text),
        Reading.equalsWith_of_asText?_none o.tidy _ hv,
        ← Reading.equalsWith_of_asText?_none id _ hv]
      exact Reading.equals_widenTo hf v
  · have hn : (o.normalizeText && decide (kind = .text)) = false := by simp [hk]
    have hne : (m.read row).kind? ≠ some .text := hf.kind?_ne hk
    rw [hn, sides_false, Reading.equalsWith_of_ne_text o.tidy v hne,
      ← Reading.equalsWith_of_ne_text id v hne]
    exact Reading.equals_widenTo hf v

/-! ## Null tests, guards and negation -/

theorem Formula.holds_compare_ne (a b : Term) (row : ρ) :
    (Formula.compare .ne a b).holds row = true ↔ ¬ (Formula.compare .eq a b).holds row = true := by
  simp [Formula.holds, Comparison.holds]

theorem Formula.holds_isNull (t : Term) (row : ρ) :
    (isNull t).holds row = true ↔ t.read row = .null :=
  Reading.equals_null_iff _

theorem Formula.holds_isNotNull (t : Term) (row : ρ) :
    (isNotNull t).holds row = true ↔ t.read row ≠ .null := by
  rw [isNotNull, Formula.holds_compare_ne]
  exact not_congr (Formula.holds_isNull t row)

theorem Formula.holds_guardedIf (nullable : Bool) (t : Term) (f : Formula) (row : ρ) :
    (guardedIf nullable t f).holds row = true ↔
      (nullable = true → t.read row ≠ .null) ∧ f.holds row = true := by
  cases nullable with
  | false => simp [guardedIf]
  | true =>
    simp only [guardedIf, if_true, Formula.holds, Bool.and_eq_true, Formula.holds_isNotNull]
    simp

/-- A guard against nulls changes nothing for a formula that fails for a null anyway. -/
theorem Formula.holds_guardedIf_of_imp (nullable : Bool) (t : Term) {f : Formula} {row : ρ}
    (h : f.holds row = true → t.read row ≠ .null) :
    (guardedIf nullable t f).holds row = true ↔ f.holds row = true := by
  rw [Formula.holds_guardedIf]
  constructor
  · exact And.right
  · intro hf
    exact ⟨fun _ => h hf, hf⟩

theorem Formula.holds_negatedIf (negated : Bool) (f : Formula) (row : ρ) :
    (negatedIf negated f).holds row = true ↔
      if negated = true then ¬ f.holds row = true else f.holds row = true := by
  cases negated <;> simp [negatedIf, Formula.holds]

/-- A list that is widened to a member's kind contains what the member holds. -/
theorem Formula.holds_oneOf_widened {m : Term} {kind : Kind} {row : ρ}
    (hf : (m.read row).OfKind kind) (items : List Value) :
    (Formula.oneOf (items.map (·.widenTo kind)) m).holds row = true ↔
      ∃ v ∈ items, (m.read row).EqualsWith id v := by
  rw [Formula.holds, List.any_map, List.any_eq_true]
  refine exists_congr fun v => and_congr_right fun _ => ?_
  rw [← Reading.equals_widenTo hf v, Reading.equals_comm]
  exact Iff.rfl

end Winnow
