/-
  Criteria are well typed from the moment they exist.

  A criterion can be obtained in a few ways only: it is built for an operand, it is built for a
  type without an operand, or it is taken out of a set, which steps lead to (`Obtained`). Whatever
  the way, its path is not blank, its type supports its operator, its operand is of the recorded
  kind and the items of a list of the recorded item kind, and the second value is the upper bound
  or the distance that the operator needs (`WellTyped`).

  What is checked is stated apart from the code that checks it: three checks in an order, each
  with the error that it reports (`Passes`, `errorOf`). `Decides` says that a construction
  succeeds exactly if all checks pass, and otherwise reports the first that does not. What a step
  describes before it is checked is `Step.described?`; each method describes a criterion of the
  operator that it is named for (`operator_of_method`).
  `obtained_wellTyped`, the main statement, joins both: every criterion that can be obtained is
  well typed, and every construction and every step is decided by the checks.
-/
import Winnow.Proofs.Construction

namespace Winnow

/-! ## The checks -/

/-- What is checked when a criterion is built. -/
inductive Check where
  | property
  | operator
  | value2
  deriving DecidableEq, Repr

/-- The place of a check in the order of the checks. -/
def Check.index : Check → Nat
  | property => 0
  | operator => 1
  | value2 => 2

namespace Criterion

/-- The criterion, as it is described, passes a check. -/
def Passes (c : Criterion) : Check → Prop
  | .property => ∃ ch ∈ c.property.toList, isBlank ch = false
  | .operator => c.type.supports c.operator = true
  | .value2 =>
    (c.operator = .between → c.value2.kind? = some c.operandKind) ∧
      (c.operator = .isWithinDistance → ∃ n, c.value2 = .scalar (.number n))

/-- The error that is reported for a check. A range that has no upper bound at all has an error
of its own. -/
def errorOf (c : Criterion) : Check → Error
  | .property => .invalidArgument .blankProperty
  | .operator => .unsupportedOperation c.operator c.type.name
  | .value2 =>
    if c.operator = .isWithinDistance then .invalidArgument .noDistance
    else if c.value2.isNull then .invalidArgument .noUpperBound
    else .unsupportedOperation c.operator c.type.name

/-- The check is the first in order that the criterion does not pass. -/
def FirstViolated (c : Criterion) (k : Check) : Prop :=
  ¬ c.Passes k ∧ ∀ j, j.index < k.index → c.Passes j

/-- A construction from the described criterion succeeds exactly if all checks pass, and gives
the whole that the criterion is part of; otherwise it reports the first check that is
violated. -/
def Decides {α : Type} (c : Criterion) (whole : Criterion → α) (x : Except Error α) : Prop :=
  (∀ a, x = .ok a ↔ (∀ k, c.Passes k) ∧ a = whole c) ∧
    ∀ e, x = .error e ↔ ∃ k, c.FirstViolated k ∧ e = c.errorOf k

theorem forall_check_iff {p : Check → Prop} :
    (∀ k, p k) ↔ p .property ∧ p .operator ∧ p .value2 := by
  constructor
  · exact fun h => ⟨h _, h _, h _⟩
  · rintro ⟨hp, ho, hv⟩ (_ | _ | _)
    · exact hp
    · exact ho
    · exact hv

/-- Only ranges and bounded distances have something to check about the second value. -/
theorem forall_passes_of_ne {c : Criterion}
    (hproperty : ∃ ch ∈ c.property.toList, isBlank ch = false)
    (hoperator : c.type.supports c.operator = true) (hbetween : c.operator ≠ .between)
    (hdistance : c.operator ≠ .isWithinDistance) (k : Check) : c.Passes k :=
  forall_check_iff.mpr
    ⟨hproperty, hoperator, fun h => absurd h hbetween, fun h => absurd h hdistance⟩ k

/-! ## What the code checks -/

theorem isBlankText_iff {s : String} :
    isBlankText s = true ↔ ¬ ∃ ch ∈ s.toList, isBlank ch = false := by
  rw [isBlankText, List.isEmpty_iff, trimChars_eq_nil_iff]
  simp

/-- Ranges are supported for kinds with an order only, and these accept no kind but
themselves. -/
theorem operandKind_accepts_iff {t : OperandType} (h : t.supports .between = true) {k : Kind} :
    t.operandKind.accepts k = true ↔ k = t.operandKind := by
  have hk : t.kind ≠ .array ∧ t.kind ≠ .text := by
    unfold OperandType.supports at h
    constructor <;>
      (intro ht; rw [ht] at h; simp [Kind.operators, OperandType.nullOperators] at h)
  rw [OperandType.operandKind_of_ne_array hk.1, Kind.accepts_iff]
  simp [hk.2]

theorem number?_isSome_iff {v : Value} :
    v.number?.isSome = true ↔ ∃ n, v = .scalar (.number n) := by
  cases v with
  | scalar s => cases s <;> simp [Value.number?]
  | _ => simp [Value.number?]

/-- Once the operator is supported, the second value is at fault exactly if the criterion does
not pass the last check. -/
theorem secondFault?_of_supports {c : Criterion} (h : c.Passes .operator) :
    (c.Passes .value2 → secondFault? c.type c.operator c.value2 = none) ∧
      (¬ c.Passes .value2 →
        secondFault? c.type c.operator c.value2 = some (c.errorOf .value2)) := by
  cases hop : c.operator
  case between =>
    have hsupports : c.type.supports .between = true := by
      rw [← hop]
      exact h
    cases hk : c.value2.kind? with
    | none =>
      rw [Value.kind?_eq_none_iff] at hk
      simp [Passes, errorOf, secondFault?, hop, hk, Value.kind?, Value.isNull]
    | some k =>
      have hnull : c.value2.isNull = false := by
        cases hv : c.value2 with
        | null => rw [hv] at hk; exact absurd hk (by simp [Value.kind?])
        | _ => rfl
      have haccepts := operandKind_accepts_iff (k := k) hsupports
      by_cases hkind : k = c.type.operandKind
      · simp [Passes, secondFault?, hop, hk, operandKind, hkind, Kind.accepts_self]
      · simp [Passes, errorOf, secondFault?, hop, hk, hnull, operandKind, hkind, haccepts]
  case isWithinDistance =>
    simp only [Passes, errorOf, secondFault?, hop, ← number?_isSome_iff]
    cases c.value2.number?.isSome <;> simp
  all_goals simp [Passes, secondFault?, hop]

/-- A construction fails exactly if some check is violated, with the error of the first such
check. -/
theorem fault?_cases (c : Criterion) :
    ((∀ k, c.Passes k) ∧ fault? c.type c.property c.operator c.value2 = none) ∨
      ∃ k, c.FirstViolated k ∧
        fault? c.type c.property c.operator c.value2 = some (c.errorOf k) := by
  unfold fault?
  by_cases hp : c.Passes .property
  · rw [if_neg (fun hb => isBlankText_iff.mp hb hp)]
    by_cases ho : c.Passes .operator
    · have hs : c.type.supports c.operator = true := ho
      rw [hs]
      by_cases hv : c.Passes .value2
      · exact Or.inl ⟨forall_check_iff.mpr ⟨hp, ho, hv⟩, (secondFault?_of_supports ho).1 hv⟩
      · refine Or.inr ⟨.value2, ⟨hv, ?_⟩, (secondFault?_of_supports ho).2 hv⟩
        rintro (_ | _ | _) hj
        · exact hp
        · exact ho
        · exact absurd hj (Nat.lt_irrefl _)
    · refine Or.inr ⟨.operator, ⟨ho, ?_⟩, ?_⟩
      · rintro (_ | _ | _) hj
        · exact hp
        · exact absurd hj (Nat.lt_irrefl _)
        · exact absurd hj (by decide)
      · have hs : c.type.supports c.operator = false := Bool.eq_false_iff.mpr ho
        rw [hs]
        rfl
  · refine Or.inr ⟨.property, ⟨hp, fun j hj => absurd hj (Nat.not_lt_zero _)⟩, ?_⟩
    rw [if_pos (isBlankText_iff.mpr hp)]
    rfl

/-- No two checks are the first that is violated. -/
theorem FirstViolated.eq {c : Criterion} {j k : Check} (hj : c.FirstViolated j)
    (hk : c.FirstViolated k) : j = k := by
  have hle : ¬ j.index < k.index := fun h => hj.1 (hk.2 j h)
  have hge : ¬ k.index < j.index := fun h => hk.1 (hj.2 k h)
  cases j <;> cases k <;> first | rfl | exact absurd (by decide) hle | exact absurd (by decide) hge

/-- A construction is decided by the checks if it succeeds with the whole where all pass, and
reports the first that is violated where one is. -/
theorem decides_iff {α : Type} {c : Criterion} {whole : Criterion → α} {x : Except Error α} :
    c.Decides whole x ↔
      ((∀ k, c.Passes k) ∧ x = .ok (whole c)) ∨
        ∃ k, c.FirstViolated k ∧ x = .error (c.errorOf k) := by
  constructor
  · rintro ⟨hok, herror⟩
    cases x with
    | ok a =>
      obtain ⟨hall, rfl⟩ := (hok a).mp rfl
      exact Or.inl ⟨hall, rfl⟩
    | error e =>
      obtain ⟨k, hk, rfl⟩ := (herror e).mp rfl
      exact Or.inr ⟨k, hk, rfl⟩
  · rintro (⟨hall, rfl⟩ | ⟨k, hk, rfl⟩)
    · constructor
      · intro a
        simp [hall, eq_comm (a := a)]
      · intro e
        simp [FirstViolated, hall]
    · constructor
      · intro a
        simp only [reduceCtorEq, false_iff, not_and]
        exact fun hall => absurd (hall k) hk.1
      · intro e
        constructor
        · intro he
          injection he with he
          exact ⟨k, hk, he.symm⟩
        · rintro ⟨j, hj, rfl⟩
          rw [hj.eq hk]

/-- The checks decide a construction in one way only. -/
theorem Decides.eq {α : Type} {c : Criterion} {whole : Criterion → α} {x y : Except Error α}
    (hx : c.Decides whole x) (hy : c.Decides whole y) : x = y := by
  cases x with
  | ok a => exact ((hy.1 a).mpr ((hx.1 a).mp rfl)).symm
  | error e => exact ((hy.2 e).mpr ((hx.2 e).mp rfl)).symm

/-- Building the described criterion is decided by the checks. -/
theorem decides_typed (c : Criterion) :
    c.Decides id (typed c.type c.property c.operator c.value c.value2 c.connector) := by
  rw [decides_iff, typed]
  rcases fault?_cases c with ⟨hall, hf⟩ | ⟨k, hk, hf⟩
  · rw [hf]
    exact Or.inl ⟨hall, rfl⟩
  · rw [hf]
    exact Or.inr ⟨k, hk, rfl⟩

end Criterion

/-! ## Steps -/

namespace CriteriaSet

/-- The criterion that a step describes before it is checked. A connector describes none, nor
does a criterion that has been built already. -/
def Step.described? : Step → Option Criterion
  | .connect _ | .push _ => none
  | .add t property op value value2 connector =>
    some ⟨property, op, connector, t.toValue value, value2.getD .null, t.operandType⟩
  | .test op t property value =>
    match nullTest? op, t.toValue value with
    | some op, .null => some ⟨property, op, .and, .null, .null, t.operandType⟩
    | _, v => some ⟨property, op, .and, v, .null, t.operandType⟩
  | .textCheck op property => some ⟨property, op, .and, .null, .null, textType.operandType⟩
  | .nullCheck op t property => some ⟨property, op, .and, .null, .null, t.operandType⟩
  | .between t property low high =>
    some ⟨property, .between, .and, t.toValue low, t.toValue high, t.operandType⟩
  | .withinDistance t property value distance =>
    some ⟨property, .isWithinDistance, .and, t.toValue value,
      .scalar (.number (.float distance)), t.operandType⟩

/-- Adding a criterion is decided by its checks. -/
theorem decides_append (s : CriteriaSet) (c : Criterion) :
    c.Decides s.push
      (s.append (Criterion.typed c.type c.property c.operator c.value c.value2 c.connector)) := by
  rw [Criterion.decides_iff, append]
  rcases Criterion.decides_iff.mp c.decides_typed with ⟨hall, hx⟩ | ⟨k, hk, hx⟩
  · rw [hx]
    exact Or.inl ⟨hall, rfl⟩
  · rw [hx]
    exact Or.inr ⟨k, hk, rfl⟩

/-- A step that describes a criterion is decided by its checks. -/
theorem decides_step (s : CriteriaSet) {st : Step} {c : Criterion} (h : st.described? = some c) :
    c.Decides s.push (s.step st) := by
  cases st with
  | connect | push => exact absurd h (by simp [Step.described?])
  | test op t property value =>
    rw [Step.described?] at h
    rw [step]
    cases htest : nullTest? op with
    | none =>
      rw [htest] at h
      obtain rfl := Option.some.inj h
      rw [addTest, htest]
      exact decides_append s _
    | some nullOp =>
      rw [htest] at h
      cases hv : t.toValue value with
      | null =>
        rw [hv] at h
        obtain rfl := Option.some.inj h
        rw [addTest, htest, hv]
        exact decides_append s _
      | scalar | list =>
        have hadd : s.addTest t property op value = s.add t property op value none .and := by
          rw [addTest, htest, hv]
        rw [hv] at h
        obtain rfl := Option.some.inj h
        rw [hadd, ← hv]
        exact decides_append s _
  | _ =>
    obtain rfl := Option.some.inj h
    exact decides_append s _

/-- A step that describes a criterion builds it and adds it. -/
theorem step_of_described? (s : CriteriaSet) {st : Step} {c : Criterion}
    (h : st.described? = some c) :
    s.step st =
      s.append (Criterion.typed c.type c.property c.operator c.value c.value2 c.connector) :=
  (s.decides_step h).eq (s.decides_append c)

/-- The value that a step describes is one of the recorded type. -/
theorem fits_of_described? {st : Step} {c : Criterion} (h : st.described? = some c) :
    c.value.Fits c.type := by
  cases st with
  | connect | push => exact absurd h (by simp [Step.described?])
  | test op t property value =>
    simp only [Step.described?] at h
    split at h
    · obtain rfl := Option.some.inj h
      exact trivial
    · obtain rfl := Option.some.inj h
      exact t.fits_toValue value
  | add t _ _ value | between t _ value | withinDistance t _ value =>
    obtain rfl := Option.some.inj h
    exact t.fits_toValue value
  | textCheck | nullCheck =>
    obtain rfl := Option.some.inj h
    exact trivial

/-- The other steps never fail. -/
theorem step_of_described?_none (s : CriteriaSet) {st : Step} (h : st.described? = none) :
    ∃ next, s.step st = .ok next := by
  cases st with
  | connect connector => exact ⟨s.connect connector, rfl⟩
  | push c => exact ⟨s.push c, rfl⟩
  | test =>
    simp only [Step.described?] at h
    split at h <;> exact absurd h (by simp)
  | _ => exact absurd h (by simp [Step.described?])

/-- A test asks for its operator, or with a null for the null test that the operator stands for. -/
theorem described?_test_operator (op : Operator) (t : ValueType) (property : String)
    (value : t.Carrier) :
    ∃ c, (Step.test op t property value).described? = some c ∧
      c.operator = if (t.toValue value).isNull then (nullTest? op).getD op else op := by
  simp only [Step.described?]
  cases nullTest? op with
  | none => exact ⟨_, rfl, by simp⟩
  | some test => cases t.toValue value <;> exact ⟨_, rfl, rfl⟩

/-- **A method asks for the operator that goes by its name.**

    This is the operator of the criterion that the method describes, whatever the member and the
    operand, except that equality with a null is a null test, and so is inequality. -/
theorem operator_of_method :
    (∀ m ∈ Step.tests, ∀ (t : ValueType) (property : String) (value : t.Carrier),
      ∃ op c, op.method = m.1 ∧ (m.2 t property value).described? = some c ∧
        c.operator = if (t.toValue value).isNull then (nullTest? op).getD op else op) ∧
    (∀ m ∈ Step.textChecks, ∀ property : String,
      ∃ c, (m.2 property).described? = some c ∧ c.operator.method = m.1) ∧
    ∀ m ∈ Step.nullChecks, ∀ (t : ValueType) (property : String),
      ∃ c, (m.2 t property).described? = some c ∧ c.operator.method = m.1 := by
  rw [Step.tests_eq, Step.textChecks_eq, Step.nullChecks_eq]
  refine ⟨fun m hm t property value => ?_, fun m hm property => ?_, fun m hm t property => ?_⟩
  · obtain ⟨op, -, rfl⟩ := List.mem_map.mp hm
    obtain ⟨c, hc, hop⟩ := described?_test_operator op t property value
    exact ⟨op, c, rfl, hc, hop⟩
  · obtain ⟨op, -, rfl⟩ := List.mem_map.mp hm
    exact ⟨_, rfl, rfl⟩
  · obtain ⟨op, -, rfl⟩ := List.mem_map.mp hm
    exact ⟨_, rfl, rfl⟩

/-! ## Criteria that exist -/

/-- A step adds no criteria but those that are built by it or pushed. -/
theorem built_of_step {s next : CriteriaSet} {st : Step} (hs : ∀ c ∈ s.criteria, c.Built)
    (hpush : ∀ c, st = .push c → c.Built) (h : s.step st = .ok next) :
    ∀ c ∈ next.criteria, c.Built := by
  have happend : ∀ {x : Except Error Criterion}, (∀ c, x = .ok c → c.Built) →
      s.append x = .ok next → ∀ c ∈ next.criteria, c.Built := by
    intro x hx hnext c hc
    cases x with
    | error e => exact absurd hnext (by simp [append, Except.map])
    | ok built =>
      injection hnext with hnext
      subst hnext
      rcases List.mem_append.mp hc with hc | hc
      · exact hs c hc
      · rw [List.mem_singleton.mp hc]
        exact hx built rfl
  cases st with
  | connect connector =>
    injection h with h
    subst h
    unfold connect
    cases hlast : s.criteria.getLast? with
    | none => exact hs
    | some last =>
      intro c hc
      rcases List.mem_append.mp hc with hc | hc
      · exact hs c (List.dropLast_subset _ hc)
      · rw [List.mem_singleton.mp hc]
        exact .joined connector (hs last (List.mem_of_getLast? hlast))
  | push pushed => exact happend (x := .ok pushed) (fun c hc => hpush c (by simp_all)) h
  | add => exact happend (fun c hc => .new hc) h
  | test op t property value =>
    simp only [step, addTest] at h
    split at h
    · exact happend (fun c hc => .ofType hc) h
    · exact happend (fun c hc => .new hc) h
  | textCheck => exact happend (fun c hc => .ofType hc) h
  | nullCheck => exact happend (fun c hc => .ofType hc) h
  | between => exact happend (fun c hc => .new hc) h
  | withinDistance => exact happend (fun c hc => .new hc) h

end CriteriaSet

mutual

/-- The criteria that can be obtained: those that are built for an operand or for a type, and
those that are taken out of a set. -/
inductive Criterion.Obtained : Criterion → Prop where
  | new {t : ValueType} {property : String} {op : Operator} {value : t.Carrier}
      {value2 : Option Value} {connector : Connector} {c : Criterion}
      (h : Criterion.new t property op value value2 connector = .ok c) : Criterion.Obtained c
  | ofType {t : ValueType} {property : String} {op : Operator} {connector : Connector}
      {c : Criterion} (h : Criterion.ofType t property op connector = .ok c) :
      Criterion.Obtained c
  | taken {s : CriteriaSet} {c : Criterion} (hs : CriteriaSet.Obtained s)
      (hc : c ∈ s.criteria) : Criterion.Obtained c

/-- The sets that steps lead to from the empty one, where only criteria that have been obtained
are pushed. -/
inductive CriteriaSet.Obtained : CriteriaSet → Prop where
  | empty : CriteriaSet.Obtained .empty
  | step {s next : CriteriaSet} {st : CriteriaSet.Step} (hs : CriteriaSet.Obtained s)
      (hpush : ∀ c, st = .push c → Criterion.Obtained c) (h : s.step st = .ok next) :
      CriteriaSet.Obtained next

end

namespace Criterion

/-- However a criterion is obtained, it has been built and perhaps joined anew. -/
theorem Obtained.built {c : Criterion} (h : c.Obtained) : c.Built :=
  @Obtained.rec (fun c _ => c.Built) (fun s _ => ∀ c ∈ s.criteria, c.Built)
    .new .ofType (fun _ hc ih => ih _ hc) (fun _ hc => absurd hc List.not_mem_nil)
    (fun _ _ hstep ihs ihpush => CriteriaSet.built_of_step ihs ihpush hstep) _ h

theorem passes_of_typed {t : OperandType} {property : String} {op : Operator}
    {value value2 : Value} {connector : Connector} {c : Criterion}
    (h : typed t property op value value2 connector = .ok c) (k : Check) : c.Passes k := by
  have hdecides := decides_typed ⟨property, op, connector, value, value2, t⟩
  obtain ⟨hall, rfl⟩ := (hdecides.1 c).mp h
  exact hall k

/-- Every criterion that has been built passes all checks. -/
theorem Built.passes {c : Criterion} (h : c.Built) (k : Check) : c.Passes k := by
  induction h with
  | new h => exact passes_of_typed h k
  | ofType h => exact passes_of_typed h k
  | joined connector _ ih => cases k <;> exact ih

/-- What holds of a criterion: of its path, its operator, its operand and its second value. -/
structure WellTyped (c : Criterion) : Prop where
  /-- The recorded type is that of a type of operands. -/
  type : ∃ t : ValueType, c.type = t.operandType
  property : ∃ ch ∈ c.property.toList, isBlank ch = false
  operator : c.type.supports c.operator = true
  value : c.value = .null ∨ c.value.kind? = some c.type.kind
  items : ∀ items, c.value = .list items →
    ∃ k, c.type.element = some k ∧ ∀ v ∈ items, v = .null ∨ v.kind? = some k
  upperBound : c.operator = .between → c.value2.kind? = some c.operandKind
  distance : c.operator = .isWithinDistance → ∃ n, c.value2 = .scalar (.number n)

theorem Built.wellTyped {c : Criterion} (h : c.Built) : c.WellTyped where
  type := by
    induction h with
    | @new t _ _ _ _ _ _ h => exact ⟨t, (typed_eq_ok_iff.mp h).2 ▸ rfl⟩
    | @ofType t _ _ _ _ h => exact ⟨t, (typed_eq_ok_iff.mp h).2 ▸ rfl⟩
    | joined connector _ ih => exact ih
  property := h.passes .property
  operator := h.passes .operator
  value := h.sound.fits.kind?
  items := by
    intro items hv
    have hfits := h.sound.fits
    rw [hv] at hfits
    exact hfits.2
  upperBound := (h.passes .value2).1
  distance := (h.passes .value2).2

end Criterion

/-- Every criterion that can be obtained is well typed, and converting an operand keeps nulls to
the types that have them. Building a criterion, for an operand or for a type, is decided by the
checks, and so is every step that describes one; the other steps do not fail. -/
theorem Criterion.obtained_wellTyped :
    (∀ c : Criterion, c.Obtained → c.WellTyped) ∧
    (∀ (t : ValueType) (v : t.Carrier), t.operandType.nullable = false → t.toValue v ≠ .null) ∧
    (∀ (t : ValueType) (property : String) (op : Operator) (v : t.Carrier)
      (value2 : Option Value) (connector : Connector),
      Criterion.Decides
        ⟨property, op, connector, t.toValue v, value2.getD .null, t.operandType⟩ id
        (Criterion.new t property op v value2 connector)) ∧
    (∀ (t : ValueType) (property : String) (op : Operator) (connector : Connector),
      Criterion.Decides ⟨property, op, connector, .null, .null, t.operandType⟩ id
        (Criterion.ofType t property op connector)) ∧
    ∀ (s : CriteriaSet) (st : CriteriaSet.Step),
      match st.described? with
      | some c => c.Decides s.push (s.step st)
      | none => ∃ next, s.step st = .ok next := by
  refine ⟨fun c hc => hc.built.wellTyped, fun t v h => t.toValue_ne_null h v,
    fun t property op v value2 connector => decides_typed _,
    fun t property op connector => decides_typed _, fun s st => ?_⟩
  split
  · next c hc => exact s.decides_step hc
  · next hc => exact s.step_of_described?_none hc

/-! ## A list with a null -/

namespace Sample

/-- The numbers that an age is looked for in. -/
def ages : ValueType := .sequence .vector (.optional (.scalar (.integer .int32)))

/-- One number and a null. -/
def someAges : ages.Carrier := ⟨[some ⟨30, by decide⟩, none], rfl⟩

/-- The age is in a list of one number and a null, joined to what comes next by "or". -/
def agesIn : Criterion :=
  ⟨"Age", .isIn, .or, .list [.scalar (.number (.signed 30)), .null], .null, ages.operandType⟩

/-- It is added to the empty set, and its connector is changed there. -/
theorem obtained_agesIn : agesIn.Obtained := by
  have hadd : CriteriaSet.empty.step (.add ages "Age" .isIn someAges none .and) =
      .ok ⟨[{ agesIn with connector := .and }]⟩ := rfl
  have hset : CriteriaSet.Obtained ⟨[{ agesIn with connector := .and }]⟩ :=
    .step .empty (fun c hc => CriteriaSet.Step.noConfusion hc) hadd
  have hjoined : CriteriaSet.step ⟨[{ agesIn with connector := .and }]⟩ (.connect .or) =
      .ok ⟨[agesIn]⟩ := rfl
  exact .taken (.step hset (fun c hc => CriteriaSet.Step.noConfusion hc) hjoined)
    (List.mem_singleton.mpr rfl)

/-- The list is well typed; a range of numbers that ends in a text is not built, and neither is
one that has no path. -/
theorem obtained_wellTyped_agesIn :
    agesIn.WellTyped ∧
    Criterion.new (.scalar (.integer .int32)) "Age" .between ⟨30, by decide⟩
      (some (.scalar (.text "x"))) .and = .error (.unsupportedOperation .between "i32") ∧
    Criterion.ofType (.scalar .bool) " " .between .and =
      .error (.invalidArgument .blankProperty) := by
  refine ⟨Criterion.obtained_wellTyped.1 _ obtained_agesIn, ?_, ?_⟩
  · refine ((Criterion.obtained_wellTyped.2.2.1 _ "Age" .between _ _ .and).2 _).mpr
      ⟨.value2, ⟨fun h => ?_, fun j hj => ?_⟩, rfl⟩
    · exact absurd (h.1 rfl) (by decide)
    · cases j with
      | property => exact ⟨'A', by decide, by decide⟩
      | operator => rfl
      | value2 => exact absurd hj (by decide)
  · refine ((Criterion.obtained_wellTyped.2.2.2.1 (.scalar .bool) " " .between .and).2 _).mpr
      ⟨.property, ⟨?_, fun j hj => absurd hj (Nat.not_lt_zero _)⟩, rfl⟩
    rintro ⟨ch, hch, hblank⟩
    rw [List.mem_singleton.mp hch] at hblank
    exact absurd hblank (by decide)

end Sample

end Winnow
