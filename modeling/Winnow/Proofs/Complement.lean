/-
  Opposite operators.

  Six operators have one that asks for the opposite (`Operator.negation?`), and two of the operators
  by order are the opposites of the other two where there is an order (`Operator.converse?`). The
  two operators of a pair are compiled to formulas of different forms: a guarded equality against
  an inequality or a null, a test against its negation, two comparisons under one guard.

  `Parallel` compares two outcomes: both are the same error, apart from the operator that it names,
  or both are results, which are in a relation. The relation is found formula by formula: for every
  record whatever exactly one of the two holds (`Complements`), or exactly one if the member is not
  null, or exactly one if member and operand compare at all. `opposites`, the main statement, puts
  the checks of the criterion, the resolution of its path and its formula together.
-/
import Winnow.Proofs.SingleStep

namespace Winnow

variable {ι ρ : Type}

/-! ## Pairs of operators -/

namespace Operator

/-- The operator that asks for the opposite. -/
def negation? : Operator → Option Operator
  | .equal => some .notEqual
  | .isNull => some .isNotNull
  | .isEmpty => some .isNotEmpty
  | .isNullOrWhiteSpace => some .isNotNullOrWhiteSpace
  | .isIn => some .notIn
  | .contains => some .notContains
  | _ => none

/-- The operator that accepts the orders that another by order does not. -/
def converse? : Operator → Option Operator
  | .greaterThan => some .lessThanOrEqual
  | .greaterThanOrEqual => some .lessThan
  | _ => none

/-- Two operators are opposites in one of the two ways. -/
def Opposes (op op' : Operator) : Prop := op.negation? = some op' ∨ op.converse? = some op'

end Operator

/-! ## Parallel outcomes -/

/-- Two outcomes, the first for `op` and the second for `op'`: the same error, which may name the
operator in the place of the other one, or two results in the relation. -/
inductive Parallel {α β : Type} (op op' : Operator) (R : α → β → Prop) :
    Except Error α → Except Error β → Prop where
  | error (e : Error) : Parallel op op' R (.error e) (.error e)
  | unsupported (type : String) :
      Parallel op op' R (.error (.unsupportedOperation op type))
        (.error (.unsupportedOperation op' type))
  | ok {a : α} {b : β} (h : R a b) : Parallel op op' R (.ok a) (.ok b)

namespace Parallel

variable {α β γ δ : Type} {op op' : Operator}

theorem bind {R : α → β → Prop} {S : γ → δ → Prop} {x : Except Error α} {y : Except Error β}
    {f : α → Except Error γ} {g : β → Except Error δ} (h : Parallel op op' R x y)
    (hfg : ∀ a b, R a b → Parallel op op' S (f a) (g b)) :
    Parallel op op' S (x.bind f) (y.bind g) := by
  cases h with
  | error e => exact .error e
  | unsupported type => exact .unsupported type
  | ok h => exact hfg _ _ h

theorem map {R : γ → δ → Prop} {x : Except Error α} {y : Except Error β} {f : α → γ} {g : β → δ}
    (h : Parallel op op' (fun a b => R (f a) (g b)) x y) :
    Parallel op op' R (x.map f) (y.map g) := by
  cases h with
  | error e => exact .error e
  | unsupported type => exact .unsupported type
  | ok h => exact .ok h

theorem mono {R S : α → β → Prop} {x : Except Error α} {y : Except Error β}
    (h : Parallel op op' R x y) (hRS : ∀ a b, R a b → S a b) : Parallel op op' S x y := by
  cases h with
  | error e => exact .error e
  | unsupported type => exact .unsupported type
  | ok h => exact .ok (hRS _ _ h)

/-- The relation holds of the results that there are. -/
theorem withResults {R : α → β → Prop} {x : Except Error α} {y : Except Error β}
    (h : Parallel op op' R x y) :
    Parallel op op' (fun a b => x = .ok a ∧ y = .ok b ∧ R a b) x y := by
  cases h with
  | error e => exact .error e
  | unsupported type => exact .unsupported type
  | ok h => exact .ok ⟨rfl, rfl, h⟩

end Parallel

theorem optionRel_mono {α β : Type} {R S : α → β → Prop} {x : Option α} {y : Option β}
    (h : Option.Rel R x y) (hRS : ∀ a b, R a b → S a b) : Option.Rel S x y := by
  cases h with
  | some h => exact .some (hRS _ _ h)
  | none => exact .none

/-- Exactly one of two tests passes if `b`, and otherwise neither does. -/
def ExactlyOneIf (b : Prop) (x y : Bool) : Prop := (b → x = !y) ∧ (¬ b → x = false ∧ y = false)

/-! ## Formulas -/

namespace Formula

/-- Of every record exactly one of the two formulas holds. -/
def Complements (f g : Formula) : Prop :=
  ∀ (ρ : Type) [Record ρ] (row : ρ), f.holds row = !g.holds row

theorem complements_compare (a b : Term) : Complements (.compare .eq a b) (.compare .ne a b) := by
  intro ρ _ row
  simp [holds, Comparison.holds]

theorem complements_not (f : Formula) : Complements f (.not f) := by
  intro ρ _ row
  simp [holds]

theorem Complements.symm {f g : Formula} (h : Complements f g) : Complements g f := by
  intro ρ _ row
  rw [h ρ row, Bool.not_not]

theorem Complements.and_or {f f' g g' : Formula} (hf : Complements f f') (hg : Complements g g') :
    Complements (.and f g) (.or f' g') := by
  intro ρ _ row
  rw [holds, holds, hf ρ row, hg ρ row, Bool.not_or]

theorem complements_isNull (m : Term) : Complements (isNull m) (isNotNull m) :=
  complements_compare m .null

end Formula

namespace Criterion

open Formula

theorem equalFormula_complements (normalize nullable : Bool) (m : Term) (v : Value) :
    Complements (equalFormula normalize nullable m v) (notEqualFormula normalize nullable m v) := by
  unfold equalFormula notEqualFormula
  split
  · exact complements_isNull m
  · have hcompare := complements_compare (sides normalize m v).1 (sides normalize m v).2
    cases nullable with
    | false => exact hcompare
    | true => exact (complements_isNull m).symm.and_or hcompare

theorem membershipFormula?_complements (normalize nullable : Bool) (m : Term) (kind : Kind)
    {v : Value} (hv : v.text? = none) :
    Option.Rel Complements (membershipFormula? false normalize nullable m kind v)
      (membershipFormula? true normalize nullable m kind v) := by
  cases v with
  | null => exact .none
  | scalar s =>
    cases s with
    | text => exact absurd hv (by simp [Value.text?])
    | _ => exact .none
  | list items => exact .some (complements_not _)

/-! ## Formulas for single values -/

section Formulas

variable {c : Criterion} {op' : Operator}

theorem scalarFormula?_complements (h : c.operator.negation? = some op')
    (hv : c.operator.isMembership = true → c.value.asText? = none) (o : Options) (m : Term)
    (kind : Kind) (nullable : Bool) :
    Option.Rel Complements (scalarFormula? o m kind nullable c)
      (scalarFormula? o m kind nullable { c with operator := op' }) := by
  obtain ⟨property, op, connector, value, value2, type⟩ := c
  have honText : ∀ {f g : Formula}, Complements f g →
      Option.Rel Complements (if kind = .text then some f else none)
        (if kind = .text then some g else none) := by
    intro f g hfg
    split
    · exact .some hfg
    · exact .none
  unfold scalarFormula?
  show Option.Rel Complements (if !kind.accepts type.operandKind then none else _)
    (if !kind.accepts type.operandKind then none else _)
  split
  · exact .none
  · cases op <;> simp only [Operator.negation?, Option.some.injEq, reduceCtorEq] at h <;> subst h
    case equal => exact .some (equalFormula_complements _ _ _ _)
    case isNull => cases kind <;> exact .none
    case isEmpty => exact honText (complements_compare m emptyText)
    case isNullOrWhiteSpace =>
      exact honText
        ((complements_isNull m).symm.and_or (complements_compare (.trim m) emptyText).symm).symm
    all_goals exact membershipFormula?_complements _ _ _ _ (Value.text?_widenTo (hv rfl) kind)

theorem enumFormula?_complements (h : c.operator.negation? = some op') (m : Term) :
    Option.Rel Complements (enumFormula? m c) (enumFormula? m { c with operator := op' }) := by
  obtain ⟨property, op, connector, value, value2, type⟩ := c
  unfold enumFormula?
  show Option.Rel Complements (if type.operandKind ≠ .enum then none else _)
    (if type.operandKind ≠ .enum then none else _)
  split
  · exact .none
  · cases op <;> simp only [Operator.negation?, Option.some.injEq, reduceCtorEq] at h <;> subst h
    case equal => exact .some (complements_compare _ _)
    case isIn | contains => exact .some (complements_not _)
    all_goals exact .none

/-- Neither of two opposite operators is one on geometries. -/
theorem spatialFormula?_opposes (h : c.operator.Opposes op') (R : Formula → Formula → Prop)
    (m : Term) :
    Option.Rel R (spatialFormula? m c) (spatialFormula? m { c with operator := op' }) := by
  obtain ⟨property, op, connector, value, value2, type⟩ := c
  unfold spatialFormula?
  rcases h with h | h <;> cases op <;>
    simp only [Operator.negation?, Operator.converse?, Option.some.injEq, reduceCtorEq] at h <;>
    subst h <;> exact .none

/-- Of every record in which the member is null only if it may be, exactly one of the formulas holds
if the member is not null, and neither if it is. -/
def ComplementsUnlessNull (m : Term) (nullable : Bool) (f g : Formula) : Prop :=
  ∀ (ρ : Type) [Record ρ] (row : ρ), (m.read row = .null → nullable = true) →
    ExactlyOneIf (m.read row ≠ .null) (f.holds row) (g.holds row)

/-- A test that fails for a null, and its negation under the guard that excludes nulls. -/
theorem complementsUnlessNull_guardedIf {m : Term} {f : Formula}
    (hf : ∀ (ρ : Type) [Record ρ] (row : ρ), f.holds row = true → m.read row ≠ .null)
    (nullable : Bool) : ComplementsUnlessNull m nullable f (guardedIf nullable m (.not f)) := by
  intro ρ _ row hnullable
  have hguard : (guardedIf nullable m (.not f)).holds row = true ↔
      (nullable = true → m.read row ≠ .null) ∧ f.holds row = false := by
    rw [holds_guardedIf, Formula.holds, Bool.not_eq_true']
  constructor
  · intro hread
    cases h : f.holds row with
    | false => rw [hguard.mpr ⟨fun _ => hread, h⟩, Bool.not_true]
    | true =>
      have hfails : (guardedIf nullable m (.not f)).holds row = false :=
        Bool.eq_false_iff.mpr fun hg => absurd (hguard.mp hg).2 (by simp [h])
      rw [hfails, Bool.not_false]
  · intro hread
    have hnull := Classical.not_not.mp hread
    exact ⟨Bool.eq_false_iff.mpr fun h => hf ρ row h hnull,
      Bool.eq_false_iff.mpr fun h => (hguard.mp h).1 (hnullable hnull) hnull⟩

theorem membershipFormula?_complementsUnlessNull (o : Options) (m : Term) (kind : Kind)
    (nullable : Bool) {v : Value} (hv : v.items? = none) :
    Option.Rel (ComplementsUnlessNull m nullable)
      (membershipFormula? false (o.normalizeText && kind = .text) nullable m kind v)
      (membershipFormula? true (o.normalizeText && kind = .text) nullable m kind v) := by
  cases v with
  | null => exact .none
  | list => exact absurd hv (by simp [Value.items?])
  | scalar s =>
    cases s with
    | text s =>
      unfold membershipFormula?
      by_cases hk : kind = .text
      · subst hk
        simp only [decide_true, Bool.and_true, if_true]
        refine .some (complementsUnlessNull_guardedIf (fun ρ _ row h => ?_) nullable)
        obtain ⟨text, htext, -⟩ := (holds_textTest_sides o .contains m s row).mp h
        simp [htext]
      · simp only [hk, if_false]
        exact .none
    | _ => exact .none

theorem items?_widenTo {v : Value} (h : v.asText?.isSome = true) (kind : Kind) :
    (v.widenTo kind).items? = none := by
  cases v with
  | scalar s =>
    cases s with
    | char ch => by_cases hk : kind = .text <;> simp [Value.widenTo, hk, Value.items?]
    | _ => rfl
  | _ => exact absurd h (by simp [Value.asText?])

theorem scalarFormula?_complementsUnlessNull (h : c.operator.negation? = some op')
    (hop : c.operator.isMembership = true) (hv : c.value.asText?.isSome = true) (o : Options)
    (m : Term) (kind : Kind) (nullable : Bool) :
    Option.Rel (ComplementsUnlessNull m nullable) (scalarFormula? o m kind nullable c)
      (scalarFormula? o m kind nullable { c with operator := op' }) := by
  obtain ⟨property, op, connector, value, value2, type⟩ := c
  unfold scalarFormula?
  show Option.Rel _ (if !kind.accepts type.operandKind then none else _)
    (if !kind.accepts type.operandKind then none else _)
  split
  · exact .none
  · cases op <;> simp only [Operator.negation?, Option.some.injEq, reduceCtorEq] at h <;>
      subst h <;> simp only [Operator.isMembership, Bool.false_eq_true] at hop
    all_goals
      exact membershipFormula?_complementsUnlessNull _ _ _ _ (items?_widenTo hv kind)

/-- Of every record exactly one of the formulas holds if the member compares to the value, and
neither if it does not. -/
def ComplementsIfCompared (m : Term) (v : Value) (f g : Formula) : Prop :=
  ∀ (ρ : Type) [Record ρ] (row : ρ),
    ExactlyOneIf (((m.read row).compare? (.ofValue v : Reading ρ)).isSome = true) (f.holds row)
      (g.holds row)

/-- The two comparisons that opposite operators stand for accept opposite orders. -/
theorem complementsIfCompared_compare {op op' : Operator} (h : op.converse? = some op')
    {comparison comparison' : Comparison} (hc : op.comparison? = some comparison)
    (hc' : op'.comparison? = some comparison') (m : Term) (nullable : Bool) (v : Value) :
    ComplementsIfCompared m v (guardedIf nullable m (.compare comparison m (.constant v)))
      (guardedIf nullable m (.compare comparison' m (.constant v))) := by
  intro ρ _ row
  have hguard : ∀ {op : Operator} {comparison : Comparison}, op.comparison? = some comparison →
      (guardedIf nullable m (.compare comparison m (.constant v))).holds row =
        comparison.holds (m.read row) (.ofValue v : Reading ρ) := by
    intro op comparison hop
    rw [Bool.eq_iff_iff]
    exact holds_guardedIf_of_imp nullable m (Comparison.ne_null_of_holds hop)
  rw [hguard hc, hguard hc']
  cases hcompare : (m.read row).compare? (.ofValue v : Reading ρ) with
  | none =>
    refine ⟨fun hsome => absurd hsome (by simp), fun _ => ?_⟩
    cases op <;> simp only [Operator.converse?, Option.some.injEq, reduceCtorEq] at h <;>
      subst h <;> cases hc <;> cases hc' <;> simp [Comparison.holds, hcompare]
  | some order =>
    refine ⟨fun _ => ?_, fun hnone => absurd rfl hnone⟩
    cases op <;> simp only [Operator.converse?, Option.some.injEq, reduceCtorEq] at h <;>
      subst h <;> cases hc <;> cases hc' <;> cases order <;>
      simp [Comparison.holds, hcompare, Comparison.accepts]

theorem scalarFormula?_complementsIfCompared (h : c.operator.converse? = some op') (o : Options)
    (m : Term) (kind : Kind) (nullable : Bool) :
    Option.Rel
      (fun f g => kind.isOrdered = true ∧ kind.accepts c.operandKind = true ∧
        ComplementsIfCompared m c.value f g)
      (scalarFormula? o m kind nullable c)
      (scalarFormula? o m kind nullable { c with operator := op' }) := by
  obtain ⟨comparison, hc⟩ : ∃ comparison, c.operator.comparison? = some comparison := by
    cases hop : c.operator <;> simp_all [Operator.converse?, Operator.comparison?]
  obtain ⟨comparison', hc'⟩ : ∃ comparison', op'.comparison? = some comparison' := by
    cases hop : c.operator <;> rw [hop] at h <;> cases h <;> exact ⟨_, rfl⟩
  rw [scalarFormula?_of_comparison? hc,
    scalarFormula?_of_comparison? (c := { c with operator := op' }) hc']
  show Option.Rel _ _ (if kind.accepts c.operandKind = true ∧ kind.isOrdered = true then _ else _)
  split
  · next hk =>
    exact .some ⟨hk.2, hk.1, complementsIfCompared_compare h hc hc' m nullable c.value⟩
  · exact .none

theorem enumFormula?_of_converse? (h : c.operator.converse? = some op')
    (R : Formula → Formula → Prop) (m : Term) :
    Option.Rel R (enumFormula? m c) (enumFormula? m { c with operator := op' }) := by
  obtain ⟨property, op, connector, value, value2, type⟩ := c
  unfold enumFormula?
  show Option.Rel _ (if type.operandKind ≠ .enum then none else _)
    (if type.operandKind ≠ .enum then none else _)
  split
  · exact .none
  · cases op <;> simp only [Operator.converse?, Option.some.injEq, reduceCtorEq] at h <;>
      subst h <;> exact .none

end Formulas

/-! ## Members and paths -/

section Members

variable {family : Family ι} {o : Options} {i : ι} {c : Criterion} {op' : Operator}

theorem parallel_orUnsupported {R : Formula → Formula → Prop} {f? g? : Option Formula}
    (h : Option.Rel R f? g?) :
    Parallel c.operator op' R (c.orUnsupported f?)
      (orUnsupported { c with operator := op' } g?) := by
  cases h with
  | some h => exact .ok h
  | none => exact .unsupported c.type.name

/-- The formulas for one member are parallel if those for each sort of member are. -/
theorem parallel_memberFormula {R : Formula → Formula → Prop} {r : ResolvedMember ι}
    (hop : c.operator.Opposes op')
    (hnull : c.operator = .isNull → R (isNull (.member r.path)) (isNotNull (.member r.path)))
    (henum : Option.Rel R (enumFormula? (.member r.path) c)
      (enumFormula? (.member r.path) { c with operator := op' }))
    (hscalar : ∀ kind, r.type = .scalar kind →
      Option.Rel R (scalarFormula? o (.member r.path) kind r.nullable c)
        (scalarFormula? o (.member r.path) kind r.nullable { c with operator := op' })) :
    Parallel c.operator op' R (memberFormula family o r c)
      (memberFormula family o r { c with operator := op' }) := by
  by_cases hn : c.operator = .isNull
  · have hn' : op' = .isNotNull := by
      rcases hop with h | h <;> rw [hn] at h <;> cases h
      rfl
    subst hn'
    have hok : memberFormula family o r c = .ok (isNull (.member r.path)) := by
      simp only [memberFormula, hn]
    rw [hok]
    exact .ok (hnull hn)
  · have hothers : c.operator ≠ .isNotNull ∧ op' ≠ .isNull ∧ op' ≠ .isNotNull := by
      rcases hop with h | h <;> cases hc : c.operator <;> rw [hc] at h <;> cases h <;>
        first | exact absurd hc hn | simp
    have hspatial := spatialFormula?_opposes hop R (.member r.path)
    rw [memberFormula_of_ne hn hothers.1,
      memberFormula_of_ne (c := { c with operator := op' }) hothers.2.1 hothers.2.2]
    cases ht : r.type with
    | scalar kind =>
      have hscalar := hscalar kind ht
      cases kind <;>
        first
          | exact parallel_orUnsupported henum
          | exact parallel_orUnsupported hspatial
          | exact parallel_orUnsupported hscalar
    | _ => exact .unsupported _

/-- The formulas at a path without brackets are parallel if those for the member at its end are. -/
theorem parallel_compile {R : Formula → Formula → Prop}
    (hpath : ∀ base inner, PropertyPath.parse c.property ≠ .ok (.bracketed base inner))
    (h : ∀ segments r, PropertyPath.parse c.property = .ok (.plain segments) →
      family.Reaches rowParameter i segments r →
      Parallel c.operator op' R (memberFormula family o r c)
        (memberFormula family o r { c with operator := op' })) :
    Parallel c.operator op' R (c.compile family o i)
      (compile family o i { c with operator := op' }) := by
  cases hp : PropertyPath.parse c.property with
  | error e =>
    rw [compile_of_parse_error hp, compile_of_parse_error (c := { c with operator := op' }) hp]
    exact .error e
  | ok path =>
    cases path with
    | bracketed base inner => exact absurd hp (hpath base inner)
    | plain segments =>
      rw [compile_of_plain hp, compile_of_plain (c := { c with operator := op' }) hp]
      unfold compileAt
      cases hr : family.resolve i segments rowParameter with
      | error e => exact .error e
      | ok r => exact h segments r hp (Family.resolve_eq_ok_iff.mp hr)

/-- A type that supports one of two opposite operators supports the other, and neither needs a
second value. -/
theorem parallel_typed (hop : c.operator.Opposes op') :
    Parallel c.operator op' (fun a b => a = c ∧ b = { c with operator := op' })
      (typed c.type c.property c.operator c.value c.value2 c.connector)
      (typed c.type c.property op' c.value c.value2 c.connector) := by
  have hsupports : c.type.supports op' = c.type.supports c.operator := by
    unfold OperandType.supports
    rcases hop with h | h <;> cases hc : c.operator <;> rw [hc] at h <;> cases h <;>
      cases c.type.kind <;> rfl
  have hsecond : secondFault? c.type c.operator c.value2 = none ∧
      secondFault? c.type op' c.value2 = none := by
    rcases hop with h | h <;> cases hc : c.operator <;> rw [hc] at h <;> cases h <;>
      exact ⟨rfl, rfl⟩
  unfold typed fault?
  rw [hsupports, hsecond.1, hsecond.2]
  cases isBlankText c.property with
  | true => exact .error _
  | false =>
    cases c.type.supports c.operator with
    | false => exact .unsupported _
    | true => exact .ok ⟨rfl, rfl⟩

end Members

end Criterion

/-! ## What compares -/

namespace Reading

/-- There is something to compare: neither a null nor a NaN. -/
def IsComparable (f : Reading ρ) : Prop := f ≠ .null ∧ f ≠ .scalar (.number (.float .nan))

end Reading

/-- Numbers compare unless one of them is a NaN. -/
theorem Number.isSome_compare?_iff (a b : Number) :
    (a.compare? b).isSome = true ↔ a ≠ .float .nan ∧ b ≠ .float .nan := by
  have hfloat : ∀ {a b : Number}, a.compare? b = a.toDouble.compare? b.toDouble →
      ((a.compare? b).isSome = true ↔ a.toDouble.isNaN = false ∧ b.toDouble.isNaN = false) := by
    intro a b h
    rw [h, Option.isSome_iff_ne_none, ne_eq, Binary.compare?_eq_none_iff, not_or,
      Bool.not_eq_true, Bool.not_eq_true]
  have hnan : ∀ a : Number, a.toDouble.isNaN = false ↔ a ≠ .float .nan := by
    have hint : ∀ n : Int, (Binary.ofInt n : Double).isNaN = false := by
      intro n
      unfold Binary.ofInt Binary.round
      split <;> rfl
    intro a
    cases a with
    | signed n => simp [toDouble, hint]
    | unsigned n => simp [toDouble, hint]
    | float x => cases x <;> simp [toDouble, Binary.isNaN]
  rw [← hnan a, ← hnan b]
  cases a with
  | float x => exact hfloat rfl
  | signed | unsigned =>
    cases b with
    | float y => exact hfloat rfl
    | signed | unsigned => simp [compare?, integer?, hnan]

/-- Values of a kind with an order compare unless one of them is a null or a NaN. -/
theorem Reading.isSome_compare?_iff {kind : Kind} (hk : kind.isOrdered = true) {f g : Reading ρ}
    (hf : f.OfKind kind) (hg : g.OfKind kind) :
    (f.compare? g).isSome = true ↔ f.IsComparable ∧ g.IsComparable := by
  rcases hf with rfl | hf
  · simp [compare?, IsComparable]
  · rcases hg with rfl | hg
    · cases f <;> simp [compare?, IsComparable]
    · cases f with
      | scalar a =>
        cases g with
        | scalar b =>
          have ha : a.kind = kind := Option.some.inj hf
          have hb : b.kind = kind := Option.some.inj hg
          subst ha
          cases a with
          | number m =>
            cases b with
            | number n =>
              show ((m.compare? n).isSome = true) ↔ _
              rw [Number.isSome_compare?_iff]
              simp [IsComparable]
            | _ => exact Kind.noConfusion hb
          | date | dateTime | offsetDateTime | time | duration =>
            cases b <;>
              first
                | exact Kind.noConfusion hb
                | simp [compare?, Scalar.compare?, IsComparable]
          | _ => exact absurd hk (by simp [Scalar.kind, Kind.isOrdered])
        | list =>
          obtain rfl := Option.some.inj hg
          exact absurd hk (by decide)
        | _ => exact absurd hg (by simp [kind?])
      | list =>
        obtain rfl := Option.some.inj hf
        exact absurd hk (by decide)
      | _ => exact absurd hf (by simp [kind?])

/-! ## Steps -/

namespace CriteriaSet

section Steps

variable {family : Family ι} {o : Options} {i : ι} {st st' : Step} {c : Criterion} {op' : Operator}

/-- The predicates of two steps that describe one criterion with opposite operators are parallel if
the formulas for its member are. -/
theorem parallel_predicate {R : Predicate → Predicate → Prop} (hst : st.described? = some c)
    (hst' : st'.described? = some { c with operator := op' }) (hop : c.operator.Opposes op')
    (hpath : ∀ base inner, PropertyPath.parse c.property ≠ .ok (.bracketed base inner))
    (h : c.Sound → ∀ segments r, PropertyPath.parse c.property = .ok (.plain segments) →
      family.Reaches rowParameter i segments r →
      Parallel c.operator op' (fun f g => R ⟨f⟩ ⟨g⟩) (Criterion.memberFormula family o r c)
        (Criterion.memberFormula family o r { c with operator := op' })) :
    Parallel c.operator op' R (st.predicate family o i) (st'.predicate family o i) := by
  rw [predicate_of_described? hst, predicate_of_described? hst']
  refine (Criterion.parallel_typed hop).withResults.bind ?_
  rintro _ _ ⟨hbuilt, -, rfl, rfl⟩
  have hsound := Criterion.sound_of_typed hbuilt (fits_of_described? hst)
  exact (Criterion.parallel_compile hpath (h hsound)).map

/-- Negations: of every record whatever one of the two predicates holds. -/
theorem parallel_of_negation? (hst : st.described? = some c)
    (hst' : st'.described? = some { c with operator := op' })
    (hpath : ∀ base inner, PropertyPath.parse c.property ≠ .ok (.bracketed base inner))
    (hop : c.operator.negation? = some op')
    (hv : c.operator.isMembership = true → c.value.asText? = none) :
    Parallel c.operator op'
      (fun p q => ∀ (ρ : Type) [Record ρ] (row : ρ), p.accepts row = !q.accepts row)
      (st.predicate family o i) (st'.predicate family o i) :=
  parallel_predicate hst hst' (Or.inl hop) hpath fun _ _ r _ _ =>
    Criterion.parallel_memberFormula (Or.inl hop)
      (fun _ => Formula.complements_isNull (.member r.path))
      (Criterion.enumFormula?_complements hop (.member r.path))
      fun kind _ => Criterion.scalarFormula?_complements hop hv o (.member r.path) kind r.nullable

/-- The negated tests of a text: one of the two predicates holds where there is a text. -/
theorem parallel_of_text (hst : st.described? = some c)
    (hst' : st'.described? = some { c with operator := op' })
    (hpath : ∀ base inner, PropertyPath.parse c.property ≠ .ok (.bracketed base inner))
    (hop : c.operator.negation? = some op') (hm : c.operator.isMembership = true)
    (hv : c.value.asText?.isSome = true) :
    Parallel c.operator op'
      (fun p q => ∀ (ρ : Type) [Record ρ] (row : ρ), family.Conforms i row →
        ∀ segments, PropertyPath.parse c.property = .ok (.plain segments) →
          ExactlyOneIf (family.valueAt i segments row ≠ .null) (p.accepts row) (q.accepts row))
      (st.predicate family o i) (st'.predicate family o i) := by
  refine parallel_predicate hst hst' (Or.inl hop) hpath fun hsound segments r hs hr => ?_
  -- A text is never the operand for an enum, so the rule for enums has no formula on either side.
  have hkind : c.operandKind ≠ .enum := by
    cases hvalue : c.value with
    | scalar s =>
      rw [← hsound.kind_eq_operandKind hvalue]
      rw [hvalue] at hv
      cases s <;> first | exact Kind.noConfusion | exact absurd hv (by simp [Value.asText?])
    | _ => exact absurd hv (by simp [hvalue, Value.asText?])
  have hnull : c.operator ≠ .isNull := fun h => absurd hm (by simp [h, Operator.isMembership])
  refine (Criterion.parallel_memberFormula
    (R := fun f g => (∃ kind, r.type = .scalar kind) ∧
      Criterion.ComplementsUnlessNull (.member r.path) r.nullable f g)
    (Or.inl hop) (fun h => absurd h hnull) ?_ fun kind ht => ?_).mono ?_
  · rw [Criterion.enumFormula?_of_ne_enum hkind,
      Criterion.enumFormula?_of_ne_enum (c := { c with operator := op' }) hkind]
    exact .none
  · exact optionRel_mono (Criterion.scalarFormula?_complementsUnlessNull hop hm hv o
      (.member r.path) kind r.nullable) fun f g h => ⟨⟨kind, ht⟩, h⟩
  · rintro f g ⟨⟨kind, ht⟩, hfg⟩ ρ _ row hrow segments' hs'
    obtain rfl := PropertyPath.plain.inj (Except.ok.inj (hs.symm.trans hs'))
    rw [← hr.read_eq_valueAt row]
    exact hfg ρ row (ofKind_read hr ht hrow).2

/-- The comparisons by order: one of the two predicates holds where there is something to compare
to something. -/
theorem parallel_of_converse? (hst : st.described? = some c)
    (hst' : st'.described? = some { c with operator := op' })
    (hpath : ∀ base inner, PropertyPath.parse c.property ≠ .ok (.bracketed base inner))
    (hop : c.operator.converse? = some op') :
    Parallel c.operator op'
      (fun p q => ∀ (ρ : Type) [Record ρ] (row : ρ), family.Conforms i row →
        ∀ segments, PropertyPath.parse c.property = .ok (.plain segments) →
          ExactlyOneIf ((family.valueAt i segments row).IsComparable ∧
            (Reading.ofValue c.value : Reading ρ).IsComparable) (p.accepts row) (q.accepts row))
      (st.predicate family o i) (st'.predicate family o i) := by
  refine parallel_predicate hst hst' (Or.inr hop) hpath fun hsound segments r hs hr => ?_
  have hne : c.operator.isMembership = false ∧ c.operator ≠ .isNull ∧ c.operator ≠ .isNotNull := by
    cases h : c.operator <;> simp_all [Operator.converse?, Operator.isMembership]
  have hvalue := hsound.kind_of_items?_none (hsound.items?_eq_none hne.1 hne.2.1 hne.2.2)
  refine (Criterion.parallel_memberFormula
    (R := fun f g => ∃ kind, r.type = .scalar kind ∧ kind.isOrdered = true ∧
      kind.accepts c.operandKind = true ∧
      Criterion.ComplementsIfCompared (.member r.path) c.value f g)
    (Or.inr hop) (fun h => absurd h hne.2.1)
    (Criterion.enumFormula?_of_converse? hop _ (.member r.path)) fun kind ht => ?_).mono ?_
  · exact optionRel_mono (Criterion.scalarFormula?_complementsIfCompared hop o (.member r.path)
      kind r.nullable) fun f g h => ⟨kind, ht, h⟩
  · rintro f g ⟨kind, ht, hk, ha, hfg⟩ ρ _ row hrow segments' hs'
    obtain rfl := PropertyPath.plain.inj (Except.ok.inj (hs.symm.trans hs'))
    have hoperand : c.operandKind = kind := by
      rcases Kind.accepts_iff.mp ha with h | ⟨h, -⟩
      · exact h
      · exact absurd h (Criterion.ne_text_of_isOrdered hk)
    rw [hoperand] at hvalue
    have hg : (Reading.ofValue c.value : Reading ρ).OfKind kind := by
      rcases hvalue with hnull | hkind
      · exact Or.inl (by rw [hnull]; rfl)
      · exact Or.inr ((Reading.kind?_ofValue c.value).trans hkind)
    rw [← hr.read_eq_valueAt row,
      ← Reading.isSome_compare?_iff hk (ofKind_read hr ht hrow).1 hg]
    exact hfg ρ row

/-- Equality and inequality with one value, null included, describe opposites. -/
theorem described?_equal (t : ValueType) (property : String) (value : t.Carrier) :
    ∃ c op', (Step.test .equal t property value).described? = some c ∧
      (Step.test .notEqual t property value).described? = some { c with operator := op' } ∧
      c.operator.negation? = some op' ∧ c.operator.isMembership = false := by
  simp only [Step.described?, nullTest?]
  cases t.toValue value with
  | null => exact ⟨_, _, rfl, rfl, rfl, rfl⟩
  | _ => exact ⟨_, _, rfl, rfl, rfl, rfl⟩

/-- **Opposite operators are opposites.**

    Two steps that describe the same criterion at a path without brackets, with operators that are
    opposites, are refused alike, with the same error but for the operator that it may name, or
    both make a predicate. For the negations exactly one of the predicates accepts each record
    whatever, also one that does not keep to the schema. A membership test of a text is the
    exception: of the records that conform exactly one predicate accepts each that holds something
    at the path, and neither accepts one that holds a null. For the comparisons by order exactly
    one accepts a record that conforms if neither the member nor the operand is a null or a NaN,
    and neither does otherwise. The steps for equality and inequality with one value are such a
    pair, also for a null, which both record as null tests. -/
theorem opposites_parallel (hst : st.described? = some c)
    (hst' : st'.described? = some { c with operator := op' })
    (hpath : ∀ base inner, PropertyPath.parse c.property ≠ .ok (.bracketed base inner)) :
    (c.operator.negation? = some op' →
      (c.operator.isMembership = true → c.value.asText? = none) →
      Parallel c.operator op'
        (fun p q => ∀ (ρ : Type) [Record ρ] (row : ρ), p.accepts row = !q.accepts row)
        (st.predicate family o i) (st'.predicate family o i)) ∧
    (c.operator.negation? = some op' → c.operator.isMembership = true →
      c.value.asText?.isSome = true →
      Parallel c.operator op'
        (fun p q => ∀ (ρ : Type) [Record ρ] (row : ρ), family.Conforms i row →
          ∀ segments, PropertyPath.parse c.property = .ok (.plain segments) →
            ExactlyOneIf (family.valueAt i segments row ≠ .null) (p.accepts row) (q.accepts row))
        (st.predicate family o i) (st'.predicate family o i)) ∧
    (c.operator.converse? = some op' →
      Parallel c.operator op'
        (fun p q => ∀ (ρ : Type) [Record ρ] (row : ρ), family.Conforms i row →
          ∀ segments, PropertyPath.parse c.property = .ok (.plain segments) →
            ExactlyOneIf ((family.valueAt i segments row).IsComparable ∧
              (Reading.ofValue c.value : Reading ρ).IsComparable) (p.accepts row) (q.accepts row))
        (st.predicate family o i) (st'.predicate family o i)) ∧
    ∀ (t : ValueType) (property : String) (value : t.Carrier), ∃ c op',
      (Step.test .equal t property value).described? = some c ∧
        (Step.test .notEqual t property value).described? = some { c with operator := op' } ∧
        c.operator.negation? = some op' ∧ c.operator.isMembership = false :=
  ⟨parallel_of_negation? hst hst' hpath, parallel_of_text hst hst' hpath,
    parallel_of_converse? hst hst' hpath, described?_equal⟩

end Steps

end CriteriaSet

namespace Sample

/-- A step that asks whether the city contains a part. -/
def cityTest (op : Operator) (part : String) : CriteriaSet.Step :=
  .test op (.scalar (.text .borrowed)) "address.city" part

/-- Somebody without an address is in no city that contains a part and in none that does not. -/
theorem opposites_parallel_stranger :
    ∃ p q, (cityTest .contains "lis").predicate shop ⟨true⟩ .person = .ok p ∧
      (cityTest .notContains "lis").predicate shop ⟨true⟩ .person = .ok q ∧
      p.accepts stranger = false ∧ q.accepts stranger = false := by
  have hparse : PropertyPath.parse "address.city" = .ok (.plain ["address", "city"]) := rfl
  refine ⟨_, _, rfl, rfl, ?_⟩
  have h := (@CriteriaSet.opposites_parallel TypeName shop ⟨true⟩ .person
    (cityTest .contains "lis") (cityTest .notContains "lis") _ _ rfl rfl
    (fun base inner hb => by cases hparse.symm.trans hb)).2.1 rfl rfl rfl
  cases h with
  | ok h => exact (h Row stranger conforms_stranger _ hparse).2 (fun hne => hne rfl)

end Sample

end Winnow
