/-
  Which formula a criterion is compiled to.

  One rule for each way in which an operator and an operand make a formula for a member:
  `ScalarRule` for the kinds that are neither enum nor spatial, `EnumRule` and `SpatialRule` for
  the other two. Compilation succeeds only by a rule (`scalarRule_of_scalarFormula?`,
  `enumRule_of_enumFormula?`, `spatialRule_of_spatialFormula?`), and `memberRule_of_memberFormula`
  puts the three together with the null tests. What is proved of all compiled criteria is proved
  rule by rule.

  `compile_eq_ok_iff` adds the two forms of a path, and `Predicate.compileAll_induction` the sets:
  what holds of the formula of every criterion and is kept by conjunction and disjunction holds of
  the predicate.
-/
import Winnow.Predicate.Compile

namespace Winnow

/-- The test at one end of a text that an operator stands for. -/
def Operator.affix? : Operator → Option TextTest
  | .startsWith => some .startsWith
  | .endsWith => some .endsWith
  | _ => none

namespace Criterion

open Formula

/-! ## The rules -/

/-- The formulas for a single value that is neither an enum nor a geometry. -/
inductive ScalarRule (o : Options) (m : Term) (kind : Kind) (nullable : Bool) (c : Criterion) :
    Formula → Prop where
  | equal (hop : c.operator = .equal) :
      ScalarRule o m kind nullable c
        (equalFormula (o.normalizeText && kind = .text) nullable m (c.value.widenTo kind))
  | notEqual (hop : c.operator = .notEqual) :
      ScalarRule o m kind nullable c
        (notEqualFormula (o.normalizeText && kind = .text) nullable m (c.value.widenTo kind))
  | affix (t : TextTest) (s : String) (hop : c.operator.affix? = some t) (hk : kind = .text)
      (hv : c.value.widenTo kind = .scalar (.text s)) :
      ScalarRule o m kind nullable c
        (.and (isNotNull m) (.textTest t (sides o.normalizeText m (.scalar (.text s))).1
          (sides o.normalizeText m (.scalar (.text s))).2))
  | order (comparison : Comparison) (hop : c.operator.comparison? = some comparison)
      (hk : kind.isOrdered = true) :
      ScalarRule o m kind nullable c
        (guardedIf nullable m (.compare comparison m (.constant (c.value.widenTo kind))))
  | range (hop : c.operator = .between) (hk : kind.isOrdered = true)
      (hhigh : (c.value2.widenTo kind).kind?.any kind.accepts = true) :
      ScalarRule o m kind nullable c
        (guardedIf nullable m
          (rangeFormula m (c.value.widenTo kind) (c.value2.widenTo kind)))
  | empty (hop : c.operator = .isEmpty) (hk : kind = .text) :
      ScalarRule o m kind nullable c (.compare .eq m emptyText)
  | notEmpty (hop : c.operator = .isNotEmpty) (hk : kind = .text) :
      ScalarRule o m kind nullable c (.compare .ne m emptyText)
  | blank (hop : c.operator = .isNullOrWhiteSpace) (hk : kind = .text) :
      ScalarRule o m kind nullable c (.or (isNull m) (.compare .eq (.trim m) emptyText))
  | notBlank (hop : c.operator = .isNotNullOrWhiteSpace) (hk : kind = .text) :
      ScalarRule o m kind nullable c (.and (isNotNull m) (.compare .ne (.trim m) emptyText))
  | oneOf (items : List Value) (hop : c.operator.isMembership = true)
      (hv : c.value.widenTo kind = .list items) :
      ScalarRule o m kind nullable c
        (negatedIf c.operator.isNegatedMembership (.oneOf items m))
  | contains (s : String) (hop : c.operator.isMembership = true) (hk : kind = .text)
      (hv : c.value.widenTo kind = .scalar (.text s)) :
      ScalarRule o m kind nullable c
        (if c.operator.isNegatedMembership then
          guardedIf nullable m (.not (.textTest .contains
            (sides o.normalizeText m (.scalar (.text s))).1
            (sides o.normalizeText m (.scalar (.text s))).2))
        else .textTest .contains (sides o.normalizeText m (.scalar (.text s))).1
          (sides o.normalizeText m (.scalar (.text s))).2)

/-- The formulas for an enum or a set of flags. -/
inductive EnumRule (m : Term) (c : Criterion) : Formula → Prop where
  | equal (hop : c.operator = .equal) :
      EnumRule m c (.compare .eq (.bits m) (.bits (.constant c.value)))
  | notEqual (hop : c.operator = .notEqual) :
      EnumRule m c (.compare .ne (.bits m) (.bits (.constant c.value)))
  | oneOf (items : List Value) (hop : c.operator.isMembership = true)
      (hv : c.value = .list items) :
      EnumRule m c (negatedIf c.operator.isNegatedMembership (.oneOf items m))
  | flags (hop : c.operator.isMembership = true) (hv : c.value.items? = none) :
      EnumRule m c (negatedIf c.operator.isNegatedMembership (flagsFormula m c.value))

/-- The formulas for a geometry. -/
inductive SpatialRule (m : Term) (c : Criterion) : Formula → Prop where
  | test (t : SpatialTest) (g : Geometry) (hop : SpatialTest.ofOperator? c.operator = some t)
      (hv : c.value = .scalar (.geometry g)) :
      SpatialRule m c (.and (isNotNull m) (.spatial t m g (distance? t c.value2)))

/-! ## Compilation follows the rules -/

theorem accepts_of_scalarFormula? {o : Options} {m : Term} {kind : Kind} {nullable : Bool}
    {c : Criterion} {f : Formula} (h : scalarFormula? o m kind nullable c = some f) :
    kind.accepts c.operandKind = true := by
  unfold scalarFormula? at h
  split at h
  · exact absurd h (by simp)
  · next ha => simpa using ha

theorem affixRule {o : Options} {m : Term} {kind : Kind} {nullable : Bool} {c : Criterion}
    {f : Formula} {t : TextTest} (hop : c.operator.affix? = some t)
    (h : affixFormula? t (o.normalizeText && kind = .text) m kind (c.value.widenTo kind) =
      some f) : ScalarRule o m kind nullable c f := by
  unfold affixFormula? at h
  split at h
  · next hkv =>
    obtain ⟨hk, hv⟩ := hkv
    obtain ⟨s, hs⟩ := Option.isSome_iff_exists.mp hv
    have hval : c.value.widenTo kind = .scalar (.text s) := by
      cases hw : c.value.widenTo kind with
      | scalar a => cases a <;> simp_all [Value.text?]
      | _ => simp_all [Value.text?]
    have hn : (o.normalizeText && decide (kind = .text)) = o.normalizeText := by simp [hk]
    rw [hval, hn] at h
    injection h with h
    subst h
    exact .affix t s hop hk hval
  · exact absurd h (by simp)

theorem membershipRule {o : Options} {m : Term} {kind : Kind} {nullable : Bool}
    {c : Criterion} {f : Formula} (hop : c.operator.isMembership = true)
    (h : membershipFormula? c.operator.isNegatedMembership (o.normalizeText && kind = .text)
      nullable m kind (c.value.widenTo kind) = some f) : ScalarRule o m kind nullable c f := by
  unfold membershipFormula? at h
  split at h
  · next items hv =>
    injection h with h
    subst h
    exact .oneOf items hop hv
  · next s hv =>
    split at h
    · next hk =>
      have hn : (o.normalizeText && decide (kind = .text)) = o.normalizeText := by simp [hk]
      rw [hn] at h
      injection h with h
      subst h
      exact .contains s hop hk hv
    · exact absurd h (by simp)
  · exact absurd h (by simp)

theorem scalarRule_of_scalarFormula? {o : Options} {m : Term} {kind : Kind} {nullable : Bool}
    {c : Criterion} {f : Formula} (h : scalarFormula? o m kind nullable c = some f) :
    ScalarRule o m kind nullable c f := by
  have haccepts := accepts_of_scalarFormula? h
  unfold scalarFormula? at h
  rw [haccepts] at h
  simp only [Bool.not_true, Bool.false_eq_true, if_false] at h
  split at h
  · next hop =>
    injection h with h
    subst h
    exact .equal hop
  · next hop =>
    injection h with h
    subst h
    exact .notEqual hop
  · next hop => exact affixRule (by rw [hop]; rfl) h
  · next hop => exact affixRule (by rw [hop]; rfl) h
  · next hop =>
    split at h
    · next hk =>
      rw [Bool.and_eq_true] at hk
      injection h with h
      subst h
      exact .range hop hk.1 hk.2
    · exact absurd h (by simp)
  · next hop =>
    obtain ⟨hk, ⟨⟩⟩ := Option.ite_none_right_eq_some.mp h
    exact .empty hop hk
  · next hop =>
    obtain ⟨hk, ⟨⟩⟩ := Option.ite_none_right_eq_some.mp h
    exact .notEmpty hop hk
  · next hop =>
    obtain ⟨hk, ⟨⟩⟩ := Option.ite_none_right_eq_some.mp h
    exact .blank hop hk
  · next hop =>
    obtain ⟨hk, ⟨⟩⟩ := Option.ite_none_right_eq_some.mp h
    exact .notBlank hop hk
  · split at h
    · next hop => exact membershipRule hop h
    · split at h
      · next hk =>
        obtain ⟨comparison, hop, rfl⟩ := Option.map_eq_some_iff.mp h
        exact .order comparison hop hk
      · exact absurd h (by simp)

theorem enumRule_of_enumFormula? {m : Term} {c : Criterion} {f : Formula}
    (h : enumFormula? m c = some f) : c.operandKind = .enum ∧ EnumRule m c f := by
  unfold enumFormula? at h
  split at h
  · exact absurd h (by simp)
  · next hkind =>
    refine ⟨Decidable.of_not_not hkind, ?_⟩
    split at h
    · next hop =>
      injection h with h
      subst h
      exact .equal hop
    · next hop =>
      injection h with h
      subst h
      exact .notEqual hop
    · split at h
      · next hop =>
        injection h with h
        subst h
        cases hv : c.value with
        | list items => exact .oneOf items hop hv
        | null => simpa [hv] using EnumRule.flags (m := m) hop (by rw [hv]; rfl)
        | scalar s => simpa [hv] using EnumRule.flags (m := m) hop (by rw [hv]; rfl)
      · exact absurd h (by simp)

theorem spatialRule_of_spatialFormula? {m : Term} {c : Criterion} {f : Formula}
    (h : spatialFormula? m c = some f) : SpatialRule m c f := by
  unfold spatialFormula? at h
  split at h
  · next t g hop hv =>
    injection h with h
    subst h
    exact .test t g hop hv
  · exact absurd h (by simp)

/-! ## Members -/

variable {ι : Type}

/-- The formulas for a resolved member: a null test of any member, and the rules for single
values. -/
inductive MemberRule (o : Options) (r : ResolvedMember ι) (c : Criterion) : Formula → Prop where
  | isNull (hop : c.operator = .isNull) : MemberRule o r c (isNull (.member r.path))
  | isNotNull (hop : c.operator = .isNotNull) : MemberRule o r c (isNotNull (.member r.path))
  | enum (ht : r.type = .scalar .enum) (hk : c.operandKind = .enum) {f : Formula}
      (hf : EnumRule (.member r.path) c f) : MemberRule o r c f
  | spatial (ht : r.type = .scalar .spatial) {f : Formula}
      (hf : SpatialRule (.member r.path) c f) : MemberRule o r c f
  | scalar (kind : Kind) (ht : r.type = .scalar kind) (hs : kind ≠ .spatial)
      (ha : kind.accepts c.operandKind = true) {f : Formula}
      (hf : ScalarRule o (.member r.path) kind r.nullable c f) : MemberRule o r c f

theorem memberRule_of_memberFormula {family : Family ι} {o : Options} {r : ResolvedMember ι}
    {c : Criterion} {f : Formula} (h : memberFormula family o r c = .ok f) :
    MemberRule o r c f := by
  unfold memberFormula at h
  dsimp only at h
  split at h
  · next hop =>
    injection h with h
    subst h
    exact .isNull hop
  · next hop =>
    injection h with h
    subst h
    exact .isNotNull hop
  · next ht _ _ =>
    split at h
    · next g hg =>
      injection h with h
      subst h
      obtain ⟨hk, hrule⟩ := enumRule_of_enumFormula? hg
      exact .enum ht hk hrule
    · exact absurd h (by simp)
  · next ht _ _ =>
    split at h
    · next g hg =>
      injection h with h
      subst h
      exact .spatial ht (spatialRule_of_spatialFormula? hg)
    · exact absurd h (by simp)
  · next kind _ hs ht _ _ =>
    split at h
    · next g hg =>
      injection h with h
      subst h
      exact .scalar kind ht hs (accepts_of_scalarFormula? hg) (scalarRule_of_scalarFormula? hg)
    · exact absurd h (by simp)
  · exact absurd h (by simp)

/-- A criterion compiles at segments exactly if they reach a member for which it has a formula. -/
theorem compileAt_eq_ok_iff {family : Family ι} {o : Options} {i : ι} {segments : List String}
    {parameter : String} {c : Criterion} {f : Formula} :
    c.compileAt family o i segments parameter = .ok f ↔
      ∃ r, family.resolve i segments parameter = .ok r ∧ memberFormula family o r c = .ok f := by
  unfold compileAt
  cases family.resolve i segments parameter with
  | error e => simp [bind, Except.bind]
  | ok r => simp [bind, Except.bind]

/-- At a path without brackets a criterion is compiled for the member of the row. -/
theorem compile_of_plain {family : Family ι} {o : Options} {i : ι} {c : Criterion}
    {segments : List String} (h : PropertyPath.parse c.property = .ok (.plain segments)) :
    c.compile family o i = c.compileAt family o i segments rowParameter := by
  unfold compile
  rw [h]
  rfl

theorem compile_of_parse_error {family : Family ι} {o : Options} {i : ι} {c : Criterion}
    {e : Error} (h : PropertyPath.parse c.property = .error e) :
    c.compile family o i = .error e := by
  unfold compile
  simp only [h, bind, Except.bind]

theorem compile_of_bracketed_error {family : Family ι} {o : Options} {i : ι} {c : Criterion}
    {base inner : List String} {e : Error}
    (h : PropertyPath.parse c.property = .ok (.bracketed base inner))
    (hr : family.resolve i base rowParameter = .error e) : c.compile family o i = .error e := by
  unfold compile
  simp only [h, hr, bind, Except.bind]

theorem compile_of_bracketed_collection {family : Family ι} {o : Options} {i element : ι}
    {c : Criterion} {base inner : List String} {r : ResolvedMember ι}
    (h : PropertyPath.parse c.property = .ok (.bracketed base inner))
    (hr : family.resolve i base rowParameter = .ok r) (ht : r.type = .collection element) :
    c.compile family o i =
      (c.compileAt family o element inner elementParameter).map (.any r.path) := by
  unfold compile
  simp only [h, hr, ht, bind, Except.bind]
  cases c.compileAt family o element inner elementParameter <;> rfl

theorem compile_of_bracketed_other {family : Family ι} {o : Options} {i : ι} {c : Criterion}
    {base inner : List String} {r : ResolvedMember ι}
    (h : PropertyPath.parse c.property = .ok (.bracketed base inner))
    (hr : family.resolve i base rowParameter = .ok r)
    (ht : ∀ element, r.type ≠ .collection element) :
    c.compile family o i = .error
      (.notACollection (trim c.property) (r.path.segments.getLast?.getD "") r.owner) := by
  unfold compile
  simp only [h, hr, bind, Except.bind]

/-- A criterion compiles for a member of the row, or for the elements of a collection. -/
theorem compile_eq_ok_iff {family : Family ι} {o : Options} {i : ι} {c : Criterion}
    {f : Formula} :
    c.compile family o i = .ok f ↔
      (∃ segments, PropertyPath.parse c.property = .ok (.plain segments) ∧
        c.compileAt family o i segments rowParameter = .ok f) ∨
      ∃ base inner r element g, PropertyPath.parse c.property = .ok (.bracketed base inner) ∧
        family.resolve i base rowParameter = .ok r ∧ r.type = .collection element ∧
        c.compileAt family o element inner elementParameter = .ok g ∧ f = .any r.path g := by
  constructor
  · intro h
    cases hs : PropertyPath.parse c.property with
    | error e =>
      rw [compile_of_parse_error hs] at h
      exact absurd h (by simp)
    | ok path =>
      cases path with
      | plain segments =>
        rw [compile_of_plain hs] at h
        exact Or.inl ⟨segments, rfl, h⟩
      | bracketed base inner =>
        cases hr : family.resolve i base rowParameter with
        | error e =>
          rw [compile_of_bracketed_error hs hr] at h
          exact absurd h (by simp)
        | ok r =>
          cases ht : r.type with
          | scalar | record =>
            rw [compile_of_bracketed_other hs hr (by simp [ht])] at h
            exact absurd h (by simp)
          | collection element =>
            rw [compile_of_bracketed_collection hs hr ht] at h
            cases hg : c.compileAt family o element inner elementParameter with
            | error e => simp [hg, Except.map] at h
            | ok g =>
              rw [hg] at h
              injection h with h
              exact Or.inr ⟨base, inner, r, element, g, rfl, hr, ht, hg, h.symm⟩
  · rintro (⟨segments, hs, h⟩ | ⟨base, inner, r, element, g, hs, hr, ht, hg, rfl⟩)
    · rw [compile_of_plain hs, h]
    · rw [compile_of_bracketed_collection hs hr ht, hg]
      rfl

end Criterion

/-- The predicate of a single criterion is the criterion's formula. -/
theorem Predicate.compile_singleton {ι : Type} (family : Family ι) (o : Options) (i : ι)
    (c : Criterion) :
    Predicate.compile family o i ⟨[c]⟩ = (c.compile family o i).map Predicate.mk := by
  unfold Predicate.compile Predicate.compileAll
  cases h : c.compile family o i with
  | error e => simp [List.mapM_cons, CriteriaSet.compile, h, bind, Except.bind, Except.map]
  | ok f =>
    simp [List.mapM_cons, CriteriaSet.compile, CriteriaSet.compileFrom, h, bind, Except.bind,
      Except.map, pure, Except.pure, conjunction]

theorem Predicate.compile_singleton_eq_ok_iff {ι : Type} {family : Family ι} {o : Options}
    {i : ι} {c : Criterion} {p : Predicate} :
    Predicate.compile family o i ⟨[c]⟩ = .ok p ↔ c.compile family o i = .ok p.formula := by
  rw [Predicate.compile_singleton]
  obtain ⟨f⟩ := p
  cases c.compile family o i <;> simp [Except.map]

/-! ## Sets -/

theorem CriteriaSet.compileFrom_induction {ι : Type} {family : Family ι} {o : Options} {i : ι}
    {P : Formula → Prop} (hand : ∀ f g, P f → P g → P (.and f g))
    (hor : ∀ f g, P f → P g → P (.or f g)) {cs : List Criterion}
    (hcs : ∀ c ∈ cs, ∀ f, c.compile family o i = .ok f → P f) {f g : Formula} {k : Connector}
    (hf : P f) (hg : CriteriaSet.compileFrom family o i f k cs = .ok g) : P g := by
  induction cs generalizing f k with
  | nil =>
    injection hg with hg
    exact hg ▸ hf
  | cons c rest ih =>
    rw [CriteriaSet.compileFrom] at hg
    cases hc : c.compile family o i with
    | error e => simp [hc, bind, Except.bind] at hg
    | ok h =>
      have hh : P h := hcs c List.mem_cons_self h hc
      have hjoin : P (k.join f h) := by
        cases k with
        | and => exact hand f h hf hh
        | or => exact hor f h hf hh
      simp only [hc, bind, Except.bind] at hg
      exact ih (fun c hc => hcs c (List.mem_cons_of_mem _ hc)) hjoin hg

theorem CriteriaSet.compile_induction {ι : Type} {family : Family ι} {o : Options} {i : ι}
    {P : Formula → Prop} (hand : ∀ f g, P f → P g → P (.and f g))
    (hor : ∀ f g, P f → P g → P (.or f g)) {s : CriteriaSet}
    (hs : ∀ c ∈ s.criteria, ∀ f, c.compile family o i = .ok f → P f) {f : Formula}
    (hf : s.compile family o i = .ok (some f)) : P f := by
  obtain ⟨criteria⟩ := s
  cases criteria with
  | nil => exact absurd hf (by simp [CriteriaSet.compile])
  | cons c rest =>
    unfold CriteriaSet.compile at hf
    cases hc : c.compile family o i with
    | error e => simp [hc, bind, Except.bind] at hf
    | ok g =>
      simp only [hc, bind, Except.bind] at hf
      cases hrest : CriteriaSet.compileFrom family o i g c.connector rest with
      | error e => simp [hrest] at hf
      | ok h =>
        rw [hrest] at hf
        injection hf with hf
        injection hf with hf
        subst hf
        exact CriteriaSet.compileFrom_induction hand hor
          (fun c hc => hs c (List.mem_cons_of_mem _ hc)) (hs c List.mem_cons_self g hc) hrest

/-- Every formula of a list of sets is that of a set. -/
theorem CriteriaSet.exists_of_mem_mapM {ι : Type} {family : Family ι} {o : Options} {i : ι}
    {sets : List CriteriaSet} {fs : List (Option Formula)}
    (h : sets.mapM (·.compile family o i) = .ok fs) {f : Option Formula} (hf : f ∈ fs) :
    ∃ s ∈ sets, s.compile family o i = .ok f := by
  induction sets generalizing fs with
  | nil =>
    injection h with h
    subst h
    exact absurd hf List.not_mem_nil
  | cons s rest ih =>
    rw [List.mapM_cons] at h
    cases hs : s.compile family o i with
    | error e => simp [hs, bind, Except.bind] at h
    | ok g =>
      cases hrest : rest.mapM (·.compile family o i) with
      | error e => simp [hs, hrest, bind, Except.bind] at h
      | ok gs =>
        simp only [hs, hrest, bind, Except.bind] at h
        injection h with h
        subst h
        rcases List.mem_cons.mp hf with rfl | hf
        · exact ⟨s, List.mem_cons_self, hs⟩
        · obtain ⟨t, ht, htf⟩ := ih hrest hf
          exact ⟨t, List.mem_cons_of_mem s ht, htf⟩

/-- What holds of the formulas of all criteria, and is kept when formulas are joined, holds of
the predicate of the sets. -/
theorem Predicate.compileAll_induction {ι : Type} {family : Family ι} {o : Options} {i : ι}
    {P : Formula → Prop} (htrue : P (.constant true)) (hand : ∀ f g, P f → P g → P (.and f g))
    (hor : ∀ f g, P f → P g → P (.or f g)) {sets : List CriteriaSet}
    (hsets : ∀ s ∈ sets, ∀ c ∈ s.criteria, ∀ f, c.compile family o i = .ok f → P f)
    {p : Predicate} (hp : Predicate.compileAll family o i sets = .ok p) : P p.formula := by
  unfold Predicate.compileAll at hp
  cases hfs : sets.mapM (·.compile family o i) with
  | error e => simp [hfs, bind, Except.bind] at hp
  | ok fs =>
    simp only [hfs, bind, Except.bind] at hp
    injection hp with hp
    subst hp
    have hall : ∀ f ∈ fs.filterMap id, P f := by
      intro f hf
      obtain ⟨g, hg, rfl⟩ := List.mem_filterMap.mp hf
      obtain ⟨s, hs, hcompile⟩ := CriteriaSet.exists_of_mem_mapM hfs hg
      exact CriteriaSet.compile_induction hand hor (hsets s hs) hcompile
    show P (Predicate.conjunction (fs.filterMap id))
    generalize fs.filterMap id = gs at hall
    cases gs with
    | nil => exact htrue
    | cons g gs =>
      rw [Predicate.conjunction]
      induction gs generalizing g with
      | nil => exact hall g List.mem_cons_self
      | cons h gs ih =>
        refine ih (.and g h) fun f hf => ?_
        rcases List.mem_cons.mp hf with rfl | hf
        · exact hand g h (hall g List.mem_cons_self) (hall h (by simp))
        · exact hall f (by simp [hf])

end Winnow
