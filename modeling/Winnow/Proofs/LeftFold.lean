/-
  Sets of criteria are strict left folds.

  `CriteriaSet.leftFold result s` folds the results of a set's criteria from the left: it begins
  with the first result and joins each further one by the connector of the criterion before it.
  The connector of the last criterion is not read. `compileAll_leftFold`, the main statement, says
  that the predicate of several sets accepts a record exactly if the fold of every set that is not
  empty holds, and that where some criterion does not compile, the error is that of the first one
  in order, set by set, whatever the connectors.

  The induction over a set (`compileFrom_of_no_error`) keeps the formula so far and the pending
  connector in step with the fold: the connector stands one criterion ahead of the one it joins.
  `firstError?` is the error of the first criterion that has one; each layer returns it.
-/
import Winnow.Proofs.Compilation
import Winnow.Proofs.Conformance

namespace Winnow

variable {ι : Type}

/-! ## The fold -/

/-- Two results joined by a connector. -/
def Connector.joinResults : Connector → Bool → Bool → Bool
  | .and, a, b => a && b
  | .or, a, b => a || b

/-- The accumulated result with those of further criteria, each joined by the connector that
stands beside it. -/
def foldResults (result : Criterion → Bool) (acc : Bool)
    (joined : List (Connector × Criterion)) : Bool :=
  joined.foldl (fun acc j => j.1.joinResults acc (result j.2)) acc

/-- The left fold of a set: each criterion but the first is joined by the connector of the one
before it. -/
def CriteriaSet.leftFold (result : Criterion → Bool) (s : CriteriaSet) : Bool :=
  match s.criteria with
  | [] => true
  | c :: rest =>
    foldResults result (result c) (((c :: rest).map Criterion.connector).zip rest)

/-- The result of a criterion on its own, for one record. -/
def Criterion.holdsAlone {ρ : Type} [Record ρ] (family : Family ι) (o : Options) (i : ι)
    (row : ρ) (c : Criterion) : Bool :=
  match c.compile family o i with
  | .ok f => f.holds row
  | .error _ => false

/-- The error of a criterion that does not compile. -/
def Criterion.error? (family : Family ι) (o : Options) (i : ι) (c : Criterion) : Option Error :=
  match c.compile family o i with
  | .ok _ => none
  | .error e => some e

/-- The error of the first criterion that does not compile. -/
def firstError? (family : Family ι) (o : Options) (i : ι) (cs : List Criterion) : Option Error :=
  cs.findSome? (Criterion.error? family o i)

theorem Criterion.error?_eq_none_iff {family : Family ι} {o : Options} {i : ι} {c : Criterion} :
    c.error? family o i = none ↔ ∃ f, c.compile family o i = .ok f := by
  unfold Criterion.error?
  cases c.compile family o i <;> simp

theorem Criterion.error?_eq_some_iff {family : Family ι} {o : Options} {i : ι} {c : Criterion}
    {e : Error} : c.error? family o i = some e ↔ c.compile family o i = .error e := by
  unfold Criterion.error?
  cases c.compile family o i <;> simp

theorem firstError?_eq_none_iff {family : Family ι} {o : Options} {i : ι} {cs : List Criterion} :
    firstError? family o i cs = none ↔ ∀ c ∈ cs, ∃ f, c.compile family o i = .ok f := by
  simp only [firstError?, List.findSome?_eq_none_iff, Criterion.error?_eq_none_iff]

theorem firstError?_eq_some_iff {family : Family ι} {o : Options} {i : ι} {cs : List Criterion}
    {e : Error} :
    firstError? family o i cs = some e ↔
      ∃ before c after, cs = before ++ c :: after ∧
        (∀ b ∈ before, ∃ f, b.compile family o i = .ok f) ∧ c.compile family o i = .error e := by
  rw [firstError?, List.findSome?_eq_some_iff]
  simp only [Criterion.error?_eq_none_iff, Criterion.error?_eq_some_iff]
  constructor
  · rintro ⟨before, c, after, hcs, he, hb⟩
    exact ⟨before, c, after, hcs, hb, he⟩
  · rintro ⟨before, c, after, hcs, hb, he⟩
    exact ⟨before, c, after, hcs, he, hb⟩

theorem firstError?_cons_of_ok {family : Family ι} {o : Options} {i : ι} {c : Criterion}
    {f : Formula} (h : c.compile family o i = .ok f) (cs : List Criterion) :
    firstError? family o i (c :: cs) = firstError? family o i cs := by
  rw [firstError?, List.findSome?_cons, Criterion.error?_eq_none_iff.mpr ⟨f, h⟩]
  rfl

theorem firstError?_cons_of_error {family : Family ι} {o : Options} {i : ι} {c : Criterion}
    {e : Error} (h : c.compile family o i = .error e) (cs : List Criterion) :
    firstError? family o i (c :: cs) = some e := by
  rw [firstError?, List.findSome?_cons, Criterion.error?_eq_some_iff.mpr h]

/-! ## One set -/

theorem Connector.holds_join {ρ : Type} [Record ρ] (k : Connector) (f g : Formula) (row : ρ) :
    (k.join f g).holds row = k.joinResults (f.holds row) (g.holds row) := by
  cases k <;> rfl

theorem Criterion.holdsAlone_of_compile {ρ : Type} [Record ρ] {family : Family ι} {o : Options}
    {i : ι} {c : Criterion} {f : Formula} (h : c.compile family o i = .ok f) (row : ρ) :
    c.holdsAlone family o i row = f.holds row := by
  rw [Criterion.holdsAlone, h]

namespace CriteriaSet

/-- The formula so far stays in step with the fold, and the pending connector with the list of
connectors, which is one ahead of the list of criteria. -/
theorem compileFrom_of_no_error {family : Family ι} {o : Options} {i : ι} (cs : List Criterion)
    (f : Formula) (k : Connector) (h : firstError? family o i cs = none) :
    ∃ g, compileFrom family o i f k cs = .ok g ∧
      ∀ {ρ : Type} [Record ρ] (row : ρ), g.holds row =
        foldResults (Criterion.holdsAlone family o i row) (f.holds row)
          ((k :: cs.map Criterion.connector).zip cs) := by
  induction cs generalizing f k with
  | nil => exact ⟨f, rfl, fun row => rfl⟩
  | cons c rest ih =>
    cases hc : c.compile family o i with
    | error e =>
      rw [firstError?_cons_of_error hc] at h
      exact absurd h (by simp)
    | ok g =>
      rw [firstError?_cons_of_ok hc] at h
      obtain ⟨g', hg', hholds⟩ := ih (k.join f g) c.connector h
      refine ⟨g', ?_, ?_⟩
      · rw [compileFrom, hc]
        exact hg'
      · intro ρ _ row
        rw [hholds row, Connector.holds_join, ← Criterion.holdsAlone_of_compile hc row]
        rfl

theorem compileFrom_of_error {family : Family ι} {o : Options} {i : ι} {e : Error}
    (cs : List Criterion) (f : Formula) (k : Connector)
    (h : firstError? family o i cs = some e) :
    compileFrom family o i f k cs = .error e := by
  induction cs generalizing f k with
  | nil => exact absurd h (by simp [firstError?])
  | cons c rest ih =>
    rw [compileFrom]
    cases hc : c.compile family o i with
    | error e' =>
      rw [firstError?_cons_of_error hc] at h
      exact congrArg Except.error (Option.some.inj h)
    | ok g =>
      rw [firstError?_cons_of_ok hc] at h
      exact ih (k.join f g) c.connector h

theorem compile_cons_of_ok {family : Family ι} {o : Options} {i : ι} {c : Criterion}
    {f : Formula} (h : c.compile family o i = .ok f) (rest : List Criterion) :
    compile family o i ⟨c :: rest⟩ = (compileFrom family o i f c.connector rest).map some := by
  unfold compile
  simp only [h, bind, Except.bind]
  cases compileFrom family o i f c.connector rest <;> rfl

theorem compile_cons_of_error {family : Family ι} {o : Options} {i : ι} {c : Criterion}
    {e : Error} (h : c.compile family o i = .error e) (rest : List Criterion) :
    compile family o i ⟨c :: rest⟩ = .error e := by
  unfold compile
  simp only [h]
  rfl

/-- A set whose criteria all compile has a formula, unless it is empty, and the formula is the
fold of their results. -/
theorem compile_of_no_error {family : Family ι} {o : Options} {i : ι} {s : CriteriaSet}
    (h : firstError? family o i s.criteria = none) :
    ∃ f, s.compile family o i = .ok f ∧ (f = none ↔ s.criteria = []) ∧
      ∀ {ρ : Type} [Record ρ] (row : ρ), f.all (fun g => g.holds row) =
        s.leftFold (Criterion.holdsAlone family o i row) := by
  obtain ⟨criteria⟩ := s
  cases criteria with
  | nil => exact ⟨none, rfl, by simp, fun row => rfl⟩
  | cons c rest =>
    cases hc : c.compile family o i with
    | error e =>
      rw [firstError?_cons_of_error hc] at h
      exact absurd h (by simp)
    | ok f =>
      rw [firstError?_cons_of_ok hc] at h
      obtain ⟨g, hg, hholds⟩ := compileFrom_of_no_error rest f c.connector h
      refine ⟨some g, ?_, by simp, ?_⟩
      · rw [compile_cons_of_ok hc, hg]
        rfl
      · intro ρ _ row
        rw [Option.all_some, hholds row, ← Criterion.holdsAlone_of_compile hc row]
        rfl

theorem compile_of_error {family : Family ι} {o : Options} {i : ι} {e : Error} {s : CriteriaSet}
    (h : firstError? family o i s.criteria = some e) : s.compile family o i = .error e := by
  obtain ⟨criteria⟩ := s
  cases criteria with
  | nil => exact absurd h (by simp [firstError?])
  | cons c rest =>
    cases hc : c.compile family o i with
    | error e' =>
      rw [firstError?_cons_of_error hc] at h
      rw [compile_cons_of_error hc]
      exact congrArg Except.error (Option.some.inj h)
    | ok f =>
      rw [firstError?_cons_of_ok hc] at h
      rw [compile_cons_of_ok hc, compileFrom_of_error rest f c.connector h]
      rfl

/-- The connector of the last criterion means nothing. -/
theorem compileFrom_append_connector (family : Family ι) (o : Options) (i : ι) (f : Formula)
    (k k' : Connector) (cs : List Criterion) (c : Criterion) :
    compileFrom family o i f k (cs ++ [{ c with connector := k' }]) =
      compileFrom family o i f k (cs ++ [c]) := by
  induction cs generalizing f k with
  | nil => rfl
  | cons b cs ih =>
    rw [List.cons_append, List.cons_append, compileFrom, compileFrom]
    cases b.compile family o i with
    | error e => rfl
    | ok g => exact ih (k.join f g) b.connector

theorem compile_connect (family : Family ι) (o : Options) (i : ι) (s : CriteriaSet)
    (k : Connector) : (s.connect k).compile family o i = s.compile family o i := by
  obtain ⟨criteria⟩ := s
  rcases List.eq_nil_or_concat criteria with rfl | ⟨cs, c, rfl⟩
  · rfl
  · rw [connect, List.concat_eq_append, List.getLast?_concat]
    simp only [List.dropLast_concat]
    cases cs with
    | nil => rfl
    | cons b cs =>
      cases hb : b.compile family o i with
      | error e =>
        rw [List.cons_append, List.cons_append, compile_cons_of_error hb, compile_cons_of_error hb]
      | ok f =>
        rw [List.cons_append, List.cons_append, compile_cons_of_ok hb, compile_cons_of_ok hb,
          compileFrom_append_connector]

end CriteriaSet

/-! ## Several sets -/

theorem Predicate.holds_conjunction {ρ : Type} [Record ρ] (fs : List Formula) (row : ρ) :
    (Predicate.conjunction fs).holds row = fs.all fun f => f.holds row := by
  cases fs with
  | nil => rfl
  | cons f fs =>
    rw [Predicate.conjunction]
    induction fs generalizing f with
    | nil => simp
    | cons g fs ih =>
      rw [List.foldl_cons, ih (.and f g)]
      simp [Formula.holds, Bool.and_assoc]

theorem firstError?_append (family : Family ι) (o : Options) (i : ι) (cs ds : List Criterion) :
    firstError? family o i (cs ++ ds) =
      (firstError? family o i cs).or (firstError? family o i ds) :=
  List.findSome?_append

/-- The criteria of all sets, in order. -/
def allCriteria (sets : List CriteriaSet) : List Criterion := sets.flatMap (·.criteria)

theorem mapM_compile_of_error {family : Family ι} {o : Options} {i : ι} {e : Error}
    (sets : List CriteriaSet) (h : firstError? family o i (allCriteria sets) = some e) :
    sets.mapM (·.compile family o i) = .error e := by
  induction sets with
  | nil => exact absurd h (by simp [allCriteria, firstError?])
  | cons s rest ih =>
    rw [allCriteria, List.flatMap_cons, firstError?_append] at h
    rw [List.mapM_cons]
    cases hs : firstError? family o i s.criteria with
    | some e' =>
      rw [hs, Option.some_or] at h
      rw [CriteriaSet.compile_of_error (hs.trans h)]
      rfl
    | none =>
      rw [hs, Option.none_or] at h
      obtain ⟨f, hf, -, -⟩ := CriteriaSet.compile_of_no_error hs
      rw [hf]
      simp only [bind, Except.bind]
      rw [ih h]

theorem mapM_compile_of_no_error {family : Family ι} {o : Options} {i : ι}
    (sets : List CriteriaSet) (h : firstError? family o i (allCriteria sets) = none) :
    ∃ fs, sets.mapM (·.compile family o i) = .ok fs ∧
      ((∀ s ∈ sets, s.criteria = []) → fs.filterMap id = []) ∧
      ∀ {ρ : Type} [Record ρ] (row : ρ), ((fs.filterMap id).all fun f => f.holds row) =
        sets.all fun s => s.leftFold (Criterion.holdsAlone family o i row) := by
  induction sets with
  | nil => exact ⟨[], rfl, fun _ => rfl, fun row => rfl⟩
  | cons s rest ih =>
    rw [allCriteria, List.flatMap_cons, firstError?_append, Option.or_eq_none_iff] at h
    obtain ⟨f, hf, hempty, hholds⟩ := CriteriaSet.compile_of_no_error h.1
    obtain ⟨fs, hfs, hnil, hall⟩ := ih h.2
    refine ⟨f :: fs, ?_, ?_, ?_⟩
    · rw [List.mapM_cons, hf]
      simp only [bind, Except.bind]
      rw [hfs]
      rfl
    · intro hsets
      rw [hempty.mpr (hsets s List.mem_cons_self)]
      exact hnil fun t ht => hsets t (List.mem_cons_of_mem s ht)
    · intro ρ _ row
      rw [List.all_cons, ← hholds row, ← hall row]
      cases f <;> simp

namespace Predicate

theorem compileAll_of_error {family : Family ι} {o : Options} {i : ι} {e : Error}
    {sets : List CriteriaSet} (h : firstError? family o i (allCriteria sets) = some e) :
    compileAll family o i sets = .error e := by
  rw [compileAll, mapM_compile_of_error sets h]
  rfl

theorem compileAll_of_no_error {family : Family ι} {o : Options} {i : ι}
    {sets : List CriteriaSet} (h : firstError? family o i (allCriteria sets) = none) :
    ∃ p, compileAll family o i sets = .ok p ∧
      ((∀ s ∈ sets, s.criteria = []) → p = ⟨.constant true⟩) ∧
      ∀ {ρ : Type} [Record ρ] (row : ρ), p.accepts row =
        sets.all fun s => s.leftFold (Criterion.holdsAlone family o i row) := by
  obtain ⟨fs, hfs, hnil, hall⟩ := mapM_compile_of_no_error sets h
  refine ⟨⟨conjunction (fs.filterMap id)⟩, ?_, ?_, ?_⟩
  · rw [compileAll, hfs]
    rfl
  · intro hsets
    rw [hnil hsets, conjunction]
  · intro ρ _ row
    rw [accepts, holds_conjunction, hall row]

theorem compileAll_connect (family : Family ι) (o : Options) (i : ι)
    (before after : List CriteriaSet) (s : CriteriaSet) (k : Connector) :
    compileAll family o i (before ++ s.connect k :: after) =
      compileAll family o i (before ++ s :: after) := by
  rw [compileAll, compileAll, List.mapM_append, List.mapM_append, List.mapM_cons, List.mapM_cons,
    CriteriaSet.compile_connect]

/-- **Sets of criteria are strict left folds.**

    If all criteria compile, so do the sets, and the predicate accepts a record exactly if the
    left fold of every set that is not empty holds, which is no condition if all are empty; the
    connector of the last criterion of a set is not read. Otherwise the error is that of the
    first criterion that does not compile, in the order of the sets. -/
theorem compileAll_leftFold (family : Family ι) (o : Options) (i : ι)
    (sets : List CriteriaSet) :
    ((∀ s ∈ sets, ∀ c ∈ s.criteria, ∃ f, c.compile family o i = .ok f) →
      ∃ p, compileAll family o i sets = .ok p ∧
        ((∀ s ∈ sets, s.criteria = []) → p = ⟨.constant true⟩) ∧
        ∀ {ρ : Type} [Record ρ] (row : ρ), p.accepts row = true ↔
          ∀ s ∈ sets, s.criteria ≠ [] →
            s.leftFold (Criterion.holdsAlone family o i row) = true) ∧
    (∀ e, compileAll family o i sets = .error e ↔
      ∃ before c after, allCriteria sets = before ++ c :: after ∧
        (∀ b ∈ before, ∃ f, b.compile family o i = .ok f) ∧ c.compile family o i = .error e) ∧
    (∀ before s after k, sets = before ++ s :: after →
      compileAll family o i (before ++ s.connect k :: after) = compileAll family o i sets) := by
  refine ⟨?_, ?_, ?_⟩
  · intro hok
    have hnone : firstError? family o i (allCriteria sets) = none := by
      rw [firstError?_eq_none_iff]
      intro c hc
      obtain ⟨s, hs, hc⟩ := List.mem_flatMap.mp hc
      exact hok s hs c hc
    obtain ⟨p, hp, hempty, haccepts⟩ := compileAll_of_no_error hnone
    refine ⟨p, hp, hempty, ?_⟩
    intro ρ _ row
    rw [haccepts row, List.all_eq_true]
    constructor
    · intro h s hs _
      exact h s hs
    · intro h s hs
      by_cases hs' : s.criteria = []
      · rw [CriteriaSet.leftFold, hs']
      · exact h s hs hs'
  · intro e
    rw [← firstError?_eq_some_iff]
    cases h : firstError? family o i (allCriteria sets) with
    | none =>
      obtain ⟨p, hp, -, -⟩ := compileAll_of_no_error h
      simp [hp]
    | some e' => simp [compileAll_of_error h]
  · rintro before s after k rfl
    exact compileAll_connect family o i before after s k

/-- The second connector joins the third criterion to both before it. -/
example (result : Criterion → Bool) (a b c : Criterion) :
    CriteriaSet.leftFold result ⟨[{ a with connector := .or }, { b with connector := .and }, c]⟩ =
      ((result { a with connector := .or } || result { b with connector := .and }) && result c) :=
  rfl

end Predicate

namespace Sample

def nameIs (name : String) (k : Connector) : Criterion :=
  ⟨"name", .equal, k, .scalar (.text name), .null, .scalar .text "str"⟩

/-- Two sets, one of them empty. -/
def adaOrBob : List CriteriaSet := [⟨[nameIs "Ada" .or, nameIs "Bob" .and]⟩, .empty]

theorem compileAll_leftFold_adaOrBob :
    ∃ p, Predicate.compileAll shop ⟨false⟩ .person adaOrBob = .ok p ∧
      (p.accepts stranger = true ↔ ∀ s ∈ adaOrBob, s.criteria ≠ [] →
        s.leftFold (Criterion.holdsAlone shop ⟨false⟩ .person stranger) = true) := by
  have hok : ∀ s ∈ adaOrBob, ∀ c ∈ s.criteria, ∃ f, c.compile shop ⟨false⟩ .person = .ok f := by
    intro s hs c hc
    simp only [adaOrBob, List.mem_cons, List.not_mem_nil, or_false] at hs
    rcases hs with rfl | rfl
    · simp only [List.mem_cons, List.not_mem_nil, or_false] at hc
      rcases hc with rfl | rfl
      · exact ⟨_, rfl⟩
      · exact ⟨_, rfl⟩
    · exact absurd hc List.not_mem_nil
  obtain ⟨p, hp, -, haccepts⟩ :=
    (Predicate.compileAll_leftFold shop ⟨false⟩ .person adaOrBob).1 hok
  exact ⟨p, hp, haccepts stranger⟩

end Sample

end Winnow
