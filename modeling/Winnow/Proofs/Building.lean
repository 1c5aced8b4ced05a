/-
  What a sequence of steps builds.

  A step adds a criterion to the end of the set, or joins the last criterion to the next one, or
  fails and leaves the set as it is. What is built is said here without a set: `Step.criterion?` is
  the criterion that a step stands for on its own, and `settled?` is that criterion with the
  connector that the steps after it give it, up to the next one that adds.

  `criteria_attemptAll` is the main statement: the criteria are those of the steps that add one, in
  order, each settled by the steps after it. Its induction is on the steps and needs a set that is
  not empty, whose last criterion the connectors before the first addition still join anew
  (`attemptAll_eq`). That form also says what steps can do to criteria that are there already.
-/
import Mathlib.Data.List.Forall2
import Mathlib.Data.List.Infix
import Winnow.Criteria.CriteriaSet

namespace Winnow

/-- Two criteria ask for the same: they differ at most in how they are joined to the next one. -/
def Criterion.SameTest (c d : Criterion) : Prop := ∃ connector, d = { c with connector := connector }

theorem Criterion.SameTest.refl (c : Criterion) : c.SameTest c := ⟨c.connector, rfl⟩

namespace CriteriaSet

/-! ## What a step stands for -/

/-- The criterion that a step builds from its operator and its operands, if it is one that builds
a criterion. Equality with a null is a null test, and so is inequality. -/
def Step.criterion? : Step → Option (Except Error Criterion)
  | .connect _ => none
  | .push c => some (.ok c)
  | .add t property op value value2 connector =>
    some (Criterion.new t property op value value2 connector)
  | .test .equal t property value =>
    if (t.toValue value).isNull then some (Criterion.ofType t property .isNull .and)
    else some (Criterion.new t property .equal value none .and)
  | .test .notEqual t property value =>
    if (t.toValue value).isNull then some (Criterion.ofType t property .isNotNull .and)
    else some (Criterion.new t property .notEqual value none .and)
  | .test op t property value => some (Criterion.new t property op value none .and)
  | .textCheck op property => some (Criterion.ofType (.scalar (.text .owned)) property op .and)
  | .nullCheck op t property => some (Criterion.ofType t property op .and)
  | .between t property low high =>
    some (Criterion.new t property .between low (some (t.toValue high)) .and)
  | .withinDistance t property value distance =>
    some (Criterion.new t property .isWithinDistance value
      (some (.scalar (.number (.float distance)))) .and)

/-- The criterion that a step adds; one that fails adds none. -/
def Step.added? (st : Step) : Option Criterion :=
  match st.criterion? with
  | some (.ok c) => some c
  | _ => none

/-- The connector that a step gives to the criterion before it. -/
def Step.connector? : Step → Option Connector
  | .connect connector => some connector
  | _ => none

/-- The connector that steps give to the criterion before them: the last one that is given before
the next criterion is added. -/
def joining? (steps : List Step) : Option Connector :=
  ((steps.takeWhile (·.added?.isNone)).filterMap Step.connector?).getLast?

/-- The criterion that the first of the steps adds, joined as the steps after it say, or by its own
connector if they say nothing. -/
def settled? : List Step → Option Criterion
  | [] => none
  | st :: after =>
    st.added?.map fun c => { c with connector := (joining? after).getD c.connector }

/-! ## One step -/

/-- A step that builds a criterion adds it, or fails as building it does. -/
theorem step_of_criterion? {st : Step} {x : Except Error Criterion} (h : st.criterion? = some x)
    (s : CriteriaSet) : s.step st = s.append x := by
  cases st with
  | connect => exact absurd h (by simp [Step.criterion?])
  | push c =>
    obtain rfl := Option.some.inj h
    rfl
  | test op t property value =>
    cases hv : t.toValue value <;> cases op <;>
      simp only [Step.criterion?, hv, Value.isNull, Option.some.injEq, if_true, if_false,
        Bool.false_eq_true] at h <;>
      subst h <;> simp only [step, addTest, nullTest?, hv, add, addUnary]
  | _ =>
    obtain rfl := Option.some.inj h
    rfl

/-- The other steps are connectors. -/
theorem eq_connect_of_criterion? {st : Step} (h : st.criterion? = none) :
    ∃ connector, st = .connect connector := by
  cases st with
  | connect connector => exact ⟨connector, rfl⟩
  | test op =>
    cases op <;> simp only [Step.criterion?] at h <;> try split at h
    all_goals exact absurd h (by simp)
  | _ => exact absurd h (by simp [Step.criterion?])

theorem attempt_of_added? {st : Step} {c : Criterion} (h : st.added? = some c) (s : CriteriaSet) :
    s.attempt st = s.push c := by
  have hc : st.criterion? = some (.ok c) := by
    unfold Step.added? at h
    split at h
    · next hc => rw [hc, Option.some.inj h]
    · exact absurd h (by simp)
  rw [attempt, step_of_criterion? hc]
  rfl

/-- A step that adds nothing is a connector, or fails and changes nothing. -/
theorem cases_of_added?_none {st : Step} (h : st.added? = none) :
    (∃ connector, st = .connect connector) ∨
      st.connector? = none ∧ ∀ s : CriteriaSet, s.attempt st = s := by
  cases hc : st.criterion? with
  | none => exact Or.inl (eq_connect_of_criterion? hc)
  | some x =>
    cases x with
    | ok c => exact absurd h (by simp [Step.added?, hc])
    | error e =>
      refine Or.inr ⟨?_, fun s => ?_⟩
      · cases st with
        | connect => exact absurd hc (by simp [Step.criterion?])
        | _ => rfl
      · rw [attempt, step_of_criterion? hc]
        rfl

/-! ## Connectors -/

theorem connect_push (s : CriteriaSet) (c : Criterion) (connector : Connector) :
    (s.push c).connect connector = s.push { c with connector := connector } := by
  simp [connect, push]

theorem connect_empty (connector : Connector) : empty.connect connector = empty := rfl

/-- Of two connectors one after the other the second counts. -/
theorem connect_connect (s : CriteriaSet) (j k : Connector) :
    (s.connect j).connect k = s.connect k := by
  obtain ⟨criteria⟩ := s
  rcases List.eq_nil_or_concat' criteria with rfl | ⟨cs, c, rfl⟩
  · rfl
  · simp [connect]

/-- Joins the last criterion to the next one, if there is a connector. -/
def settle (s : CriteriaSet) (connector : Option Connector) : CriteriaSet :=
  connector.elim s s.connect

theorem settle_empty (connector : Option Connector) : empty.settle connector = empty := by
  cases connector <;> rfl

theorem settle_push (s : CriteriaSet) (c : Criterion) (connector : Option Connector) :
    (s.push c).settle connector =
      s.push { c with connector := connector.getD c.connector } := by
  cases connector with
  | none => rfl
  | some k => exact s.connect_push c k

theorem settle_connect (s : CriteriaSet) (k : Connector) (connector : Option Connector) :
    (s.connect k).settle connector = s.settle (some (connector.getD k)) := by
  cases connector with
  | none => rfl
  | some j => exact s.connect_connect k j

/-- Settling changes no more than the connector of the last criterion. -/
theorem settle_frame (s : CriteriaSet) (connector : Option Connector) :
    List.Forall₂ Criterion.SameTest s.criteria (s.settle connector).criteria ∧
      (s.settle connector).criteria.dropLast = s.criteria.dropLast := by
  have hrefl : ∀ cs : List Criterion, List.Forall₂ Criterion.SameTest cs cs :=
    fun cs => List.forall₂_same.mpr fun c _ => .refl c
  cases connector with
  | none => exact ⟨hrefl _, rfl⟩
  | some k =>
    obtain ⟨criteria⟩ := s
    rcases List.eq_nil_or_concat' criteria with rfl | ⟨cs, c, rfl⟩
    · exact ⟨.nil, rfl⟩
    · have hlast : (settle ⟨cs ++ [c]⟩ (some k)).criteria =
          cs ++ [{ c with connector := k }] := by
        simp [settle, connect]
      rw [hlast]
      refine ⟨List.rel_append (hrefl cs) (.cons ⟨k, rfl⟩ .nil), ?_⟩
      simp

/-! ## All steps -/

theorem joining?_cons_of_added? {st : Step} {c : Criterion} (h : st.added? = some c)
    (steps : List Step) : joining? (st :: steps) = none := by
  simp [joining?, h]

theorem joining?_connect (k : Connector) (steps : List Step) :
    joining? (.connect k :: steps) = some ((joining? steps).getD k) := by
  have hadded : (Step.connect k).added? = none := rfl
  simp [joining?, hadded, Step.connector?, List.getLast?_cons]

theorem joining?_cons_of_connector?_none {st : Step} (h : st.added? = none)
    (hc : st.connector? = none) (steps : List Step) : joining? (st :: steps) = joining? steps := by
  simp [joining?, h, hc]

/-- The steps settle the last criterion of a set, and add their own after it. -/
theorem attemptAll_eq (s : CriteriaSet) (steps : List Step) :
    (s.attemptAll steps).criteria =
      (s.settle (joining? steps)).criteria ++ steps.tails.filterMap settled? := by
  induction steps generalizing s with
  | nil => simp [attemptAll, joining?, settle, settled?]
  | cons st steps ih =>
    have hfirst : s.attemptAll (st :: steps) = (s.attempt st).attemptAll steps := rfl
    have hsettled : settled? (st :: steps) =
      st.added?.map fun c => { c with connector := (joining? steps).getD c.connector } := rfl
    rw [hfirst, ih, List.tails_cons, List.filterMap_cons, hsettled]
    cases hadded : st.added? with
    | some c =>
      rw [attempt_of_added? hadded, joining?_cons_of_added? hadded, settle_push]
      simp [settle, push]
    | none =>
      rcases cases_of_added?_none hadded with ⟨k, rfl⟩ | ⟨hc, hs⟩
      · rw [joining?_connect, ← settle_connect]
        rfl
      · rw [joining?_cons_of_connector?_none hadded hc, hs]
        rfl

/-- A connector after a step that fails joins the criterion that was added last. -/
example :
    (empty.attemptAll
      [.connect .or, .test .equal (.scalar .bool) "Paid" true, .textCheck .isEmpty " ",
        .connect .or, .nullCheck .isNull (.optional (.scalar .bool)) "Sent"]).criteria.map
          (fun c => (c.property, c.connector)) = [("Paid", .or), ("Sent", .and)] := rfl

end CriteriaSet

end Winnow
