/-
  A path with brackets says that there is an element.

  Let the path of a criterion be `base[inner]`. It compiles exactly if `base` names a collection
  and the same criterion with the path `inner` compiles, on its own, for the type of the elements
  (`Predicate.compile_bracketed`). It then accepts a record exactly if the collection is a list of
  records of which the criterion for `inner` accepts one; a missing collection is never accepted,
  negated operators and null tests included.

  The syntax of the whole path is read before anything is resolved. So a member that is not a
  collection is reported as such only if `inner` is a path: an `inner` with brackets of its own is
  an error of the path (`Sample.not_reported_notACollection`).
-/
import Winnow.Proofs.BracketedPath
import Winnow.Proofs.Renaming
import Winnow.Proofs.Conformance
import Winnow.Proofs.Construction

namespace Winnow

variable {ι : Type}

/-! ## The base -/

/-- The text is a path to a collection of elements of a type. -/
def Family.CollectionAt (family : Family ι) (i : ι) (base : String) (segments : List String)
    (element : ι) : Prop :=
  PropertyPath.parse base = .ok (.plain segments) ∧
    ∃ r, family.resolve i segments rowParameter = .ok r ∧ r.type = .collection element

/-! ## The criterion in brackets -/

namespace Criterion

/-- The same criterion with another path. -/
def withProperty (c : Criterion) (property : String) : Criterion := { c with property := property }

/-- The criterion compiles on its own, at a path without brackets. -/
def CompilesPlainly (family : Family ι) (o : Options) (i : ι) (c : Criterion) (p : Predicate) :
    Prop :=
  (∃ segments, PropertyPath.parse c.property = .ok (.plain segments)) ∧
    Predicate.compile family o i ⟨[c]⟩ = .ok p

/-- What is compiled for the elements of a collection is what is compiled for the rows of their
type, with the parameter renamed. -/
theorem compileAt_rename (family : Family ι) (o : Options) (i : ι) (segments : List String)
    (parameter other : String) (c : Criterion) :
    c.compileAt family o i segments other =
      (c.compileAt family o i segments parameter).map (Formula.rename other) := by
  unfold compileAt
  rw [Family.resolve_withParameter family i segments parameter other]
  cases family.resolve i segments parameter with
  | error e => rfl
  | ok r => exact memberFormula_withParameter family o r other c

theorem compile_withProperty {family : Family ι} {o : Options} {i : ι} {c : Criterion}
    {inner : String} {names : List String}
    (hi : PropertyPath.parse inner = .ok (.plain names)) :
    (c.withProperty inner).compile family o i = c.compileAt family o i names rowParameter :=
  compile_of_plain hi

/-- A criterion compiles at a path with brackets exactly if the base names a collection and what
is in the brackets compiles for its elements; the formula asks for an element. -/
theorem compile_brackets_eq_ok_iff {family : Family ι} {o : Options} {i : ι} {c : Criterion}
    {base inner : String} (hc : trim c.property = trim (base ++ "[" ++ inner ++ "]"))
    {f : Formula} :
    c.compile family o i = .ok f ↔
      ∃ segments names r element g, PropertyPath.parse base = .ok (.plain segments) ∧
        PropertyPath.parse inner = .ok (.plain names) ∧
        family.resolve i segments rowParameter = .ok r ∧ r.type = .collection element ∧
        (c.withProperty inner).compile family o element = .ok g ∧
        f = .any r.path (g.rename elementParameter) := by
  constructor
  · intro hf
    rcases PropertyPath.parse_bracketed hc with ⟨segments, names, hb, hi, hs⟩ | ⟨-, fault, hs⟩
    · rcases compile_eq_ok_iff.mp hf with
        ⟨segments', hs', -⟩ | ⟨segments', names', r, element, g, hs', hr, ht, hg, rfl⟩
      · rw [hs] at hs'
        exact absurd hs' (by simp)
      · rw [hs] at hs'
        injection hs' with hs'
        injection hs' with hsegments hnames
        subst hsegments hnames
        -- The criterion in brackets compiles at the same names, for another parameter.
        rw [compileAt_rename family o element names rowParameter elementParameter] at hg
        cases hg' : c.compileAt family o element names rowParameter with
        | error e => simp [hg', Except.map] at hg
        | ok g' =>
          rw [hg'] at hg
          injection hg with hg
          exact ⟨segments, names, r, element, g', hb, hi, hr, ht,
            (compile_withProperty hi).trans hg', congrArg _ hg.symm⟩
    · rw [compile_of_parse_error hs] at hf
      exact absurd hf (by simp)
  · rintro ⟨segments, names, r, element, g, hb, hi, hr, ht, hg, rfl⟩
    refine compile_eq_ok_iff.mpr (Or.inr ⟨segments, names, r, element, _,
      PropertyPath.parse_of_plain_parts hc hb hi, hr, ht, ?_, rfl⟩)
    have hg' : c.compileAt family o element names rowParameter = .ok g :=
      (compile_withProperty hi).symm.trans hg
    rw [compileAt_rename family o element names rowParameter elementParameter, hg']
    rfl

end Criterion

theorem Formula.any_elements_iff {ρ : Type} {f : Reading ρ} {test : ρ → Bool} :
    (elements f).any test = true ↔ ∃ rs, f = .records rs ∧ ∃ r ∈ rs, test r = true := by
  rw [List.any_eq_true]
  constructor
  · rintro ⟨r, hr, htest⟩
    cases f with
    | records rs => exact ⟨rs, rfl, r, hr, htest⟩
    | _ => exact absurd hr List.not_mem_nil
  · rintro ⟨rs, rfl, hr⟩
    exact hr

/-! ## Predicates -/

namespace Predicate

theorem compiles_bracketed_iff {family : Family ι} {o : Options} {i : ι} {c : Criterion}
    {base inner : String} (hc : trim c.property = trim (base ++ "[" ++ inner ++ "]")) :
    (∃ p, compile family o i ⟨[c]⟩ = .ok p) ↔
      ∃ segments element q, family.CollectionAt i base segments element ∧
        (c.withProperty inner).CompilesPlainly family o element q := by
  constructor
  · rintro ⟨p, hp⟩
    rw [compile_singleton_eq_ok_iff, Criterion.compile_brackets_eq_ok_iff hc] at hp
    obtain ⟨segments, names, r, element, g, hb, hi, hr, ht, hg, -⟩ := hp
    exact ⟨segments, element, ⟨g⟩, ⟨hb, r, hr, ht⟩, ⟨names, hi⟩,
      compile_singleton_eq_ok_iff.mpr hg⟩
  · rintro ⟨segments, element, q, ⟨hb, r, hr, ht⟩, ⟨names, hi⟩, hq⟩
    rw [compile_singleton_eq_ok_iff] at hq
    refine ⟨⟨.any r.path (q.formula.rename elementParameter)⟩, ?_⟩
    rw [compile_singleton_eq_ok_iff, Criterion.compile_brackets_eq_ok_iff hc]
    exact ⟨segments, names, r, element, q.formula, hb, hi, hr, ht, hq, rfl⟩

theorem accepts_bracketed_iff {ρ : Type} [Record ρ] {family : Family ι} {o : Options}
    {i element : ι} {c : Criterion} {base inner : String} {segments : List String}
    {p q : Predicate} (hc : trim c.property = trim (base ++ "[" ++ inner ++ "]"))
    (hp : compile family o i ⟨[c]⟩ = .ok p)
    (hbase : family.CollectionAt i base segments element)
    (hq : (c.withProperty inner).CompilesPlainly family o element q) (row : ρ) :
    p.accepts row = true ↔
      ∃ rs, family.valueAt i segments row = .records rs ∧ ∃ r ∈ rs, q.accepts r = true := by
  rw [compile_singleton_eq_ok_iff, Criterion.compile_brackets_eq_ok_iff hc] at hp
  obtain ⟨segments', names, r', element', g, hb', hi, hr', ht', hg, hf⟩ := hp
  obtain ⟨hb, r, hr, ht⟩ := hbase
  -- The base is read and resolved in one way only.
  rw [hb] at hb'
  injection hb' with hb'
  injection hb' with hb'
  subst hb'
  rw [hr] at hr'
  injection hr' with hr'
  subst hr'
  rw [ht] at ht'
  injection ht' with ht'
  subst ht'
  have hg' : q.formula = g := by
    have hq' := compile_singleton_eq_ok_iff.mp hq.2
    rw [hg] at hq'
    injection hq' with hq'
    exact hq'.symm
  rw [accepts, hf, Formula.holds, Formula.any_elements_iff,
    (Family.resolve_eq_ok_iff.mp hr).read_eq_valueAt row]
  simp only [Formula.holds_rename, accepts, hg']

theorem compile_bracketed_other {family : Family ι} {o : Options} {i : ι} {c : Criterion}
    {base inner : String} {segments names : List String} {r : ResolvedMember ι}
    (hc : trim c.property = trim (base ++ "[" ++ inner ++ "]"))
    (hb : PropertyPath.parse base = .ok (.plain segments))
    (hi : PropertyPath.parse inner = .ok (.plain names))
    (hr : family.resolve i segments rowParameter = .ok r)
    (ht : ∀ element, r.type ≠ .collection element) :
    ∃ j m, m ∈ (family j).members ∧ r.type = m.type ∧ r.owner = (family j).name ∧
      r.path.segments.getLast? = some m.name ∧
      compile family o i ⟨[c]⟩ =
        .error (.notACollection (trim c.property) m.name (family j).name) := by
  obtain ⟨j, m, hmem, htype, howner, hlast⟩ := (Family.resolve_eq_ok_iff.mp hr).exists_member
  refine ⟨j, m, hmem, htype, howner, hlast, ?_⟩
  rw [compile_singleton, Criterion.compile_of_bracketed_other
    (PropertyPath.parse_of_plain_parts hc hb hi) hr ht, hlast, howner]
  rfl

theorem compile_bracketed_malformed {family : Family ι} {o : Options} {i : ι} {c : Criterion}
    {base inner : String} (hc : trim c.property = trim (base ++ "[" ++ inner ++ "]"))
    (h : (∀ segments, PropertyPath.parse base ≠ .ok (.plain segments)) ∨
      ∀ names, PropertyPath.parse inner ≠ .ok (.plain names)) :
    ∃ fault, compile family o i ⟨[c]⟩ = .error (.invalidPath (trim c.property) fault) := by
  rcases PropertyPath.parse_bracketed hc with ⟨segments, names, hb, hi, -⟩ | ⟨-, fault, hs⟩
  · rcases h with h | h
    · exact absurd hb (h segments)
    · exact absurd hi (h names)
  · refine ⟨fault, ?_⟩
    rw [compile_singleton, Criterion.compile_of_parse_error hs]
    rfl

/-- **A path with brackets quantifies over the elements.**

    For a criterion whose path is `base[inner]`, whatever `base` and `inner` are: it compiles
    exactly if `base` names a collection and the criterion for `inner` compiles, on its own, for
    the element type. Then it accepts a record exactly if the value at `base` is a list of records
    of which the predicate for `inner` accepts one, and never if that value is null. If both are
    paths and `base` names something else, the error names that member and the type that declares
    it. If one of them is no path, the error is the whole path's. -/
theorem compile_bracketed {family : Family ι} {o : Options} {i : ι} {c : Criterion}
    {base inner : String} (hc : trim c.property = trim (base ++ "[" ++ inner ++ "]")) :
    ((∃ p, compile family o i ⟨[c]⟩ = .ok p) ↔
      ∃ segments element q, family.CollectionAt i base segments element ∧
        (c.withProperty inner).CompilesPlainly family o element q) ∧
    (∀ p segments element q, compile family o i ⟨[c]⟩ = .ok p →
      family.CollectionAt i base segments element →
      (c.withProperty inner).CompilesPlainly family o element q →
      ∀ {ρ : Type} [Record ρ] (row : ρ),
        (p.accepts row = true ↔
          ∃ rs, family.valueAt i segments row = .records rs ∧ ∃ r ∈ rs, q.accepts r = true) ∧
        (family.valueAt i segments row = .null → p.accepts row = false)) ∧
    (∀ segments names r, PropertyPath.parse base = .ok (.plain segments) →
      PropertyPath.parse inner = .ok (.plain names) →
      family.resolve i segments rowParameter = .ok r →
      (∀ element, r.type ≠ .collection element) →
      ∃ j m, m ∈ (family j).members ∧ r.type = m.type ∧ r.owner = (family j).name ∧
        r.path.segments.getLast? = some m.name ∧
        compile family o i ⟨[c]⟩ =
          .error (.notACollection (trim c.property) m.name (family j).name)) ∧
    ((∀ segments, PropertyPath.parse base ≠ .ok (.plain segments)) ∨
        (∀ names, PropertyPath.parse inner ≠ .ok (.plain names)) →
      ∃ fault, compile family o i ⟨[c]⟩ = .error (.invalidPath (trim c.property) fault)) := by
  refine ⟨compiles_bracketed_iff hc, ?_, ?_, compile_bracketed_malformed hc⟩
  · intro p segments element q hp hbase hq ρ _ row
    have haccepts := accepts_bracketed_iff hc hp hbase hq row
    refine ⟨haccepts, ?_⟩
    intro hnull
    rw [Bool.eq_false_iff]
    intro h
    obtain ⟨rs, hrs, -⟩ := haccepts.mp h
    rw [hnull] at hrs
    exact absurd hrs (by simp)
  · intro segments names r hb hi hr ht
    exact compile_bracketed_other hc hb hi hr ht

end Predicate

namespace Sample

theorem compile_bracketed_customer :
    ∃ p q, Predicate.compile shop ⟨false⟩ .person ⟨[noteWithout "heavy"]⟩ = .ok p ∧
      (noteWithout "heavy" |>.withProperty "note").CompilesPlainly shop ⟨false⟩ .order q ∧
      (p.accepts customer = true ↔ ∃ rs, shop.valueAt .person ["orders"] customer = .records rs ∧
        ∃ r ∈ rs, q.accepts r = true) := by
  have hbase : shop.CollectionAt .person "orders" ["orders"] .order := ⟨rfl, _, rfl, rfl⟩
  have hq : ((noteWithout "heavy").withProperty "note").CompilesPlainly shop ⟨false⟩ .order
      ⟨.and (.compare .ne (.member ⟨"x", ["Note"]⟩) .null) (.not (.textTest .contains
        (.member ⟨"x", ["Note"]⟩) (.constant (.scalar (.text "heavy")))))⟩ := ⟨⟨_, rfl⟩, rfl⟩
  obtain ⟨p, hp⟩ : ∃ p, Predicate.compile shop ⟨false⟩ .person ⟨[noteWithout "heavy"]⟩ = .ok p :=
    ⟨_, rfl⟩
  have hc : trim (noteWithout "heavy").property = trim ("orders" ++ "[" ++ "note" ++ "]") := rfl
  exact ⟨p, _, hp, hq,
    ((Predicate.compile_bracketed hc).2.1 p _ _ _ hp hbase hq customer).1⟩

/-- A null test of an order in a name. -/
def nestedBrackets : Criterion :=
  ⟨"Name[Orders[Id]]", .isNull, .and, .null, .null, .scalar .text "str"⟩

theorem built_nestedBrackets : nestedBrackets.Built :=
  .ofType (show Criterion.ofType (.scalar (.text .borrowed)) "Name[Orders[Id]]" .isNull .and =
    .ok nestedBrackets from rfl)

/-- An error that a member is no collection is not what brackets within brackets give. -/
theorem not_reported_notACollection :
    ¬∀ (c : Criterion) (base inner : String) (segments : List String)
        (r : ResolvedMember TypeName), c.Built → c.property = base ++ "[" ++ inner ++ "]" →
      PropertyPath.parse base = .ok (.plain segments) →
      shop.resolve .person segments rowParameter = .ok r →
      (∀ element, r.type ≠ .collection element) →
      ∃ path member type, Predicate.compile shop ⟨false⟩ .person ⟨[c]⟩ =
        .error (.notACollection path member type) := by
  intro h
  obtain ⟨path, member, type, he⟩ :=
    h nestedBrackets "Name" "Orders[Id]" ["Name"] _ built_nestedBrackets rfl rfl rfl (by simp)
  have hpath : Predicate.compile shop ⟨false⟩ .person ⟨[nestedBrackets]⟩ =
      .error (.invalidPath "Name[Orders[Id]]" .severalBrackets) := rfl
  rw [hpath] at he
  exact absurd he (by simp)

end Sample

end Winnow
