/-
  Normalization changes nothing but the comparisons of texts.

  The option is read in one place only, for a member that is a text and an operator that compares
  texts with an operand that is one (`scalarFormula?_of_ne_text` and the two lemmas after it).
  Compilation with and without it always has the `SameOutcome`: one error, or two formulas. The
  formulas can differ only by what normalization does to the operand and to the texts in the record,
  so that they agree where all of these are `Tidy`, that is as normalization leaves them.

  `Within` are the records in a record, however deep; a record is tidy if the single texts in all of
  them are. What a path reads from it is then tidy, and so are the elements of its collections,
  which takes the agreement through brackets (`sameOutcome_compile`). `compileAll_sameOutcome`, the
  main statement, is for lists of sets, by their left folds.
-/
import Mathlib.Data.List.Basic
import Winnow.Proofs.LeftFold
import Winnow.Proofs.Normalization
import Winnow.Proofs.Target

namespace Winnow

variable {ι ρ : Type}

/-! ## Outcomes -/

/-- Two outcomes are one error, or two results in the relation. -/
inductive SameOutcome {α β : Type} (R : α → β → Prop) : Except Error α → Except Error β → Prop where
  | error (e : Error) : SameOutcome R (.error e) (.error e)
  | ok {a : α} {b : β} (h : R a b) : SameOutcome R (.ok a) (.ok b)

namespace SameOutcome

variable {α β γ δ : Type}

theorem map {R : γ → δ → Prop} {x : Except Error α} {y : Except Error β} {f : α → γ} {g : β → δ}
    (h : SameOutcome (fun a b => R (f a) (g b)) x y) : SameOutcome R (x.map f) (y.map g) := by
  cases h with
  | error e => exact .error e
  | ok h => exact .ok h

theorem mono {R S : α → β → Prop} {x : Except Error α} {y : Except Error β}
    (h : SameOutcome R x y) (hRS : ∀ a b, R a b → S a b) : SameOutcome S x y := by
  cases h with
  | error e => exact .error e
  | ok h => exact .ok (hRS _ _ h)

theorem results {R : α → β → Prop} {x : Except Error α} {y : Except Error β}
    (h : SameOutcome R x y) :
    (∃ e, x = .error e ∧ y = .error e) ∨ ∃ a b, x = .ok a ∧ y = .ok b ∧ R a b := by
  cases h with
  | error e => exact Or.inl ⟨e, rfl, rfl⟩
  | ok h => exact Or.inr ⟨_, _, rfl, rfl, h⟩

/-- An outcome is the same as itself if all its results are. -/
theorem refl {R : α → α → Prop} (hR : ∀ a, R a a) (x : Except Error α) : SameOutcome R x x := by
  cases x with
  | error e => exact .error e
  | ok a => exact .ok (hR a)

end SameOutcome

/-! ## Texts that normalization leaves as they are -/

/-- The record is the row or in it, at whatever depth. -/
inductive Within [Record ρ] (row : ρ) : ρ → Prop
  | self : Within row row
  | nested {r next : ρ} {name : String} (h : Within row r)
      (hread : Record.read? r name = some (.record next)) : Within row next
  | element {r next : ρ} {name : String} {rows : List ρ} (h : Within row r)
      (hread : Record.read? r name = some (.records rows)) (hmem : next ∈ rows) : Within row next

/-- If the reading is a text, normalization leaves it as it is. -/
def Reading.Tidy (f : Reading ρ) : Prop := ∀ s, f = .scalar (.text s) → normalizeText s = s

/-- Normalization leaves all texts in the record as they are. -/
def TidyRecord [Record ρ] (row : ρ) : Prop :=
  ∀ r name f, Within row r → Record.read? r name = some f → f.Tidy

/-- If the operand is a text or a character, normalization leaves it as it is. -/
def Criterion.TidyOperand (c : Criterion) : Prop :=
  ∀ part, c.value.asText? = some part → normalizeText part = part

section Records

variable [Record ρ]

theorem Within.trans {row r next : ρ} (h : Within row r) (hnext : Within r next) :
    Within row next := by
  induction hnext with
  | self => exact h
  | nested _ hread ih => exact .nested ih hread
  | element _ hread hmem ih => exact .element ih hread hmem

theorem TidyRecord.within {row r : ρ} (h : TidyRecord row) (hr : Within row r) : TidyRecord r :=
  fun r' name f hr' hread => h r' name f (hr.trans hr') hread

/-- What is read along segments is a null, or is read from a record in the row. -/
theorem exists_read?_of_readSegments (segments : List String) (row : ρ) :
    MemberPath.readSegments segments row = .null ∨
      ∃ r name, Within row r ∧
        Record.read? r name = some (MemberPath.readSegments segments row) := by
  induction segments generalizing row with
  | nil => exact Or.inl rfl
  | cons name rest ih =>
    by_cases hrest : rest = []
    · subst hrest
      cases hread : Record.read? row name with
      | none => exact Or.inl (by rw [MemberPath.readSegments, hread]; rfl)
      | some f =>
        refine Or.inr ⟨row, name, .self, ?_⟩
        rw [MemberPath.readSegments, hread]
        rfl
    · rw [MemberPath.readSegments_cons hrest]
      cases hread : Record.read? row name with
      | none => exact Or.inl rfl
      | some f =>
        cases f with
        | record next =>
          have hnext : Within row next := .nested .self hread
          rcases ih next with h | ⟨r, last, hr, h⟩
          · exact Or.inl h
          · exact Or.inr ⟨r, last, hnext.trans hr, h⟩
        | _ => exact Or.inl rfl

theorem TidyRecord.tidy_read {row : ρ} (h : TidyRecord row) (path : MemberPath) :
    (path.read row).Tidy := by
  rcases exists_read?_of_readSegments path.segments row with hnull | ⟨r, name, hr, hread⟩
  · intro s hs
    exact absurd (hnull.symm.trans hs) (by simp)
  · exact h r name _ hr hread

/-- The elements of a collection in the row are records in it. -/
theorem within_of_mem_elements {row r : ρ} {path : MemberPath}
    (h : r ∈ Formula.elements (path.read row)) : Within row r := by
  obtain ⟨rows, hrows, hmem⟩ := Formula.mem_elements h
  rcases exists_read?_of_readSegments path.segments row with hnull | ⟨r', name, hr', hread⟩
  · exact absurd (hnull.symm.trans hrows) (by simp)
  · have hread' : Record.read? r' name = some (.records rows) := hread.trans (congrArg some hrows)
    exact .element hr' hread' hmem

theorem Target.within_of_mem_records {t : Target ι} {row r : ρ} (h : r ∈ t.records row) :
    Within row r := by
  unfold Target.records at h
  split at h
  · rw [List.mem_singleton.mp h]
    exact .self
  · exact within_of_mem_elements h

end Records

/-! ## Formulas -/

/-- The formulas hold of the same tidy records. -/
def Formula.AgreeWhereTidy (f g : Formula) : Prop :=
  ∀ (ρ : Type) [Record ρ] (row : ρ), TidyRecord row → f.holds row = g.holds row

theorem Formula.AgreeWhereTidy.refl (f : Formula) : f.AgreeWhereTidy f := fun _ _ _ _ => rfl

/-- An operand that is tidy is found in a tidy text as it is if it is found there at all. -/
theorem Reading.asks_iff_of_tidy {f : Reading ρ} {op : Operator} {part : String} (hf : f.Tidy)
    (hpart : normalizeText part = part) (nullable : Bool) :
    f.Asks (Options.tidy ⟨true⟩) op nullable part ↔
      f.Asks (Options.tidy ⟨false⟩) op nullable part := by
  have hfinds : f.Finds (Options.tidy ⟨true⟩) op part ↔
      f.Finds (Options.tidy ⟨false⟩) op part := by
    refine exists_congr fun s => and_congr_right fun hs => ?_
    show op.Finds (normalizeText part).toList (normalizeText s).toList ↔ _
    rw [hpart, hf s hs]
    exact Iff.rfl
  unfold Asks
  rw [hfinds]

namespace Criterion

open Formula

variable {c : Criterion}

/-- For members of other kinds the option is not read, -/
theorem scalarFormula?_of_ne_text {kind : Kind} (hk : kind ≠ .text) (o o' : Options) (m : Term)
    (nullable : Bool) :
    scalarFormula? o m kind nullable c = scalarFormula? o' m kind nullable c := by
  simp only [scalarFormula?, hk, decide_false, Bool.and_false]

/-- nor for operators that do not compare texts. -/
theorem scalarFormula?_of_not_comparesTexts (hop : c.operator.comparesTexts = false)
    (o o' : Options) (m : Term) (kind : Kind) (nullable : Bool) :
    scalarFormula? o m kind nullable c = scalarFormula? o' m kind nullable c := by
  unfold scalarFormula?
  cases h : c.operator <;> rw [h] at hop <;> first | exact absurd hop (by decide) | rfl

/-- With and without normalization there is a formula or there is none, and for a tidy operand the
two agree on tidy records. -/
theorem agree_scalarFormula? (path : MemberPath) (kind : Kind) (nullable : Bool) :
    Option.Rel (fun f g => c.TidyOperand → AgreeWhereTidy f g)
      (scalarFormula? ⟨true⟩ (.member path) kind nullable c)
      (scalarFormula? ⟨false⟩ (.member path) kind nullable c) := by
  have hsame : ∀ x : Option Formula,
      Option.Rel (fun f g => c.TidyOperand → AgreeWhereTidy f g) x x := by
    intro x
    cases x with
    | none => exact .none
    | some f => exact .some fun _ => .refl f
  by_cases hk : kind = .text
  · subst hk
    cases hop : c.operator.comparesTexts with
    | false =>
      rw [scalarFormula?_of_not_comparesTexts hop ⟨true⟩ ⟨false⟩]
      exact hsame _
    | true =>
      cases hpart : c.value.asText? with
      | none =>
        rw [scalarFormula?_of_asText?_none hpart ⟨true⟩ ⟨false⟩]
        exact hsame _
      | some part =>
        cases ha : Kind.text.accepts c.operandKind with
        | false =>
          simp only [scalarFormula?, ha, Bool.not_false, if_true]
          exact .none
        | true =>
          have hformula : ∀ o, (scalarFormula? o (.member path) .text nullable c).isSome = true :=
            isSome_textFormula hpart hop ha
          obtain ⟨f, hf⟩ := Option.isSome_iff_exists.mp (hformula ⟨true⟩)
          obtain ⟨g, hg⟩ := Option.isSome_iff_exists.mp (hformula ⟨false⟩)
          rw [hf, hg]
          refine .some fun hoperand ρ _ row hrow => ?_
          rw [Bool.eq_iff_iff, holds_textFormula_iff hf hpart hop,
            holds_textFormula_iff hg hpart hop]
          exact Reading.asks_iff_of_tidy (hrow.tidy_read path) (hoperand part hpart) nullable
  · rw [scalarFormula?_of_ne_text hk ⟨true⟩ ⟨false⟩]
    exact hsame _

theorem sameOutcome_orUnsupported {R : Formula → Formula → Prop} {f? g? : Option Formula}
    (h : Option.Rel R f? g?) : SameOutcome R (c.orUnsupported f?) (c.orUnsupported g?) := by
  cases h with
  | none => exact .error _
  | some h => exact .ok h

theorem sameOutcome_memberFormula (family : Family ι) (r : ResolvedMember ι) (c : Criterion) :
    SameOutcome (fun f g => c.TidyOperand → AgreeWhereTidy f g)
      (memberFormula family ⟨true⟩ r c) (memberFormula family ⟨false⟩ r c) := by
  have hsame := SameOutcome.refl (R := fun f g => c.TidyOperand → AgreeWhereTidy f g)
    fun f _ => .refl f
  by_cases hnull : c.operator = .isNull ∨ c.operator = .isNotNull
  · have heq : memberFormula family ⟨true⟩ r c = memberFormula family ⟨false⟩ r c := by
      unfold memberFormula
      rcases hnull with h | h <;> rw [h]
    rw [heq]
    exact hsame _
  · obtain ⟨hisNull, hisNotNull⟩ := not_or.mp hnull
    rw [memberFormula_of_ne hisNull hisNotNull, memberFormula_of_ne hisNull hisNotNull]
    split
    · exact hsame _
    · exact hsame _
    · exact sameOutcome_orUnsupported (agree_scalarFormula? _ _ _)
    · exact hsame _

/-- The option takes no part in finding the target, and elements of a tidy record are tidy. -/
theorem sameOutcome_compile (family : Family ι) (i : ι) (c : Criterion) :
    SameOutcome (fun f g => c.TidyOperand → AgreeWhereTidy f g) (c.compile family ⟨true⟩ i)
      (c.compile family ⟨false⟩ i) := by
  rw [compile_eq_target, compile_eq_target]
  cases c.target family i with
  | error e => exact .error e
  | ok t =>
    refine ((sameOutcome_memberFormula family t.member c).mono ?_).map
    intro f g hfg hoperand ρ _ row hrow
    rw [Target.holds_quantify, Target.holds_quantify, Bool.eq_iff_iff, List.any_eq_true,
      List.any_eq_true]
    refine exists_congr fun r => and_congr_right fun hr => ?_
    rw [hfg hoperand ρ r (hrow.within (Target.within_of_mem_records hr))]

/-- Alone, a criterion with a tidy operand has one result for a tidy record, -/
theorem holdsAlone_of_tidy (family : Family ι) (i : ι) {c : Criterion} (hc : c.TidyOperand)
    [Record ρ] {row : ρ} (hrow : TidyRecord row) :
    c.holdsAlone family ⟨true⟩ i row = c.holdsAlone family ⟨false⟩ i row := by
  rcases (sameOutcome_compile family i c).results with ⟨e, he, he'⟩ | ⟨f, g, hf, hg, hfg⟩
  · rw [holdsAlone, holdsAlone, he, he']
  · rw [holdsAlone_of_compile hf, holdsAlone_of_compile hg]
    exact hfg hc ρ row hrow

/-- and any criterion has one error or none. -/
theorem error?_normalization (family : Family ι) (i : ι) (c : Criterion) :
    c.error? family ⟨true⟩ i = c.error? family ⟨false⟩ i := by
  rcases (sameOutcome_compile family i c).results with ⟨e, he, he'⟩ | ⟨f, g, hf, hg, -⟩
  · rw [error?_eq_some_iff.mpr he, error?_eq_some_iff.mpr he']
  · rw [error?_eq_none_iff.mpr ⟨f, hf⟩, error?_eq_none_iff.mpr ⟨g, hg⟩]

end Criterion

/-! ## Sets -/

theorem CriteriaSet.leftFold_congr {result result' : Criterion → Bool} {s : CriteriaSet}
    (h : ∀ c ∈ s.criteria, result c = result' c) : s.leftFold result = s.leftFold result' := by
  obtain ⟨criteria⟩ := s
  cases criteria with
  | nil => rfl
  | cons c rest =>
    have hfold : ∀ acc, foldResults result acc (((c :: rest).map Criterion.connector).zip rest) =
        foldResults result' acc (((c :: rest).map Criterion.connector).zip rest) := by
      intro acc
      refine List.foldl_ext _ _ acc fun acc' j hj => ?_
      have hmem : j.2 ∈ rest := (List.of_mem_zip hj).2
      rw [h j.2 (List.mem_cons_of_mem c hmem)]
    show foldResults result (result c) _ = foldResults result' (result' c) _
    rw [h c List.mem_cons_self, hfold]

namespace Predicate

/-- **Normalization changes nothing but the comparisons of texts.**

    For every family of record types and every list of sets of criteria, whatever is in them,
    compilation with normalization and without it ends with the same error, or with two predicates.
    If every operand that is a text or a character is as normalization leaves it, the predicates
    agree on every record, of any type of records, in which all texts are so, at whatever depth. -/
theorem compileAll_sameOutcome (family : Family ι) (i : ι) (sets : List CriteriaSet) :
    SameOutcome
      (fun p q : Predicate => (∀ s ∈ sets, ∀ c ∈ s.criteria, c.TidyOperand) →
        ∀ (ρ : Type) [Record ρ] (row : ρ), TidyRecord row → p.accepts row = q.accepts row)
      (compileAll family ⟨true⟩ i sets) (compileAll family ⟨false⟩ i sets) := by
  have herror : firstError? family ⟨true⟩ i (allCriteria sets) =
      firstError? family ⟨false⟩ i (allCriteria sets) := by
    have hfun : Criterion.error? family ⟨true⟩ i = Criterion.error? family ⟨false⟩ i :=
      funext (Criterion.error?_normalization family i)
    rw [firstError?, firstError?, hfun]
  cases h : firstError? family ⟨false⟩ i (allCriteria sets) with
  | some e =>
    rw [compileAll_of_error (herror.trans h), compileAll_of_error h]
    exact .error e
  | none =>
    obtain ⟨p, hp, -, haccepts⟩ := compileAll_of_no_error (herror.trans h)
    obtain ⟨q, hq, -, haccepts'⟩ := compileAll_of_no_error h
    rw [hp, hq]
    refine .ok fun hoperands ρ _ row hrow => ?_
    rw [haccepts row, haccepts' row, Bool.eq_iff_iff, List.all_eq_true, List.all_eq_true]
    refine forall₂_congr fun s hs => ?_
    rw [CriteriaSet.leftFold_congr fun c hc =>
      Criterion.holdsAlone_of_tidy family i (hoperands s hs c hc) hrow]

end Predicate

namespace Sample

theorem tidyRecord_named {name : String} (h : normalizeText name = name) :
    TidyRecord (named name) := by
  have hread : ∀ {key : String} {f : Reading Row}, Record.read? (named name) key = some f →
      f = .null ∨ f = .scalar (.text name) := by
    intro key f hf
    obtain ⟨cell, hcell, rfl⟩ := Option.map_eq_some_iff.mp hf
    have hmem := List.mem_of_find?_eq_some hcell
    simp only [named, Row.cells, List.mem_cons, List.not_mem_nil, or_false] at hmem
    rcases hmem with rfl | rfl | rfl
    · exact Or.inr rfl
    · exact Or.inl rfl
    · exact Or.inl rfl
  have hwithin : ∀ {r : Row}, Within (named name) r → r = named name := by
    intro r hr
    induction hr with
    | self => rfl
    | nested _ hnext ih => exact absurd (hread (ih ▸ hnext)) (by simp)
    | element _ hnext _ ih => exact absurd (hread (ih ▸ hnext)) (by simp)
  intro r key f hr hf s hs
  obtain rfl := hwithin hr
  rcases hread hf with hnull | htext
  · exact absurd (hnull.symm.trans hs) (by simp)
  · obtain rfl : name = s := by simpa [htext] using hs
    exact h

/-- Small letters without white space around them are the same with normalization and without. -/
theorem compileAll_sameOutcome_bob :
    ∃ p q, Predicate.compileAll shop ⟨true⟩ .person [⟨[nameIs "ada" .or, nameIs "bob" .and]⟩] =
        .ok p ∧
      Predicate.compileAll shop ⟨false⟩ .person [⟨[nameIs "ada" .or, nameIs "bob" .and]⟩] = .ok q ∧
      p.accepts (named "bob") = true ∧ q.accepts (named "bob") = true := by
  have htidy : ∀ s ∈ [(⟨[nameIs "ada" .or, nameIs "bob" .and]⟩ : CriteriaSet)],
      ∀ c ∈ s.criteria, c.TidyOperand := by
    intro s hs c hc part hpart
    rw [List.mem_singleton.mp hs] at hc
    rcases List.mem_cons.mp hc with rfl | hc
    · obtain rfl : "ada" = part := Option.some.inj hpart
      decide +kernel
    · rw [List.mem_singleton.mp hc] at hpart
      obtain rfl : "bob" = part := Option.some.inj hpart
      decide +kernel
  obtain ⟨p, hp, haccepts⟩ : ∃ p, Predicate.compileAll shop ⟨true⟩ .person
      [⟨[nameIs "ada" .or, nameIs "bob" .and]⟩] = .ok p ∧ p.accepts (named "bob") = true :=
    ⟨_, rfl, by decide +kernel⟩
  rcases (Predicate.compileAll_sameOutcome shop .person
    [⟨[nameIs "ada" .or, nameIs "bob" .and]⟩]).results with ⟨e, he, -⟩ | ⟨p', q, hp', hq, hsame⟩
  · exact absurd (hp.symm.trans he) (by simp)
  · obtain rfl : p = p' := by simpa [hp] using hp'
    have hbob := hsame htidy Row (named "bob") (tidyRecord_named (by decide +kernel))
    exact ⟨p, q, hp, hq, haccepts, hbob.symm.trans haccepts⟩

end Sample

end Winnow
