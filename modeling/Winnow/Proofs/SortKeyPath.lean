/-
  Sort keys and criteria read a path in the same way.

  The path of a sort key is cut into segments and resolved by itself, apart from the compilation of
  criteria. A null test is the criterion that suits every member, so that what it compiles to shows
  where its path leads. `Agrees` lists what may come of a path in the two places, one rule for each
  outcome: a single value, a member that is no single value, a fault on the way to a member, and a
  fault of the text. For every text without brackets one of the rules applies (`agrees_isNull`).

  Brackets are no more than characters to a sort key. They stay in the segments, and a segment names
  a member only up to case, so no such path is resolved unless a name has brackets as well
  (`resolveKey_ne_ok_of_brackets`). A fault of a key is a fault of the whole sort, whatever the rows
  are (`sort_eq_error`). `key_agrees` is the main statement.
-/
import Winnow.Proofs.CanonicalNames
import Winnow.Proofs.PathGrammar
import Winnow.Proofs.Sorting

namespace Winnow

variable {ι ρ : Type}

/-! ## Brackets in names -/

open PropertyPath (BracketFree)

theorem count_map_toLower {mark : Char} (h : ∀ c : Char, (c.toLower == mark) = (c == mark))
    (cs : List Char) : (cs.map Char.toLower).count mark = cs.count mark := by
  rw [List.count, List.countP_map]
  exact congrArg (fun p => cs.countP p) (funext h)

/-- Case does not make a bracket. -/
theorem bracketFree_foldCase {s : String} : BracketFree (foldCase s) ↔ BracketFree s.toList := by
  have hopen : ∀ c : Char, (c.toLower == '[') = (c == '[') :=
    LetterCase.apply_toLower (f := (· == '[')) (by decide)
  have hclose : ∀ c : Char, (c.toLower == ']') = (c == ']') :=
    LetterCase.apply_toLower (f := (· == ']')) (by decide)
  unfold BracketFree foldCase
  rw [count_map_toLower hopen, count_map_toLower hclose]

theorem bracketFree_of_sameName {a b : String} (h : sameName a b = true)
    (ha : BracketFree a.toList) : BracketFree b.toList := by
  rw [← bracketFree_foldCase, ← sameName_iff.mp h]
  exact bracketFree_foldCase.mpr ha

/-- A text that names segments names at least one. -/
theorem Names.ne_nil {cs : List Char} {segments : List String} (h : Names cs segments) :
    segments ≠ [] := by
  obtain ⟨pieces, hpieces, -, rfl⟩ := h
  simpa using hpieces.ne_nil

/-- A text has brackets only if the segments that it names have. -/
theorem Names.bracketFree {cs : List Char} {segments : List String} (h : Names cs segments)
    (hsegments : ∀ segment ∈ segments, BracketFree segment.toList) : BracketFree cs := by
  obtain ⟨pieces, ⟨-, rfl, -⟩, -, rfl⟩ := h
  refine PropertyPath.bracketFree_intercalate.mpr fun piece hpiece => ?_
  have hfree := hsegments _ (List.mem_map.mpr ⟨piece, hpiece, rfl⟩)
  rwa [String.toList_ofList, PropertyPath.bracketFree_trimChars] at hfree

namespace Family

variable {family : Family ι} {parameter : String} {i : ι} {segments : List String}
  {r : ResolvedMember ι}

/-- No member of the family has a bracket in its name. -/
def NoBrackets (family : Family ι) : Prop :=
  ∀ i, ∀ m ∈ (family i).members, BracketFree m.name.toList

theorem Reaches.bracketFree (h : family.Reaches parameter i segments r)
    (hnames : family.NoBrackets) : ∀ segment ∈ segments, BracketFree segment.toList := by
  induction h with
  | @last i segment m hm =>
    refine List.forall_mem_singleton.mpr ?_
    exact bracketFree_of_sameName (RecordType.sameName_of_member? hm)
      (hnames i m (RecordType.mem_of_member? hm))
  | @through i next segment rest m r hm _ _ ih =>
    refine List.forall_mem_cons.mpr ⟨?_, ih⟩
    exact bracketFree_of_sameName (RecordType.sameName_of_member? hm)
      (hnames i m (RecordType.mem_of_member? hm))

/-! ## Where a path leads -/

/-- The names of a path are those of a member of the type, and of the records on the way to it. -/
def HasMember (family : Family ι) (i : ι) (p : MemberPath) (type : MemberType ι) : Prop :=
  ∃ r, family.resolve i p.segments p.parameter = .ok r ∧ r.path = p ∧ r.type = type

theorem Reaches.parameter_eq (h : family.Reaches parameter i segments r) :
    r.path.parameter = parameter := by
  induction h with
  | last => rfl
  | through _ _ _ ih => exact ih

/-- A resolved path leads to the member that it was resolved to. -/
theorem Reaches.hasMember (h : family.Reaches parameter i segments r) :
    family.HasMember i r.path r.type := by
  refine ⟨r, ?_, rfl, rfl⟩
  rw [h.parameter_eq]
  exact resolve_eq_ok_iff.mpr h.canonical

theorem HasMember.unique {p : MemberPath} {type type' : MemberType ι} (h : family.HasMember i p type)
    (h' : family.HasMember i p type') : type = type' := by
  obtain ⟨r, hr, -, rfl⟩ := h
  obtain ⟨r', hr', -, rfl⟩ := h'
  rw [Except.ok.inj (hr.symm.trans hr')]

/-- Where there are segments, what is at fault is that a member is missing, or that one on the way
is no nested record. -/
theorem resolveFrom_eq_error {path : String} {e : Error} (hne : segments ≠ [])
    (h : family.resolveFrom parameter path i segments = .error e) :
    (∃ member type, e = .memberNotFound path member type) ∨
      ∃ member type, e = .notARecord path member type := by
  fun_induction resolveFrom family parameter path i segments with
  | case1 => exact absurd rfl hne
  | case2 => exact Or.inl ⟨_, _, (Except.error.inj h).symm⟩
  | case3 => cases h
  | case4 => exact Or.inl ⟨_, _, (Except.error.inj h).symm⟩
  | case5 i segment rest hrest m hm next ht ih =>
    cases hr : family.resolveFrom parameter path next rest with
    | ok r' =>
      rw [hr] at h
      cases h
    | error e' =>
      rw [hr] at h
      cases h
      exact ih hrest hr
  | case6 => exact Or.inr ⟨_, _, (Except.error.inj h).symm⟩

end Family

/-! ## Two readings of a path -/

/-- A null test is compiled to a null test of the member that its path leads to. -/
theorem Criterion.memberFormula_of_isNull (family : Family ι) (o : Options) (r : ResolvedMember ι)
    {c : Criterion} (hop : c.operator = .isNull) :
    memberFormula family o r c = .ok (Formula.isNull (.member r.path)) := by
  unfold memberFormula
  rw [hop]

namespace SortOrder

open Formula (isNull)

/-- What comes of a text as the path of a null test, and what comes of it as a sort key: the null
test of a member and its path, if it is a single value; a null test of any other member, and a
refusal; one and the same fault on the way; or a fault of the text, which a criterion shows without
the white space around it. -/
inductive Agrees (family : Family ι) (i : ι) (text : String) :
    Except Error Formula → Except Error MemberPath → Prop
  | single {p : MemberPath} {kind : Kind} (h : family.HasMember i p (.scalar kind)) :
      Agrees family i text (.ok (isNull (.member p))) (.ok p)
  | other {p : MemberPath} {type : MemberType ι} (h : family.HasMember i p type)
      (hother : ∀ kind, type ≠ .scalar kind) :
      Agrees family i text (.ok (isNull (.member p))) (.error (.invalidPath text .notScalar))
  | memberNotFound (path member type : String) :
      Agrees family i text (.error (.memberNotFound path member type))
        (.error (.memberNotFound path member type))
  | notARecord (path member type : String) :
      Agrees family i text (.error (.notARecord path member type))
        (.error (.notARecord path member type))
  | emptySegment :
      Agrees family i text (.error (.invalidPath (trim text) .emptySegment))
        (.error (.invalidPath text .emptySegment))

variable {family : Family ι} {i : ι} {text : String}

theorem agrees_isNull (hfree : BracketFree text.toList) (o : Options) {c : Criterion}
    (hc : c.property = text) (hop : c.operator = .isNull) :
    Agrees family i text (c.compile family o i) (resolveKey family i text) := by
  have hparse := PropertyPath.parse_of_bracketFree hfree
  unfold resolveKey
  rw [splitSegments_trimChars]
  rcases splitSegments_cases text.toList with ⟨segments, hs⟩ | hs
  · rw [hs] at hparse ⊢
    rw [Criterion.compile_of_plain (hc ▸ hparse), Criterion.compileAt]
    simp only [bind, Except.bind]
    cases hr : family.resolve i segments rowParameter with
    | error e =>
      have hne := (splitSegments_eq_ok_iff.mp (hs text)).ne_nil
      rcases Family.resolveFrom_eq_error hne hr with ⟨member, type, rfl⟩ | ⟨member, type, rfl⟩
      · exact .memberNotFound _ _ _
      · exact .notARecord _ _ _
    | ok r =>
      have hmember := (Family.resolve_eq_ok_iff.mp hr).hasMember
      simp only [Criterion.memberFormula_of_isNull family o r hop]
      cases ht : r.type with
      | scalar kind => exact .single (ht ▸ hmember)
      | record | collection => exact .other hmember (by simp [ht])
  · rw [hs] at hparse ⊢
    rw [Criterion.compile_of_parse_error (hc ▸ hparse)]
    subst hc
    exact .emptySegment

/-- A path with brackets is no sort key where names have none. -/
theorem resolveKey_ne_ok_of_brackets (hbrackets : ¬ BracketFree text.toList)
    (hnames : family.NoBrackets) (p : MemberPath) : resolveKey family i text ≠ .ok p := by
  intro h
  obtain ⟨segments, r, kind, hs, hr, -, -⟩ := resolveKey_eq_ok_iff.mp h
  rw [splitSegments_trimChars] at hs
  have hsegments := (Family.resolve_eq_ok_iff.mp hr).bracketFree hnames
  exact hbrackets ((splitSegments_eq_ok_iff.mp hs).bracketFree hsegments)

section Sorting

variable [Record ρ] {e : Error}

/-- What is at fault with the key is at fault with the sort. -/
theorem sort_eq_error (h : resolveKey family i text = .error e) (tieBreaker : Option String)
    (d : Direction) (rows : List ρ) : sort family i ⟨text, tieBreaker, d⟩ rows = .error e := by
  unfold sort keys
  rw [h]
  rfl

/-- So is what is at fault with the tie-breaker, if the key is not. -/
theorem sort_eq_error_of_tieBreaker {key : String} {p : MemberPath}
    (hkey : resolveKey family i key = .ok p) (h : resolveKey family i text = .error e)
    (d : Direction) (rows : List ρ) : sort family i ⟨key, some text, d⟩ rows = .error e := by
  unfold sort keys
  simp only [hkey, h]
  rfl

end Sorting

/-- **A text is the same path to a sort key as to a criterion.**

    For every text without brackets and every null test at it: the text is a sort key for exactly
    the path that the null test is compiled for, if that is the path of a single value. A null test
    of a member of another type goes with a key that is refused. If the null test is refused, then
    either a member is missing or one on the way is no nested record, and the key is refused with
    the identical error, or a segment is empty, in both. A text with brackets is never a sort key if
    no name has any. And a key that is refused refuses the sort of whatever rows. -/
theorem key_agrees [Record ρ] (family : Family ι) (i : ι) (text : String) :
    (BracketFree text.toList → ∀ (o : Options) (c : Criterion), c.property = text →
      c.operator = .isNull →
      (∀ p, resolveKey family i text = .ok p ↔
        c.compile family o i = .ok (isNull (.member p)) ∧
          ∃ kind, family.HasMember i p (.scalar kind)) ∧
      (∀ f, c.compile family o i = .ok f → ∃ p type, f = isNull (.member p) ∧
        family.HasMember i p type ∧ ((∀ kind, type ≠ .scalar kind) →
          resolveKey family i text = .error (.invalidPath text .notScalar))) ∧
      ∀ e, c.compile family o i = .error e →
        (resolveKey family i text = .error e ∧
          ((∃ path member type, e = .memberNotFound path member type) ∨
            ∃ path member type, e = .notARecord path member type)) ∨
        (resolveKey family i text = .error (.invalidPath text .emptySegment) ∧
          e = .invalidPath (trim text) .emptySegment)) ∧
    (¬ BracketFree text.toList → family.NoBrackets → ∀ p, resolveKey family i text ≠ .ok p) ∧
    ∀ e, resolveKey family i text = .error e → ∀ (d : Direction) (rows : List ρ),
      (∀ tieBreaker, sort family i ⟨text, tieBreaker, d⟩ rows = .error e) ∧
      ∀ key p, resolveKey family i key = .ok p →
        sort family i ⟨key, some text, d⟩ rows = .error e := by
  refine ⟨fun hfree o c hc hop => ?_, fun hbrackets hnames p =>
    resolveKey_ne_ok_of_brackets hbrackets hnames p, fun e h d rows =>
    ⟨fun tieBreaker => sort_eq_error h tieBreaker d rows, fun key p hkey =>
      sort_eq_error_of_tieBreaker hkey h d rows⟩⟩
  have hagrees : Agrees family i text (c.compile family o i) (resolveKey family i text) :=
    agrees_isNull hfree o hc hop
  generalize c.compile family o i = compiled at hagrees
  generalize resolveKey family i text = resolved at hagrees
  cases hagrees with
  | @single p kind hmember =>
    refine ⟨fun p' => ⟨?_, ?_⟩, ?_, nofun⟩
    · rintro ⟨⟩
      exact ⟨rfl, kind, hmember⟩
    · rintro ⟨⟨⟩, -⟩
      rfl
    · rintro f ⟨⟩
      exact ⟨p, _, rfl, hmember, fun hother => absurd rfl (hother kind)⟩
  | @other p type hmember hother =>
    refine ⟨fun p' => ⟨nofun, ?_⟩, ?_, nofun⟩
    · rintro ⟨⟨⟩, kind, hkind⟩
      exact absurd (hmember.unique hkind) (hother kind)
    · rintro f ⟨⟩
      exact ⟨p, type, rfl, hmember, fun _ => rfl⟩
  | memberNotFound path member type =>
    refine ⟨fun p => ⟨nofun, fun h => nomatch h.1⟩, nofun, ?_⟩
    rintro e ⟨⟩
    exact Or.inl ⟨rfl, Or.inl ⟨_, _, _, rfl⟩⟩
  | notARecord path member type =>
    refine ⟨fun p => ⟨nofun, fun h => nomatch h.1⟩, nofun, ?_⟩
    rintro e ⟨⟩
    exact Or.inl ⟨rfl, Or.inr ⟨_, _, _, rfl⟩⟩
  | emptySegment =>
    refine ⟨fun p => ⟨nofun, fun h => nomatch h.1⟩, nofun, ?_⟩
    rintro e ⟨⟩
    exact Or.inr ⟨rfl, rfl⟩

end SortOrder

namespace Sample

open SortOrder

/-- A null test at the path. -/
def nullTest (property : String) : Criterion :=
  ⟨property, .isNull, .and, .null, .null, (ValueType.optional (.scalar .bool)).operandType⟩

/-- A city is a sort key in any spelling of its path. The orders of a person are none, and no sort
is had with them; nor are the numbers of the orders, in brackets. -/
theorem key_agrees_shop :
    Criterion.ofType (.optional (.scalar .bool)) " address . CITY " .isNull .and =
      .ok (nullTest " address . CITY ") ∧
    BracketFree " address . CITY ".toList ∧
    resolveKey shop .person " address . CITY " = .ok ⟨rowParameter, ["Address", "City"]⟩ ∧
    BracketFree "orders".toList ∧
    (∀ (d : Direction) (rows : List Row), sort shop .person ⟨"orders", none, d⟩ rows =
      .error (.invalidPath "orders" .notScalar)) ∧
    ¬ BracketFree "Orders[Id]".toList ∧ shop.NoBrackets ∧
    ∀ p, resolveKey shop .person "Orders[Id]" ≠ .ok p := by
  have hcity : BracketFree " address . CITY ".toList := by decide
  have horders : BracketFree "orders".toList := by decide
  have hbrackets : ¬ BracketFree "Orders[Id]".toList := by decide
  have hnames : shop.NoBrackets := by
    intro i
    cases i <;> decide
  obtain ⟨hkey, -⟩ := (key_agrees (ρ := Row) shop .person " address . CITY ").1 hcity default
    (nullTest " address . CITY ") rfl rfl
  obtain ⟨-, hother, -⟩ := (key_agrees (ρ := Row) shop .person "orders").1 horders default
    (nullTest "orders") rfl rfl
  obtain ⟨p, type, hf, hmember, hrefused⟩ := hother _ rfl
  obtain rfl : p = ⟨rowParameter, ["Orders"]⟩ := by
    cases hf
    rfl
  obtain ⟨r, hr, -, rfl⟩ := hmember
  cases hr
  refine ⟨rfl, hcity, (hkey _).mpr ⟨rfl, .text, _, rfl, rfl, rfl⟩, horders,
    fun d rows => ?_, hbrackets, hnames, (key_agrees (ρ := Row) shop .person _).2.1 hbrackets hnames⟩
  exact ((key_agrees shop .person "orders").2.2 _ (hrefused nofun) d rows).1 none

end Sample

end Winnow
