/-
  What a resolved path knows of nulls.

  Resolution and reading walk along the same segments, one through record types and one through
  records. Resolution adds up a flag on its way, and compilation leaves out the guards against
  nulls by that flag alone. `Family.memberAt?` is the declaration that segments lead to, found
  without the resolver. `Reaches.nullable_iff` says that the flag is set exactly if some
  declaration on the way, the last one included, may be null. `valueAt_eq_null_of_prefix` is the
  walk through the record: once it meets a null it ends with one.

  `resolve_nullability`, the main statement: a record that conforms holds a null at the end of the
  path only if the flag is set, and otherwise what the type says; and where the flag is set for the
  sake of a record on the way, a row without that record holds a null at the end, whether or not it
  conforms. Names may be spelled in other cases, types may refer to each other in circles, and no
  name has to be distinct.
-/
import Winnow.Proofs.Conformance

namespace Winnow

variable {ι ρ : Type}

/-! ## Declarations on the way -/

/-- The member that segments lead to through nested records, as its type declares it. -/
def Family.memberAt? (family : Family ι) : ι → List String → Option (Member ι)
  | _, [] => none
  | i, segment :: rest =>
    match (family i).member? segment with
    | none => none
    | some m =>
      match rest, m.type with
      | [], _ => some m
      | _ :: _, .record next => memberAt? family next rest
      | _ :: _, _ => none

theorem Family.memberAt?_singleton {family : Family ι} {i : ι} {segment : String} {m : Member ι}
    (hm : (family i).member? segment = some m) : family.memberAt? i [segment] = some m := by
  simp [Family.memberAt?, hm]

theorem Family.memberAt?_through {family : Family ι} {i next : ι} {segment : String}
    {rest : List String} {m : Member ι} (hm : (family i).member? segment = some m)
    (ht : m.type = .record next) (hrest : rest ≠ []) :
    family.memberAt? i (segment :: rest) = family.memberAt? next rest := by
  cases rest with
  | nil => exact absurd rfl hrest
  | cons name rest => simp only [Family.memberAt?, hm, ht]

theorem Family.memberAt?_ne_nil {family : Family ι} {i : ι} {segments : List String}
    {m : Member ι} (h : family.memberAt? i segments = some m) : segments ≠ [] := by
  rintro rfl
  exact absurd h (by simp [Family.memberAt?])

/-- A member on the way is the first one, or one that the rest of the way leads to. -/
theorem Family.exists_prefix_cons_iff {family : Family ι} {i next : ι} {segment : String}
    {rest : List String} {m : Member ι} (hm : (family i).member? segment = some m)
    (ht : m.type = .record next) {P : Member ι → Prop} :
    (∃ before way, before <+: segment :: rest ∧ family.memberAt? i before = some way ∧ P way) ↔
      P m ∨ ∃ before way, before <+: rest ∧ family.memberAt? next before = some way ∧ P way := by
  constructor
  · rintro ⟨before, way, hprefix, hway, hP⟩
    obtain ⟨names, rfl, hnames⟩ : ∃ names, before = segment :: names ∧ names <+: rest := by
      rcases List.prefix_cons_iff.mp hprefix with rfl | h
      · exact absurd rfl (memberAt?_ne_nil hway)
      · exact h
    cases names with
    | nil =>
      rw [memberAt?_singleton hm] at hway
      exact Or.inl (Option.some.inj hway ▸ hP)
    | cons name names =>
      rw [memberAt?_through hm ht (List.cons_ne_nil _ _)] at hway
      exact Or.inr ⟨_, way, hnames, hway, hP⟩
  · rintro (hP | ⟨before, way, hprefix, hway, hP⟩)
    · exact ⟨[segment], m, List.prefix_cons_iff.mpr (Or.inr ⟨[], rfl, List.nil_prefix⟩),
        memberAt?_singleton hm, hP⟩
    · exact ⟨segment :: before, way, List.prefix_cons_iff.mpr (Or.inr ⟨before, rfl, hprefix⟩),
        (memberAt?_through hm ht (memberAt?_ne_nil hway)).trans hway, hP⟩

/-- The flag is set exactly if some member on the way, or the last one, may be null. -/
theorem Family.Reaches.nullable_iff {family : Family ι} {parameter : String} {i : ι}
    {segments : List String} {r : ResolvedMember ι}
    (h : family.Reaches parameter i segments r) :
    r.nullable = true ↔ ∃ before m, before <+: segments ∧ family.memberAt? i before = some m ∧
      m.nullable = true := by
  induction h with
  | @last i segment m hm =>
    constructor
    · intro hn
      exact ⟨[segment], m, List.prefix_rfl, memberAt?_singleton hm, hn⟩
    · rintro ⟨before, m', hprefix, hm', hn⟩
      rcases List.prefix_cons_iff.mp hprefix with rfl | ⟨names, rfl, hnames⟩
      · exact absurd rfl (memberAt?_ne_nil hm')
      · rw [List.prefix_nil.mp hnames, memberAt?_singleton hm] at hm'
        exact Option.some.inj hm' ▸ hn
  | @through i next segment rest m r hm ht hr ih =>
    rw [exists_prefix_cons_iff hm ht, ← ih]
    simp [ResolvedMember.through]

/-- Before the last one, only nested records stand on the way. -/
theorem Family.Reaches.type_of_prefix {family : Family ι} {parameter : String} {i : ι}
    {segments : List String} {r : ResolvedMember ι}
    (h : family.Reaches parameter i segments r) {before : List String} (hb : before <+: segments)
    (hne : before ≠ segments) {m : Member ι} (hm : family.memberAt? i before = some m) :
    ∃ next, m.type = .record next := by
  induction h generalizing before with
  | last =>
    rcases List.prefix_cons_iff.mp hb with rfl | ⟨names, rfl, hnames⟩
    · exact absurd rfl (memberAt?_ne_nil hm)
    · exact absurd (by rw [List.prefix_nil.mp hnames]) hne
  | @through i next segment rest m' r hm' ht hr ih =>
    rcases List.prefix_cons_iff.mp hb with rfl | ⟨names, rfl, hnames⟩
    · exact absurd rfl (memberAt?_ne_nil hm)
    · cases names with
      | nil =>
        rw [memberAt?_singleton hm'] at hm
        exact ⟨next, Option.some.inj hm ▸ ht⟩
      | cons name names =>
        rw [memberAt?_through hm' ht (List.cons_ne_nil _ _)] at hm
        exact ih hnames (fun heq => hne (congrArg _ heq)) hm

/-! ## Nulls on the way -/

theorem MemberType.not_suits_null {R : ι → ρ → Prop} (t : MemberType ι) :
    ¬ t.Suits R (.null : Reading ρ) := by
  cases t <;> simp [MemberType.Suits, Reading.kind?]

variable [Record ρ]

/-- A row that holds a null on the way holds a null at the end. -/
theorem Family.Reaches.valueAt_eq_null_of_prefix {family : Family ι} {parameter : String} {i : ι}
    {segments : List String} {r : ResolvedMember ι}
    (h : family.Reaches parameter i segments r) {before : List String} (hb : before <+: segments)
    (hne : before ≠ []) {row : ρ} (hnull : family.valueAt i before row = .null) :
    family.valueAt i segments row = .null := by
  induction h generalizing before row with
  | last =>
    rcases List.prefix_cons_iff.mp hb with rfl | ⟨names, rfl, hnames⟩
    · exact absurd rfl hne
    · rwa [List.prefix_nil.mp hnames] at hnull
  | @through i next segment rest m r hm ht hr ih =>
    rcases List.prefix_cons_iff.mp hb with rfl | ⟨names, rfl, hnames⟩
    · exact absurd rfl hne
    · rw [valueAt_through hm ht hr.ne_nil]
      cases names with
      | nil =>
        rw [valueAt_singleton hm] at hnull
        rw [hnull]
      | cons name names =>
        rw [valueAt_through hm ht (List.cons_ne_nil _ _)] at hnull
        cases hf : m.valueIn row with
        | record nested =>
          rw [hf] at hnull
          exact ih hnames (List.cons_ne_nil _ _) hnull
        | _ => rfl

/-- **A path is null only if it is known to be nullable.**

    For segments that resolve: of a record that conforms, the path reads a null only if it is
    flagged as nullable, and what it reads otherwise is of the resolved type, a value of the kind, a
    nested record or a list of records that conform in turn. The flag is set exactly if the member
    at the end or a record on the way is declared as nullable. What stands on the way is a nested
    record, and a row that holds a null in its place reads as null at the end of the path. -/
theorem Family.resolve_nullability {family : Family ι} {i : ι} {segments : List String}
    {parameter : String} {r : ResolvedMember ι}
    (hr : family.resolve i segments parameter = .ok r) :
    (∀ row : ρ, family.Conforms i row →
      (r.path.read row = .null → r.nullable = true) ∧
      (r.path.read row ≠ .null → r.type.Suits family.Conforms (r.path.read row))) ∧
    (r.nullable = true ↔ ∃ before m, before <+: segments ∧ family.memberAt? i before = some m ∧
      m.nullable = true) ∧
    ∀ before m, before <+: segments → before ≠ segments → family.memberAt? i before = some m →
      (∃ next, m.type = .record next) ∧
      ∀ row : ρ, family.valueAt i before row = .null → r.path.read row = .null := by
  have hreaches := Family.resolve_eq_ok_iff.mp hr
  refine ⟨fun row hrow => ?_, hreaches.nullable_iff, fun before m hb hne hm => ⟨?_, ?_⟩⟩
  · rw [hreaches.read_eq_valueAt row]
    rcases hreaches.admits_valueAt hrow with ⟨hnull, hn⟩ | hsuits
    · exact ⟨fun _ => hn, fun h => absurd hnull h⟩
    · refine ⟨fun hnull => ?_, fun _ => hsuits⟩
      rw [hnull] at hsuits
      exact absurd hsuits r.type.not_suits_null
  · exact hreaches.type_of_prefix hb hne hm
  · intro row hnull
    rw [hreaches.read_eq_valueAt row]
    exact hreaches.valueAt_eq_null_of_prefix hb (memberAt?_ne_nil hm) hnull

namespace Sample

/-- A city counts as nullable for the sake of the address alone, and a person without an address
reads as having none. -/
theorem resolve_nullability_stranger :
    ∃ r, shop.resolve .person ["address", "city"] rowParameter = .ok r ∧
      shop.Conforms .person stranger ∧ r.type = .scalar .text ∧ r.nullable = true ∧
      r.path.read stranger = .null := by
  have hr : shop.resolve .person ["address", "city"] rowParameter =
      .ok ⟨⟨rowParameter, ["Address", "City"]⟩, "Address", .scalar .text, true⟩ := rfl
  obtain ⟨-, hflag, hway⟩ := Family.resolve_nullability (ρ := Row) hr
  refine ⟨_, hr, conforms_stranger, rfl, ?_, ?_⟩
  · exact hflag.mpr ⟨["address"], _, by decide, rfl, rfl⟩
  · exact (hway ["address"] _ (by decide) (by decide) rfl).2 stranger rfl

end Sample

end Winnow
