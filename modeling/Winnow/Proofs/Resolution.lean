/-
  What resolving segments finds, and what a record holds there.

  `Reaches` says it in two rules: the last segment names a member of the type at hand, and a
  segment before it names a nested record, from whose type the rest goes on. Resolution finds
  exactly what the rules reach (`resolveFrom_eq_ok_iff`), so that each later statement is one
  induction over the two rules, and none of them opens the resolver again.

  `valueAt` follows the segments through a record beside the schema, without a resolved path. It
  gives what the resolved path reads (`read_eq_valueAt`), for every record, whether or not it
  keeps to the schema.

  The name of the parameter is carried along and decides nothing (`resolve_withParameter`). Where
  the names of every type are distinct, the exact names of a resolved path lead to the same
  member again (`typeAt?_segments`).
-/
import Winnow.Schema.Path

namespace Winnow

variable {ι ρ : Type}

/-! ## The rules of resolution -/

/-- What the segments reach from a record type on. -/
inductive Family.Reaches (family : Family ι) (parameter : String) :
    ι → List String → ResolvedMember ι → Prop where
  | last {i : ι} {segment : String} {m : Member ι}
      (hm : (family i).member? segment = some m) :
      Reaches family parameter i [segment]
        ⟨⟨parameter, [m.name]⟩, (family i).name, m.type, m.nullable⟩
  | through {i next : ι} {segment : String} {rest : List String} {m : Member ι}
      {r : ResolvedMember ι} (hm : (family i).member? segment = some m)
      (ht : m.type = .record next) (hr : Reaches family parameter next rest r) :
      Reaches family parameter i (segment :: rest) (r.through m)

theorem Family.Reaches.ne_nil {family : Family ι} {parameter : String} {i : ι}
    {segments : List String} {r : ResolvedMember ι}
    (h : family.Reaches parameter i segments r) : segments ≠ [] := by
  cases h <;> exact List.cons_ne_nil _ _

theorem Family.Reaches.path_ne_nil {family : Family ι} {parameter : String} {i : ι}
    {segments : List String} {r : ResolvedMember ι}
    (h : family.Reaches parameter i segments r) : r.path.segments ≠ [] := by
  cases h <;> exact List.cons_ne_nil _ _

theorem Family.reaches_of_resolveFrom {family : Family ι} {parameter path : String} {i : ι}
    {segments : List String} {r : ResolvedMember ι}
    (h : family.resolveFrom parameter path i segments = .ok r) :
    family.Reaches parameter i segments r := by
  fun_induction Family.resolveFrom family parameter path i segments generalizing r with
  | case1 => exact absurd h (by simp)
  | case2 => exact absurd h (by simp)
  | case3 i last m hm =>
    injection h with h
    subst h
    exact .last hm
  | case4 => exact absurd h (by simp)
  | case5 i segment rest _ m hm next ht ih =>
    cases hr : family.resolveFrom parameter path next rest with
    | error e => rw [hr] at h; exact absurd h (by simp [Except.map])
    | ok r' =>
      rw [hr] at h
      injection h with h
      subst h
      exact .through hm ht (ih hr)
  | case6 => exact absurd h (by simp)

theorem Family.resolveFrom_of_reaches {family : Family ι} {parameter : String} {i : ι}
    {segments : List String} {r : ResolvedMember ι}
    (h : family.Reaches parameter i segments r) (path : String) :
    family.resolveFrom parameter path i segments = .ok r := by
  induction h with
  | last hm => rw [Family.resolveFrom, hm]
  | @through i next segment rest m r hm ht hr ih =>
    rw [Family.resolveFrom.eq_3 _ _ _ _ _ _ hr.ne_nil, hm]
    simp only [ht, ih]
    rfl

/-- Resolution finds what the rules reach, whatever path its messages would show. -/
theorem Family.resolveFrom_eq_ok_iff {family : Family ι} {parameter path : String} {i : ι}
    {segments : List String} {r : ResolvedMember ι} :
    family.resolveFrom parameter path i segments = .ok r ↔
      family.Reaches parameter i segments r :=
  ⟨Family.reaches_of_resolveFrom, fun h => Family.resolveFrom_of_reaches h path⟩

theorem Family.resolve_eq_ok_iff {family : Family ι} {parameter : String} {i : ι}
    {segments : List String} {r : ResolvedMember ι} :
    family.resolve i segments parameter = .ok r ↔ family.Reaches parameter i segments r :=
  Family.resolveFrom_eq_ok_iff

/-! ## The member at the end -/

theorem RecordType.mem_of_member? {t : RecordType ι} {name : String} {m : Member ι}
    (h : t.member? name = some m) : m ∈ t.members := by
  unfold RecordType.member? at h
  rcases Option.or_eq_some_iff.mp h with h | ⟨_, h⟩
  · exact List.mem_of_find?_eq_some h
  · exact List.mem_of_find?_eq_some h

/-- The member at the end of a resolved path, in the type that declares it. -/
theorem Family.Reaches.exists_member {family : Family ι} {parameter : String} {i : ι}
    {segments : List String} {r : ResolvedMember ι}
    (h : family.Reaches parameter i segments r) :
    ∃ j m, m ∈ (family j).members ∧ r.type = m.type ∧ r.owner = (family j).name ∧
      r.path.segments.getLast? = some m.name := by
  induction h with
  | @last i segment m hm => exact ⟨i, m, RecordType.mem_of_member? hm, rfl, rfl, rfl⟩
  | @through i next segment rest m r hm ht hr ih =>
    obtain ⟨j, m', hmem, htype, howner, hlast⟩ := ih
    refine ⟨j, m', hmem, htype, howner, ?_⟩
    show (m.name :: r.path.segments).getLast? = some m'.name
    rw [List.getLast?_cons, hlast]
    rfl

/-! ## The name of the parameter -/

/-- The resolved member, reached from a parameter of another name. -/
def ResolvedMember.withParameter (r : ResolvedMember ι) (parameter : String) :
    ResolvedMember ι :=
  { r with path := { r.path with parameter := parameter } }

/-- Resolution from another parameter finds the same, errors included. -/
theorem Family.resolve_withParameter (family : Family ι) (i : ι) (segments : List String)
    (parameter other : String) :
    family.resolve i segments other =
      (family.resolve i segments parameter).map (·.withParameter other) := by
  unfold Family.resolve
  generalize ".".intercalate segments = path
  fun_induction Family.resolveFrom family parameter path i segments with
  | case1 => rfl
  | case2 i last hm =>
    rw [Family.resolveFrom, hm]
    rfl
  | case3 i last m hm =>
    rw [Family.resolveFrom, hm]
    rfl
  | case4 i segment rest hrest hm =>
    rw [Family.resolveFrom.eq_3 _ _ _ _ _ _ hrest, hm]
    rfl
  | case5 i segment rest hrest m hm next ht ih =>
    rw [Family.resolveFrom.eq_3 _ _ _ _ _ _ hrest, hm]
    simp only [ht, ih]
    cases family.resolveFrom parameter path next rest <;> rfl
  | case6 i segment rest hrest m hm ht =>
    rw [Family.resolveFrom.eq_3 _ _ _ _ _ _ hrest, hm]
    cases hr : m.type with
    | record next => exact absurd hr (ht next)
    | scalar | collection =>
      simp only [hr]
      rfl

/-! ## Values along segments -/

variable [Record ρ]

/-- What a record holds for a member: a name that it does not answer holds a null. -/
def Member.valueIn (m : Member ι) (row : ρ) : Reading ρ := (Record.read? row m.name).getD .null

/-- The value of the member that segments name in a record: a null if a record on the way is
null or missing. -/
def Family.valueAt (family : Family ι) : ι → List String → ρ → Reading ρ
  | _, [], _ => .null
  | i, segment :: rest, row =>
    match (family i).member? segment with
    | none => .null
    | some m =>
      match rest, m.type, m.valueIn row with
      | [], _, f => f
      | _ :: _, .record next, .record row => valueAt family next rest row
      | _ :: _, _, _ => .null

theorem Family.valueAt_singleton {family : Family ι} {i : ι} {segment : String} {m : Member ι}
    (hm : (family i).member? segment = some m) (row : ρ) :
    family.valueAt i [segment] row = m.valueIn row := by
  simp [Family.valueAt, hm]

theorem Family.valueAt_through {family : Family ι} {i next : ι} {segment : String}
    {rest : List String} {m : Member ι} (hm : (family i).member? segment = some m)
    (ht : m.type = .record next) (hrest : rest ≠ []) (row : ρ) :
    family.valueAt i (segment :: rest) row =
      match m.valueIn row with
      | .record nested => family.valueAt next rest nested
      | _ => .null := by
  cases rest with
  | nil => exact absurd rfl hrest
  | cons name rest =>
    rw [Family.valueAt, hm]
    simp only [ht]
    cases m.valueIn row <;> rfl

theorem MemberPath.readSegments_cons {rest : List String} (hrest : rest ≠ []) (name : String)
    (row : ρ) :
    MemberPath.readSegments (name :: rest) row =
      match (Record.read? row name).getD .null with
      | .record nested => MemberPath.readSegments rest nested
      | _ => .null := by
  rw [MemberPath.readSegments.eq_3 _ _ _ hrest]
  cases Record.read? row name with
  | none => rfl
  | some f => cases f <;> rfl

/-- The exact names of a resolved path read what the segments name. -/
theorem Family.Reaches.read_eq_valueAt {family : Family ι} {parameter : String} {i : ι}
    {segments : List String} {r : ResolvedMember ι}
    (h : family.Reaches parameter i segments r) (row : ρ) :
    r.path.read row = family.valueAt i segments row := by
  induction h generalizing row with
  | last hm => exact (Family.valueAt_singleton hm row).symm
  | @through i next segment rest m r hm ht hr ih =>
    rw [Family.valueAt_through hm ht hr.ne_nil row]
    show MemberPath.readSegments (m.name :: r.path.segments) row = _
    rw [MemberPath.readSegments_cons hr.path_ne_nil]
    unfold Member.valueIn
    cases (Record.read? row m.name).getD .null with
    | record nested => exact ih nested
    | _ => rfl

/-! ## Declared types along exact names -/

/-- No two members of a record type have one name. -/
def Family.DistinctNames (family : Family ι) : Prop :=
  ∀ i, ((family i).members.map Member.name).Nodup

/-- The type that is declared for the member that exact names lead to. -/
def Family.typeAt? (family : Family ι) : ι → List String → Option (MemberType ι)
  | _, [] => none
  | i, name :: rest =>
    match (family i).members.find? (·.name == name) with
    | none => none
    | some m =>
      match rest, m.type with
      | [], t => some t
      | _ :: _, .record next => typeAt? family next rest
      | _ :: _, _ => none

/-- What is the only one with its key is found by it. -/
theorem find?_key {α : Type} {key : α → String} {as : List α} (hd : (as.map key).Nodup) {a : α}
    (ha : a ∈ as) : as.find? (key · == key a) = some a := by
  induction as with
  | nil => exact absurd ha List.not_mem_nil
  | cons b as ih =>
    rw [List.map_cons, List.nodup_cons] at hd
    rcases List.mem_cons.mp ha with rfl | ha
    · rw [List.find?_cons_of_pos (by simp)]
    · have hne : key b ≠ key a := fun he => hd.1 (he ▸ List.mem_map_of_mem ha)
      rw [List.find?_cons_of_neg (by simpa using hne)]
      exact ih hd.2 ha

theorem RecordType.find?_name {t : RecordType ι} (hd : (t.members.map Member.name).Nodup)
    {m : Member ι} (hm : m ∈ t.members) : t.members.find? (·.name == m.name) = some m :=
  find?_key hd hm

/-- The exact names of a resolved path lead to the type of the member. -/
theorem Family.Reaches.typeAt?_segments {family : Family ι} {parameter : String} {i : ι}
    {segments : List String} {r : ResolvedMember ι}
    (h : family.Reaches parameter i segments r) (hd : family.DistinctNames) :
    family.typeAt? i r.path.segments = some r.type := by
  induction h with
  | @last i segment m hm =>
    have hfind := RecordType.find?_name (hd i) (RecordType.mem_of_member? hm)
    simp only [Family.typeAt?, hfind]
  | @through i next segment rest m r hm ht hr ih =>
    have hfind := RecordType.find?_name (hd i) (RecordType.mem_of_member? hm)
    show family.typeAt? i (m.name :: r.path.segments) = some r.type
    rw [Family.typeAt?, hfind]
    cases hs : r.path.segments with
    | nil => exact absurd hs hr.path_ne_nil
    | cons name names =>
      simp only [ht]
      rw [← hs]
      exact ih

end Winnow
