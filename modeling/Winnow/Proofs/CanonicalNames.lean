/-
  The exact names of a resolved path, and the case of the letters that it was given with.

  A member is looked up twice: by its exact name, and then as the first one that has the name up to
  the case of ASCII letters. Names may be declared more than once, or in several cases, so that an
  exact name could lead elsewhere than the spelling it was found by. It does not: a member before
  the one that is found has another name, or it would have been found instead
  (`find?_name_of_member?`). `Reaches.canonical` carries this along a path, through record types
  that may refer to each other in circles.

  Where the names of each record type differ in more than case, a name finds a member exactly if it
  is the member's own up to case (`member?_eq_some_iff`), so a lookup does not depend on the case.
  Neither does what a path leads to, nor what is at fault with it (`resolveFrom_sameNames`).
-/
import Mathlib.Data.List.Forall2
import Mathlib.Data.List.Nodup
import Winnow.Proofs.Conformance

namespace Winnow

variable {ι : Type}

/-! ## Names up to case -/

theorem sameName_iff {a b : String} : sameName a b = true ↔ foldCase a = foldCase b := by
  simp [sameName]

/-- The names are the same but for the case of ASCII letters, one by one. -/
def SameNames : List String → List String → Prop :=
  List.Forall₂ fun a b => sameName a b = true

namespace RecordType

variable {t : RecordType ι} {name : String} {m : Member ι}

/-- A member that is found has the name that it is found by, up to case. -/
theorem sameName_of_member? (h : t.member? name = some m) : sameName m.name name = true := by
  unfold member? at h
  rcases Option.or_eq_some_iff.mp h with h | ⟨-, h⟩
  · have hname : m.name = name := by simpa using List.find?_some h
    rw [hname, sameName_iff]
  · exact (List.find?_eq_some_iff_append.mp h).1

/-- The exact name of a member that is found leads to the same member again. -/
theorem find?_name_of_member? (h : t.member? name = some m) :
    t.members.find? (·.name == m.name) = some m := by
  unfold member? at h
  rcases Option.or_eq_some_iff.mp h with h | ⟨-, h⟩
  · have hname : m.name = name := by simpa using List.find?_some h
    rw [hname]
    exact h
  · obtain ⟨hsame, before, after, hmembers, hbefore⟩ := List.find?_eq_some_iff_append.mp h
    refine List.find?_eq_some_iff_append.mpr ⟨by simp, before, after, hmembers, fun m' hm' => ?_⟩
    -- A member of that name further up would have the given name up to case as well.
    have hdiffers : m'.name ≠ m.name := by
      intro heq
      have hnot := hbefore m' hm'
      rw [heq, hsame] at hnot
      cases hnot
    simpa using hdiffers

theorem member?_name (h : t.member? name = some m) : t.member? m.name = some m := by
  rw [member?, find?_name_of_member? h]
  rfl

end RecordType

/-! ## The exact names of a path -/

namespace Family

variable {family : Family ι} {parameter : String} {i : ι} {segments : List String}
  {r : ResolvedMember ι}

/-- The exact names of a path reach what the path was found by. -/
theorem Reaches.canonical (h : family.Reaches parameter i segments r) :
    family.Reaches parameter i r.path.segments r := by
  induction h with
  | last hm => exact .last (RecordType.member?_name hm)
  | through hm ht _ ih => exact .through (RecordType.member?_name hm) ht ih

/-- The exact names are the given segments up to case. -/
theorem Reaches.sameNames (h : family.Reaches parameter i segments r) :
    SameNames r.path.segments segments := by
  induction h with
  | last hm => exact .cons (RecordType.sameName_of_member? hm) .nil
  | through hm _ _ ih => exact .cons (RecordType.sameName_of_member? hm) ih

end Family

/-! ## Lookup without regard to case -/

/-- The names of no two members of a record type are the same up to case. -/
def Family.DistinctUpToCase (family : Family ι) : Prop :=
  ∀ i, ((family i).members.map fun m => foldCase m.name).Nodup

namespace RecordType

variable {t : RecordType ι} (hd : (t.members.map fun m => foldCase m.name).Nodup)

include hd

/-- A name finds the member whose own name it is up to case. -/
theorem member?_eq_some_iff {name : String} {m : Member ι} :
    t.member? name = some m ↔ m ∈ t.members ∧ sameName m.name name = true := by
  refine ⟨fun h => ⟨mem_of_member? h, sameName_of_member? h⟩, fun ⟨hm, hname⟩ => ?_⟩
  have hfound : (t.member? name).isSome := by
    rw [member?, Option.isSome_or, Bool.or_eq_true, List.find?_isSome, List.find?_isSome]
    exact Or.inr ⟨m, hm, hname⟩
  obtain ⟨m', hm'⟩ := Option.isSome_iff_exists.mp hfound
  have hfold : foldCase m'.name = foldCase m.name :=
    (sameName_iff.mp (sameName_of_member? hm')).trans (sameName_iff.mp hname).symm
  have heq : m' = m := List.inj_on_of_nodup_map hd (mem_of_member? hm') hm hfold
  rw [hm', heq]

/-- Names that are the same up to case find the same. -/
theorem member?_congr {a b : String} (h : sameName a b = true) : t.member? a = t.member? b := by
  refine Option.ext fun m => ?_
  rw [member?_eq_some_iff hd, member?_eq_some_iff hd, sameName_iff, sameName_iff,
    sameName_iff.mp h]

end RecordType

/-- Faults of one variant: the same is wrong with two paths, each of which is shown as it was given.
A missing member is shown as it was given too, a member that is no nested record by its exact
name. -/
inductive SameFault (path path' : String) : Error → Error → Prop
  | noSegments : SameFault path path' (.invalidPath "" .noSegments) (.invalidPath "" .noSegments)
  | memberNotFound {segment segment' : String} (h : sameName segment segment' = true)
      (type : String) :
      SameFault path path' (.memberNotFound path segment type) (.memberNotFound path' segment' type)
  | notARecord (member type : String) :
      SameFault path path' (.notARecord path member type) (.notARecord path' member type)

namespace Family

variable {family : Family ι}

/-- Segments that are the same up to case lead to one member, or are at fault alike. -/
theorem resolveFrom_sameNames (hd : family.DistinctUpToCase) (parameter path path' : String) (i : ι)
    {segments segments' : List String} (h : SameNames segments segments') :
    (∃ r, family.resolveFrom parameter path i segments = .ok r ∧
      family.resolveFrom parameter path' i segments' = .ok r) ∨
    ∃ e e', family.resolveFrom parameter path i segments = .error e ∧
      family.resolveFrom parameter path' i segments' = .error e' ∧ SameFault path path' e e' := by
  induction h generalizing i with
  | nil => exact Or.inr ⟨_, _, rfl, rfl, .noSegments⟩
  | @cons segment segment' rest rest' hname hrest ih =>
    have hlookup := RecordType.member?_congr (hd i) hname
    by_cases hnil : rest = []
    · obtain rfl : rest' = [] := by simpa [hnil] using hrest
      subst hnil
      rw [resolveFrom, resolveFrom, ← hlookup]
      cases (family i).member? segment with
      | none => exact Or.inr ⟨_, _, rfl, rfl, .memberNotFound hname _⟩
      | some m => exact Or.inl ⟨_, rfl, rfl⟩
    · have hnil' : rest' ≠ [] := by
        rintro rfl
        exact hnil (by simpa using hrest)
      rw [resolveFrom.eq_3 _ _ _ _ _ _ hnil, resolveFrom.eq_3 _ _ _ _ _ _ hnil', ← hlookup]
      cases (family i).member? segment with
      | none => exact Or.inr ⟨_, _, rfl, rfl, .memberNotFound hname _⟩
      | some m =>
        cases ht : m.type with
        | record next =>
          simp only [ht]
          rcases ih next with ⟨r, hr, hr'⟩ | ⟨e, e', he, he', hfault⟩
          · rw [hr, hr']
            exact Or.inl ⟨_, rfl, rfl⟩
          · rw [he, he']
            exact Or.inr ⟨_, _, rfl, rfl, hfault⟩
        | scalar | collection =>
          simp only [ht]
          exact Or.inr ⟨_, _, rfl, rfl, .notARecord _ _⟩

/-- **Resolution gives exact names, and does not depend on the case of letters.**

    For every family: the names of a resolved path are the given segments up to the case of ASCII
    letters, and lead to exactly the same again, path, owner, type and nullability; names may be
    declared in several cases, or more than once. If no two names of a record type are the same up
    to case, then segments that are the same up to case lead to one and the same, or both are at
    fault in the same way. -/
theorem resolve_canonical (family : Family ι) (i : ι) (parameter : String) :
    (∀ segments r, family.resolve i segments parameter = .ok r →
      family.resolve i r.path.segments parameter = .ok r ∧ SameNames r.path.segments segments) ∧
    (family.DistinctUpToCase → ∀ segments segments', SameNames segments segments' →
      (∃ r, family.resolve i segments parameter = .ok r ∧
        family.resolve i segments' parameter = .ok r) ∨
      ∃ e e', family.resolve i segments parameter = .error e ∧
        family.resolve i segments' parameter = .error e' ∧
        SameFault (".".intercalate segments) (".".intercalate segments') e e') := by
  refine ⟨fun segments r hr => ?_, fun hd segments segments' h => ?_⟩
  · have hreaches := resolve_eq_ok_iff.mp hr
    exact ⟨resolve_eq_ok_iff.mpr hreaches.canonical, hreaches.sameNames⟩
  · exact resolveFrom_sameNames hd parameter _ _ i h

end Family

namespace Sample

/-- Nodes with a next node, and with a text of the same name in another case. -/
def twins : Family Unit := fun _ =>
  ⟨"Node", [⟨"Next", .record (), true⟩, ⟨"next", .scalar .text, false⟩,
    ⟨"NEXT", .scalar .number, false⟩, ⟨"Next", .scalar .boolean, false⟩]⟩

/-- Twins are told apart by the exact names that they are found by; in the shop, no spelling of
`Address` makes a difference. -/
theorem resolve_canonical_twins :
    (∃ r, twins.resolve () ["nexT", "next"] rowParameter = .ok r ∧
      r.path.segments = ["Next", "next"] ∧ r.type = .scalar .text ∧
      twins.resolve () r.path.segments rowParameter = .ok r ∧
      SameNames r.path.segments ["nexT", "next"]) ∧
    shop.DistinctUpToCase ∧ SameNames ["address", "ZIP"] ["ADDRESS", "zip"] ∧
    ∃ e e', shop.resolve .person ["address", "ZIP"] rowParameter = .error e ∧
      shop.resolve .person ["ADDRESS", "zip"] rowParameter = .error e' ∧
      SameFault "address.ZIP" "ADDRESS.zip" e e' := by
  have hr : twins.resolve () ["nexT", "next"] rowParameter =
      .ok ⟨⟨rowParameter, ["Next", "next"]⟩, "Node", .scalar .text, true⟩ := rfl
  have hd : shop.DistinctUpToCase := by
    intro i
    cases i <;> decide
  have hnames : SameNames ["address", "ZIP"] ["ADDRESS", "zip"] :=
    .cons (by decide) (.cons (by decide) .nil)
  obtain ⟨hagain, hsame⟩ := (Family.resolve_canonical twins () rowParameter).1 _ _ hr
  refine ⟨⟨_, hr, rfl, rfl, hagain, hsame⟩, hd, hnames, ?_⟩
  rcases (Family.resolve_canonical shop .person rowParameter).2 hd _ _ hnames with
    ⟨r, hr, -⟩ | hfault
  · cases hr
  · exact hfault

end Sample

end Winnow
