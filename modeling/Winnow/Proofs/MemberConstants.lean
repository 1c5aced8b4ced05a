/-
  The constants that hold the names of members, as paths of criteria.

  Code is generated only if the constant of every member is an identifier. The constant is the name
  in capitals with an underscore for a separator, so the name has no white space and no brackets
  (`charsOf_capitalize`) and is not empty; but it may have a point, which is a separator as well. As
  a path, such a name is cut at its points, and a path in pieces never leads to a member at the root.
  `constants_address_iff`, the main statement: the constant of a member addresses it exactly if
  there is no point in its name.
-/
import Winnow.Proofs.BracketedPath
import Winnow.Proofs.Compilation
import Winnow.Proofs.DerivedRecord

namespace Winnow

variable {ι ρ : Type}

/-! ## White space and identifiers -/

/-- The character may stand somewhere in an identifier. -/
def isIdentifierChar (c : Char) : Bool := isIdentifierStart c || isIdentifierPart c

theorem isIdentifierChar_of_mem {cs : List Char} (h : isIdentifier cs = true) {c : Char}
    (hc : c ∈ cs) : isIdentifierChar c = true := by
  unfold isIdentifierChar
  cases cs with
  | nil => exact absurd hc List.not_mem_nil
  | cons first rest =>
    obtain ⟨hfirst, hrest⟩ := Bool.and_eq_true_iff.mp h
    rcases List.mem_cons.mp hc with rfl | hc
    · rw [hfirst, Bool.true_or]
    · rw [List.all_eq_true.mp hrest c hc, Bool.or_true]

/-- No white space stands in an identifier, nor is it a letter in lower case. -/
theorem not_isIdentifierChar_of_isBlank {c : Char} (h : isBlank c = true) :
    isIdentifierChar c = false ∧ c.toUpper = c := by
  have hall : blankChars.all (fun b => !isIdentifierChar b && b.toUpper == b) = true := by
    decide +kernel
  simpa using List.all_eq_true.mp hall c (mem_blankChars h)

namespace Naming

/-- What stands in the constant for a character of a name: an underscore for a separator, and
otherwise the character itself or its capital. -/
theorem charsOf_capitalize (afterLower : Bool) {cs : List Char} {c : Char} (hc : c ∈ cs) :
    c = '_' ∨ c = '-' ∨ c = '.' ∨ c ∈ capitalize afterLower cs ∨
      c.toUpper ∈ capitalize afterLower cs := by
  induction cs generalizing afterLower with
  | nil => exact absurd hc List.not_mem_nil
  | cons first cs ih =>
    unfold capitalize
    rcases List.mem_cons.mp hc with rfl | hc
    · split
      · cases afterLower <;> simp
      · split
        · next hseparator =>
          rcases hseparator with h | h | h <;> simp [h]
        · simp
    · split
      · rcases ih false hc with h | h | h | h | h <;> simp [h]
      · split
        · rcases ih false hc with h | h | h | h | h <;> simp [h]
        · rcases ih (isAlphanumeric first) hc with h | h | h | h | h <;> simp [h]

/-- The name of a member whose constant is an identifier has neither brackets nor white space. -/
theorem plain_of_isIdentifier {name : String}
    (h : isIdentifier (constantName name).toList = true) {c : Char} (hc : c ∈ name.toList) :
    isBlank c = false ∧ c ≠ '[' ∧ c ≠ ']' := by
  have hchars : ∀ d, c = d → isIdentifierChar d = false → d.toUpper = d →
      d ≠ '_' → d ≠ '-' → d ≠ '.' → False := by
    rintro d rfl hnot hupper hunderscore hminus hpoint
    rw [constantName, String.toList_ofList] at h
    rcases charsOf_capitalize false hc with h' | h' | h' | h' | h'
    · exact hunderscore h'
    · exact hminus h'
    · exact hpoint h'
    · rw [isIdentifierChar_of_mem h h'] at hnot
      cases hnot
    · rw [hupper] at h'
      rw [isIdentifierChar_of_mem h h'] at hnot
      cases hnot
  refine ⟨?_, ?_, ?_⟩
  · rw [← Bool.not_eq_true]
    intro hblank
    obtain ⟨hnot, hupper⟩ := not_isIdentifierChar_of_isBlank hblank
    refine hchars c rfl hnot hupper ?_ ?_ ?_ <;>
      (rintro rfl; exact absurd hblank (by decide))
  · rintro rfl
    exact hchars '[' rfl (by decide) (by decide) (by decide) (by decide) (by decide)
  · rintro rfl
    exact hchars ']' rfl (by decide) (by decide) (by decide) (by decide) (by decide)

theorem ne_nil_of_isIdentifier {name : String}
    (h : isIdentifier (constantName name).toList = true) : name.toList ≠ [] := by
  intro hnil
  rw [constantName, String.toList_ofList, hnil] at h
  exact absurd h (by decide)

end Naming

/-! ## Paths of one segment -/

theorem length_cutAt (mark : Char) (cs : List Char) :
    (cutAt mark cs).length = cs.count mark + 1 := by
  induction cs with
  | nil => rfl
  | cons c cs ih =>
    unfold cutAt
    by_cases hc : c = mark
    · rw [if_pos hc, List.length_cons, ih, hc, List.count_cons_self]
    · rw [if_neg hc, List.count_cons_of_ne hc, ← ih]
      cases hp : cutAt mark cs with
      | nil => exact absurd hp (cutAt_ne_nil mark cs)
      | cons piece pieces => rfl

theorem length_of_splitSegments {cs : List Char} {shown : String} {segments : List String}
    (h : splitSegments cs shown = .ok segments) : segments.length = cs.count '.' + 1 := by
  unfold splitSegments at h
  dsimp only at h
  split at h
  · cases h
  · cases h
    rw [List.length_map, List.length_map, length_cutAt]

/-- A text without white space is its own trimmed text. -/
theorem trimChars_of_no_blank {cs : List Char} (h : ∀ c ∈ cs, isBlank c = false) :
    trimChars cs = cs := by
  obtain ⟨before, after, hb, ha, hcs⟩ := exists_blank_around cs
  have hnone : ∀ {bs : List Char}, (∀ b ∈ bs, b ∈ cs) → (∀ b ∈ bs, isBlank b = true) →
      bs = [] := by
    intro bs hmem hblank
    refine List.eq_nil_iff_forall_not_mem.mpr fun b hb => ?_
    have hfalse := h b (hmem b hb)
    rw [hblank b hb] at hfalse
    cases hfalse
  have hbefore : before = [] :=
    hnone (fun b hmem => hcs ▸ List.mem_append_left _ hmem) hb
  have hafter : after = [] :=
    hnone (fun b hmem => hcs ▸ List.mem_append_right _ (List.mem_append_right _ hmem)) ha
  rw [hbefore, hafter, List.nil_append, List.append_nil] at hcs
  exact hcs.symm

/-- A name without points, brackets and white space is a path of one segment. -/
theorem PropertyPath.parse_eq_plain_singleton {name : String} (hne : name.toList ≠ [])
    (hchars : ∀ c ∈ name.toList, isBlank c = false ∧ c ≠ '[' ∧ c ≠ ']')
    (hpoint : '.' ∉ name.toList) : parse name = .ok (.plain [name]) := by
  have hfree : BracketFree name.toList :=
    ⟨List.count_eq_zero.mpr fun h => (hchars _ h).2.1 rfl,
      List.count_eq_zero.mpr fun h => (hchars _ h).2.2 rfl⟩
  have hcut : cutAt '.' name.toList = [name.toList] := by
    obtain ⟨piece, hpiece⟩ := List.length_eq_one_iff.mp
      (show (cutAt '.' name.toList).length = 1 by
        rw [length_cutAt, List.count_eq_zero.mpr hpoint])
    have hjoin := intercalate_cutAt '.' name.toList
    rw [hpiece] at hjoin ⊢
    rw [List.intercalate_singleton] at hjoin
    rw [hjoin]
  refine parse_eq_plain_iff.mpr ⟨hfree, ?_⟩
  unfold splitSegments
  rw [hcut, List.map_singleton, trimChars_of_no_blank fun c hc => (hchars c hc).1]
  simp [hne]

/-! ## Members at the root -/

namespace Family

variable {family : Family ι} {i : ι}

/-- A member of a record type, as it is resolved at the root. -/
def atRoot (family : Family ι) (i : ι) (m : Member ι) : ResolvedMember ι :=
  ⟨⟨rowParameter, [m.name]⟩, (family i).name, m.type, m.nullable⟩

/-- A property leads, at the root of a record type, to exactly the member. -/
def Addresses (family : Family ι) (i : ι) (property : String) (m : Member ι) : Prop :=
  ∃ segments, PropertyPath.parse property = .ok (.plain segments) ∧
    family.resolve i segments rowParameter = .ok (family.atRoot i m)

/-- A criterion with a property that leads to a member is compiled for that member. -/
theorem Addresses.compile {property : String} {m : Member ι}
    (h : family.Addresses i property m) (o : Options) {c : Criterion}
    (hc : c.property = property) :
    c.compile family o i = Criterion.memberFormula family o (family.atRoot i m) c := by
  obtain ⟨segments, hparse, hresolve⟩ := h
  rw [Criterion.compile_of_plain (hc ▸ hparse), Criterion.compileAt, hresolve]
  rfl

/-- A resolved path has as many names as there are segments. -/
theorem Reaches.length_segments {segments : List String} {r : ResolvedMember ι}
    (h : family.Reaches rowParameter i segments r) :
    r.path.segments.length = segments.length := by
  induction h with
  | last => rfl
  | through _ _ _ ih => exact congrArg (· + 1) ih

/-- A property with a point in it leads to no member at the root. -/
theorem not_addresses_of_point {property : String} (hpoint : '.' ∈ property.toList)
    (m : Member ι) : ¬ family.Addresses i property m := by
  rintro ⟨segments, hparse, hresolve⟩
  have hsegments := length_of_splitSegments (PropertyPath.parse_eq_plain_iff.mp hparse).2
  have hnames : 1 = segments.length := (resolve_eq_ok_iff.mp hresolve).length_segments
  have hcount := List.count_pos_iff.mpr hpoint
  omega

/-- A member is found by its name if the name is its own and a path of one segment. -/
theorem addresses_of_plain {m : Member ι} (hd : ((family i).members.map Member.name).Nodup)
    (hm : m ∈ (family i).members)
    (hparse : PropertyPath.parse m.name = .ok (.plain [m.name])) :
    family.Addresses i m.name m := by
  refine ⟨[m.name], hparse, resolve_eq_ok_iff.mpr (.last ?_)⟩
  rw [RecordType.member?, RecordType.find?_name hd hm]
  rfl

end Family

/-! ## Constants -/

/-- **A constant addresses its member unless the name has a point in it.**

    For the code that is generated for an item and compiles, and a family that has the compiled
    schema: every field that is not skipped has a member which follows it, and a constant that holds
    the name of the member. Its value leads at the root to exactly that member if and only if there
    is no point in it; every criterion at this path is then compiled for the member, and the path
    reads from every instance what is read from the field. -/
theorem ModelCode.constants_address_iff [Record ρ] {scope : Scope ι ρ} {item : Item}
    {fields : List ItemField} {code : ModelCode} {model : CompiledModel scope fields}
    (hbody : item.body = .record fields) (hcode : generate item = .ok code)
    (hmodel : code.compile? scope fields = some model) {family : Family ι} {i : ι}
    (hschema : family i = model.schema) :
    ∃ rule, RenameRule.ofAttributes item.attributes = .ok rule ∧
      ∀ f ∈ fields, f.marks.skip = false →
        ∃ m ∈ model.schema.members, model.Follows rule f m ∧
          (Naming.constantName m.name, m.name) ∈ code.constants ∧
          (family.Addresses i m.name m ↔ '.' ∉ m.name.toList) ∧
          ('.' ∉ m.name.toList → ∀ (o : Options) (c : Criterion), c.property = m.name →
            c.compile family o i = Criterion.memberFormula family o (family.atRoot i m) c) ∧
          ∃ value read, scope.field? fields f.name = some ⟨f.type, value⟩ ∧ scope.Reads f read ∧
            ∀ self row, (∀ name, Record.read? row name = model.field? self name) →
              (family.atRoot i m).path.read row = read (value self) := by
  obtain ⟨rule, ds, hrule, hds, rfl⟩ := exists_derived hbody hcode
  obtain ⟨hmembers, harms, hnodup⟩ := names_of_compile? hds hmodel
  have hfollows := forall₂_follows (fun f hf => List.mem_of_mem_filter hf) hds hmodel
  refine ⟨rule, hrule, fun f hf hskip => ?_⟩
  have hkept : f ∈ fields.filter (!·.marks.skip) := List.mem_filter.mpr ⟨hf, by simp [hskip]⟩
  obtain ⟨m, hm, hfollow⟩ := exists_of_forall₂ hfollows hkept
  obtain ⟨d, hd, hfrom⟩ := exists_of_forall₂ hds hkept
  have hname : m.name = d.name := hfollow.name.trans hfrom.name.symm
  have hidentifier : isIdentifier (Naming.constantName m.name).toList = true := by
    rw [hname, ← hfrom.constant]
    exact hfrom.identifier
  have haddresses : '.' ∉ m.name.toList → family.Addresses i m.name m := by
    intro hpoint
    refine Family.addresses_of_plain ?_ (hschema ▸ hm) ?_
    · rw [hschema, hmembers, ← harms]
      exact hnodup
    · exact PropertyPath.parse_eq_plain_singleton (Naming.ne_nil_of_isIdentifier hidentifier)
        (fun c hc => Naming.plain_of_isIdentifier hidentifier hc) hpoint
  refine ⟨m, hm, hfollow, ?_, ⟨fun h hpoint => Family.not_addresses_of_point hpoint m h,
    haddresses⟩, fun hpoint o c hc => (haddresses hpoint).compile o hc, ?_⟩
  · rw [hname, ← hfrom.constant]
    exact List.mem_map.mpr ⟨d, hd, rfl⟩
  · obtain ⟨value, read, hvalue, hread, hself⟩ := hfollow.reads
    refine ⟨value, read, hvalue, hread, fun self row hrow => ?_⟩
    show (Record.read? row m.name).getD .null = _
    rw [hrow, hself]
    rfl

namespace Sample

/-- The constant `ADDRESS` of a person addresses the home, which has been given that name. -/
theorem constants_address_iff_person :
    ∃ code model, ModelCode.generate personItem = .ok code ∧
      code.compile? shopTypes personFields = some model ∧ shop .person = model.schema ∧
      ("ADDRESS", "Address") ∈ code.constants ∧
      shop.Addresses .person "Address" ⟨"Address", .record .address, true⟩ := by
  refine ⟨_, _, rfl, rfl, rfl, by decide, ?_⟩
  obtain ⟨rule, hrule, h⟩ := @ModelCode.constants_address_iff TypeName Row _ shopTypes personItem
    personFields _ _ rfl rfl rfl shop .person rfl
  obtain rfl : some RenameRule.pascal = rule := Except.ok.inj hrule
  obtain ⟨m, hm, hfollow, -, haddress, -⟩ :=
    h (personFields.get ⟨2, by decide⟩) (List.get_mem _ _) rfl
  have hname : m.name = "Address" := hfollow.name
  have hmembers : m ∈ (shop .person).members := hm
  simp only [shop, List.mem_cons, List.not_mem_nil, or_false] at hmembers
  rcases hmembers with rfl | rfl | rfl
  · exact absurd hname (by decide)
  · exact haddress.mpr (by decide)
  · exact absurd hname (by decide)

/-- A customer whose home is named with a point. -/
def pointedFields : List ItemField :=
  [⟨"home", .path ["String"] [], [⟨"criteria", some [.assign "rename" (some "Home.City")]⟩]⟩]

def pointedItem : Item := ⟨"Customer", [], [], .record pointedFields⟩

/-- The record type that is derived from it. -/
def pointed : Family TypeName := fun _ => ⟨"Customer", [⟨"Home.City", .scalar .text, false⟩]⟩

/-- Code is generated and compiles, but a criterion at the constant finds no member. -/
theorem pointed_constant_not_found :
    ∃ code model, ModelCode.generate pointedItem = .ok code ∧
      code.compile? shopTypes pointedFields = some model ∧ pointed .person = model.schema ∧
      code.constants = [("HOME_CITY", "Home.City")] ∧
      ∀ (o : Options) (c : Criterion), c.property = "Home.City" →
        c.compile pointed o .person = .error (.memberNotFound "Home.City" "Home" "Customer") := by
  refine ⟨_, _, rfl, rfl, rfl, rfl, fun o c hc => ?_⟩
  have hparse : PropertyPath.parse c.property = .ok (.plain ["Home", "City"]) := by
    rw [hc]
    rfl
  rw [Criterion.compile_of_plain hparse]
  rfl

end Sample

end Winnow
