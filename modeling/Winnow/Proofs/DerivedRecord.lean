/-
  Records of a derived model keep to its schema.

  The schema and the arms of a compiled model come from two lists that were written side by side, so
  their names agree (`names_of_compile?`). Reading goes by these names: it finds the arm of a member
  because no two members have one name, which holds since the constants that are formed from the
  names are all different (`nodup_names`). `Follows` joins a member to its field.

  `compiles_iff` says for which items the code compiles at all. `compiled_conforms` is the main
  statement for one model; `conforms_of_derivations` is the consequence for record types that refer
  to each other.
-/
import Winnow.Proofs.FieldReading

namespace Winnow

variable {ι ρ : Type}

/-! ## All members -/

section Lists

variable {α β γ : Type}

theorem mapM_eq_some_iff {g : α → Option β} {as : List α} {bs : List β} :
    as.mapM g = some bs ↔ List.Forall₂ (fun a b => g a = some b) as bs := by
  constructor
  · intro h
    induction as generalizing bs with
    | nil =>
      cases h
      exact .nil
    | cons a as ih =>
      rw [List.mapM_cons] at h
      obtain ⟨b, hb, h⟩ := Option.bind_eq_some_iff.mp h
      obtain ⟨bs, hbs, h⟩ := Option.bind_eq_some_iff.mp h
      cases h
      exact .cons hb (ih hbs)
  · intro h
    induction h with
    | nil => rfl
    | cons hb _ ih =>
      rw [List.mapM_cons, hb, ih]
      rfl

theorem exists_forall₂_iff {R : α → β → Prop} {as : List α} :
    (∃ bs, List.Forall₂ R as bs) ↔ ∀ a ∈ as, ∃ b, R a b := by
  induction as with
  | nil => exact ⟨fun _ _ h => absurd h List.not_mem_nil, fun _ => ⟨[], .nil⟩⟩
  | cons a as ih =>
    rw [List.forall_mem_cons, ← ih]
    constructor
    · rintro ⟨_, h⟩
      cases h with
      | cons hb hbs => exact ⟨⟨_, hb⟩, _, hbs⟩
    · rintro ⟨⟨b, hb⟩, bs, hbs⟩
      exact ⟨b :: bs, .cons hb hbs⟩

theorem map_eq_of_forall₂ {g : α → γ} {k : β → γ} {as : List α} {bs : List β}
    (h : List.Forall₂ (fun a b => g a = k b) as bs) : as.map g = bs.map k := by
  rw [← List.forall₂_eq_eq_eq, List.forall₂_map_left_iff, List.forall₂_map_right_iff]
  exact h

theorem exists_of_forall₂ {R : α → β → Prop} {as : List α} {bs : List β}
    (h : List.Forall₂ R as bs) {a : α} (ha : a ∈ as) : ∃ b ∈ bs, R a b := by
  induction h with
  | nil => exact absurd ha List.not_mem_nil
  | cons hab _ ih =>
    rcases List.mem_cons.mp ha with rfl | ha
    · exact ⟨_, List.mem_cons_self, hab⟩
    · obtain ⟨b, hb, hR⟩ := ih ha
      exact ⟨b, List.mem_cons_of_mem _ hb, hR⟩

/-- Two lists that go with one between them go with each other, item by item. -/
theorem forall₂_through {R : α → β → Prop} {S : β → γ → Prop} {as : List α} {bs : List β}
    {cs : List γ} (hR : List.Forall₂ R as bs) (hS : List.Forall₂ S bs cs) :
    List.Forall₂ (fun a c => a ∈ as ∧ ∃ b ∈ bs, R a b ∧ S b c) as cs := by
  induction hR generalizing cs with
  | nil =>
    cases hS
    exact .nil
  | cons hab _ ih =>
    cases hS with
    | cons hbc hS =>
      refine .cons ⟨List.mem_cons_self, _, List.mem_cons_self, hab, hbc⟩ ((ih hS).imp ?_)
      rintro a c ⟨ha, b, hb, h⟩
      exact ⟨List.mem_cons_of_mem _ ha, b, List.mem_cons_of_mem _ hb, h⟩

end Lists

theorem ModelCode.constants_extend (name : String) (ds : List DerivedMember) :
    (extend ⟨name, [], [], []⟩ ds).constants.map Prod.fst = ds.map DerivedMember.constant := by
  simp [extend, Function.comp_def]

/-- Code compiles if fields and constants have names of their own and each member and each arm can
be compiled. -/
theorem ModelCode.compile?_eq_some_iff {scope : Scope ι ρ} {fields : List ItemField}
    {name : String} {ds : List DerivedMember} {model : CompiledModel scope fields} :
    (extend ⟨name, [], [], []⟩ ds).compile? scope fields = some model ↔
      (fields.map ItemField.name).Nodup ∧ (ds.map DerivedMember.constant).Nodup ∧
        model.schema.name = name ∧
        List.Forall₂ (fun d m => d.decl.member? scope = some m) ds model.schema.members ∧
        List.Forall₂ (fun d arm => d.arm.compile? scope fields = some arm) ds model.arms := by
  unfold compile?
  rw [constants_extend]
  constructor
  · intro h
    split at h
    · next hnodup =>
      obtain ⟨members, hmembers, h⟩ := Option.bind_eq_some_iff.mp h
      obtain ⟨arms, harms, h⟩ := Option.bind_eq_some_iff.mp h
      cases h
      exact ⟨hnodup.1, hnodup.2, rfl,
        List.forall₂_map_left_iff.mp (mapM_eq_some_iff.mp hmembers),
        List.forall₂_map_left_iff.mp (mapM_eq_some_iff.mp harms)⟩
    · cases h
  · obtain ⟨⟨typeName, members⟩, arms⟩ := model
    rintro ⟨hfields, hds, rfl, hmembers, harms⟩
    rw [if_pos ⟨hfields, hds⟩]
    exact Option.bind_eq_some_iff.mpr ⟨members,
      mapM_eq_some_iff.mpr (List.forall₂_map_left_iff.mpr hmembers),
      Option.bind_eq_some_iff.mpr ⟨arms,
        mapM_eq_some_iff.mpr (List.forall₂_map_left_iff.mpr harms), rfl⟩⟩

/-- Constants that are all different are those of names that are all different. -/
theorem DerivedMember.nodup_names {rule : Option RenameRule} {fields : List ItemField}
    {ds : List DerivedMember} (hds : List.Forall₂ (ItemField.Derives rule) fields ds)
    (h : (ds.map DerivedMember.constant).Nodup) : (ds.map DerivedMember.name).Nodup := by
  have hconstants : ds.map DerivedMember.constant =
      (ds.map DerivedMember.name).map Naming.constantName := by
    rw [List.map_map]
    refine List.map_congr_left fun d hd => ?_
    obtain ⟨f, _, hf⟩ := exists_of_forall₂ hds.flip hd
    exact hf.constant
  rw [hconstants] at h
  exact List.Pairwise.of_map Naming.constantName (fun a b hne heq => hne (congrArg _ heq)) h

/-- The arm of a derived member reads the field that the member is derived from. -/
theorem ItemField.Derives.compile?_arm {scope : Scope ι ρ} {fields : List ItemField}
    {rule : Option RenameRule} {f : ItemField} {d : DerivedMember} (hd : f.Derives rule d)
    {value : scope.Instance fields → scope.Carrier f.type}
    (hvalue : scope.field? fields f.name = some ⟨f.type, value⟩)
    {arm : CompiledArm scope fields} :
    d.arm.compile? scope fields = some arm ↔
      ∃ read, scope.Reads f read ∧ arm = ⟨d.name, fun self => read (value self)⟩ := by
  unfold ReadArm.compile?
  rw [show d.arm.source = f.name from hd.source, hvalue, Option.bind_some,
    Option.map_eq_some_iff]
  constructor
  · rintro ⟨read, hread, rfl⟩
    exact ⟨read, hd.reader?_eq_some_iff.mp hread, rfl⟩
  · rintro ⟨read, hread, rfl⟩
    exact ⟨read, hd.reader?_eq_some_iff.mpr hread, rfl⟩

namespace CompiledModel

variable {scope : Scope ι ρ} {fields : List ItemField}

theorem isSome_field? (model : CompiledModel scope fields) (self : scope.Instance fields)
    (name : String) :
    (model.field? self name).isSome ↔ name ∈ model.arms.map CompiledArm.name := by
  simp [field?]

theorem field?_of_mem {model : CompiledModel scope fields}
    (hd : (model.arms.map CompiledArm.name).Nodup) {arm : CompiledArm scope fields}
    (h : arm ∈ model.arms) (self : scope.Instance fields) :
    model.field? self arm.name = some (arm.read self) := by
  rw [field?, find?_key hd h]
  rfl

/-- A record is an instance if it answers every name as an instance does. -/
def IsInstance [Record ρ] (model : CompiledModel scope fields) (row : ρ) : Prop :=
  ∃ self, ∀ name, Record.read? row name = model.field? self name

end CompiledModel

/-- The names of a compiled model are those of its derived members, in the schema and in the
arms. -/
theorem ModelCode.names_of_compile? {scope : Scope ι ρ} {fields kept : List ItemField}
    {rule : Option RenameRule} {name : String} {ds : List DerivedMember}
    {model : CompiledModel scope fields}
    (hds : List.Forall₂ (ItemField.Derives rule) kept ds)
    (h : (extend ⟨name, [], [], []⟩ ds).compile? scope fields = some model) :
    model.schema.members.map Member.name = ds.map DerivedMember.name ∧
      model.arms.map CompiledArm.name = ds.map DerivedMember.name ∧
      (model.arms.map CompiledArm.name).Nodup := by
  obtain ⟨-, hconstants, -, hmembers, harms⟩ := compile?_eq_some_iff.mp h
  have harmNames : model.arms.map CompiledArm.name = ds.map DerivedMember.name := by
    refine (map_eq_of_forall₂ (harms.imp fun d arm harm => ?_)).symm
    obtain ⟨p, _, hread⟩ := Option.bind_eq_some_iff.mp harm
    obtain ⟨read, _, rfl⟩ := Option.map_eq_some_iff.mp hread
    rfl
  refine ⟨(map_eq_of_forall₂ (hmembers.imp fun d m hm => ?_)).symm, harmNames,
    harmNames ▸ DerivedMember.nodup_names hds hconstants⟩
  obtain ⟨name, constant, source, shape⟩ := d
  cases shape <;> obtain ⟨_, _, rfl⟩ := Option.map_eq_some_iff.mp hm <;> rfl

/-- What a member of a compiled model has to do with the field that it is derived from: it is named
and declared after the field, and its name reads what an instance holds in the field. -/
structure CompiledModel.Follows {scope : Scope ι ρ} {fields : List ItemField}
    (model : CompiledModel scope fields) (rule : Option RenameRule) (f : ItemField)
    (m : Member ι) : Prop where
  name : m.name = Naming.memberName f.marks.rename rule f.name
  declares : scope.Declares f m.type m.nullable
  reads : ∃ value read, scope.field? fields f.name = some ⟨f.type, value⟩ ∧
    scope.Reads f read ∧ ∀ self, model.field? self m.name = some (read (value self))

/-- The members of a compiled model follow the fields that are not skipped, one each, in order. -/
theorem ModelCode.forall₂_follows {scope : Scope ι ρ} {fields kept : List ItemField}
    (hkept : ∀ f ∈ kept, f ∈ fields) {rule : Option RenameRule} {name : String}
    {ds : List DerivedMember} {model : CompiledModel scope fields}
    (hds : List.Forall₂ (ItemField.Derives rule) kept ds)
    (h : (extend ⟨name, [], [], []⟩ ds).compile? scope fields = some model) :
    List.Forall₂ (model.Follows rule) kept model.schema.members := by
  obtain ⟨hfields, -, -, hmembers, harms⟩ := compile?_eq_some_iff.mp h
  have hnames := (names_of_compile? hds h).2.2
  refine (forall₂_through hds hmembers).imp ?_
  rintro f m ⟨hf, d, hd, hfrom, hm⟩
  obtain ⟨arm, harm, hcompiled⟩ := exists_of_forall₂ harms hd
  obtain ⟨value, hvalue⟩ := scope.field?_name hfields (hkept f hf)
  obtain ⟨read, hread, rfl⟩ := (hfrom.compile?_arm hvalue).mp hcompiled
  obtain ⟨hname, hdeclares⟩ := hfrom.member?_eq_some_iff.mp hm
  refine ⟨hname.trans hfrom.name, hdeclares, value, read, hvalue, hread, fun self => ?_⟩
  rw [hname]
  exact CompiledModel.field?_of_mem hnames harm self

/-- The code that is generated for an item compiles to a model in which the schema and the arms have
the same names, all different, and the members follow the fields. -/
theorem ModelCode.exists_follows {scope : Scope ι ρ} {item : Item} {fields : List ItemField}
    {code : ModelCode} {model : CompiledModel scope fields} (hbody : item.body = .record fields)
    (hcode : generate item = .ok code) (hmodel : code.compile? scope fields = some model) :
    model.schema.members.map Member.name = model.arms.map CompiledArm.name ∧
      (model.arms.map CompiledArm.name).Nodup ∧
      ∃ rule, RenameRule.ofAttributes item.attributes = .ok rule ∧
        List.Forall₂ (model.Follows rule) (fields.filter (!·.marks.skip))
          model.schema.members := by
  obtain ⟨rule, ds, hrule, hds, rfl⟩ := exists_derived hbody hcode
  obtain ⟨hmembers, harms, hnodup⟩ := names_of_compile? hds hmodel
  exact ⟨hmembers.trans harms.symm, hnodup, rule, hrule,
    forall₂_follows (fun f hf => List.mem_of_mem_filter hf) hds hmodel⟩

/-- Code compiles into some model if its declarations and its arms all have something to compile
to. -/
theorem ModelCode.exists_compile?_iff {scope : Scope ι ρ} {fields : List ItemField} {name : String}
    {ds : List DerivedMember} :
    (∃ model, (extend ⟨name, [], [], []⟩ ds).compile? scope fields = some model) ↔
      (fields.map ItemField.name).Nodup ∧ (ds.map DerivedMember.constant).Nodup ∧
        ∀ d ∈ ds, (∃ m, d.decl.member? scope = some m) ∧
          ∃ arm, d.arm.compile? scope fields = some arm := by
  constructor
  · rintro ⟨model, h⟩
    obtain ⟨hfields, hconstants, -, hmembers, harms⟩ := compile?_eq_some_iff.mp h
    exact ⟨hfields, hconstants, fun d hd =>
      ⟨exists_forall₂_iff.mp ⟨_, hmembers⟩ d hd, exists_forall₂_iff.mp ⟨_, harms⟩ d hd⟩⟩
  · rintro ⟨hfields, hconstants, h⟩
    obtain ⟨members, hmembers⟩ := exists_forall₂_iff.mpr fun d hd => (h d hd).1
    obtain ⟨arms, harms⟩ := exists_forall₂_iff.mpr fun d hd => (h d hd).2
    exact ⟨⟨⟨name, members⟩, arms⟩,
      compile?_eq_some_iff.mpr ⟨hfields, hconstants, rfl, hmembers, harms⟩⟩

/-- The declaration of a derived member compiles exactly if the field can be declared, and its arm
if the field can be read. -/
theorem ItemField.Derives.compiles_iff {scope : Scope ι ρ} {fields : List ItemField}
    (hfields : (fields.map ItemField.name).Nodup) {rule : Option RenameRule} {f : ItemField}
    (hf : f ∈ fields) {d : DerivedMember} (hd : f.Derives rule d) :
    ((∃ m, d.decl.member? scope = some m) ∧ ∃ arm, d.arm.compile? scope fields = some arm) ↔
      (∃ type nullable, scope.Declares f type nullable) ∧ ∃ read, scope.Reads f read := by
  obtain ⟨value, hvalue⟩ := scope.field?_name hfields hf
  refine and_congr ⟨?_, ?_⟩ ⟨?_, ?_⟩
  · rintro ⟨m, hm⟩
    exact ⟨_, _, (hd.member?_eq_some_iff.mp hm).2⟩
  · rintro ⟨type, nullable, h⟩
    exact ⟨⟨d.name, type, nullable⟩, hd.member?_eq_some_iff.mpr ⟨rfl, h⟩⟩
  · rintro ⟨arm, harm⟩
    obtain ⟨read, hread, -⟩ := (hd.compile?_arm hvalue).mp harm
    exact ⟨read, hread⟩
  · rintro ⟨read, hread⟩
    exact ⟨_, (hd.compile?_arm hvalue).mpr ⟨read, hread, rfl⟩⟩

/-- The code that is generated for an item compiles exactly if no two fields and no two constants
have one name and the type of each field that is not skipped suits its marks. -/
theorem ModelCode.compiles_iff {scope : Scope ι ρ} {item : Item} {fields : List ItemField}
    {code : ModelCode} (hbody : item.body = .record fields) (hcode : generate item = .ok code) :
    (∃ model, code.compile? scope fields = some model) ↔
      (fields.map ItemField.name).Nodup ∧ (code.constants.map Prod.fst).Nodup ∧
        ∀ f ∈ fields, f.marks.skip = false →
          (∃ type nullable, scope.Declares f type nullable) ∧ ∃ read, scope.Reads f read := by
  obtain ⟨rule, ds, -, hds, rfl⟩ := exists_derived hbody hcode
  rw [exists_compile?_iff, constants_extend]
  refine and_congr_right fun hfields => and_congr_right fun _ => ⟨fun h f hf hskip => ?_,
    fun h d hd => ?_⟩
  · obtain ⟨d, hd, hfrom⟩ := exists_of_forall₂ hds (List.mem_filter.mpr ⟨hf, by simp [hskip]⟩)
    exact (hfrom.compiles_iff hfields hf).mp (h d hd)
  · obtain ⟨f, hkept, hfrom⟩ := exists_of_forall₂ hds.flip hd
    obtain ⟨hf, hskip⟩ := List.mem_filter.mp hkept
    exact (ItemField.Derives.compiles_iff hfields hf hfrom).mpr (h f hf (by simpa using hskip))

/-- An instance holds, under each member's name, what the member admits; in a lawful scope the
records there are records of the declared types. -/
theorem CompiledModel.admits_field? {scope : Scope ι ρ} {fields kept : List ItemField}
    {model : CompiledModel scope fields} {rule : Option RenameRule}
    (h : List.Forall₂ (model.Follows rule) kept model.schema.members) {m : Member ι}
    (hm : m ∈ model.schema.members) (self : scope.Instance fields) :
    ∃ r, model.field? self m.name = some r ∧ m.Admits (fun _ _ => True) r ∧
      (scope.Lawful → m.Admits scope.Owns r) := by
  obtain ⟨f, _, hf⟩ := exists_of_forall₂ h.flip hm
  obtain ⟨value, read, _, hread, hfield⟩ := hf.reads
  exact ⟨_, hfield self, hf.declares.admits hread _ fun _ _ _ _ => trivial, fun hscope =>
    hf.declares.admits hread _ fun i row hi hrow => hf.declares.owns hscope hread hi hrow⟩

/-! ## Conformance -/

section Conformance

variable [Record ρ] {scope : Scope ι ρ}

theorem CompiledModel.IsInstance.admits_valueIn {fields kept : List ItemField}
    {model : CompiledModel scope fields} {row : ρ} (hrow : model.IsInstance row)
    {rule : Option RenameRule} (h : List.Forall₂ (model.Follows rule) kept model.schema.members)
    (hscope : scope.Lawful) {m : Member ι} (hm : m ∈ model.schema.members) :
    m.Admits scope.Owns (m.valueIn row) := by
  obtain ⟨self, hself⟩ := hrow
  obtain ⟨r, hr, -, howns⟩ := CompiledModel.admits_field? h hm self
  rw [Member.valueIn, hself, hr]
  exact howns hscope

/-- The row of what the arms read from an instance is an instance. -/
theorem CompiledModel.isInstance_row {scope : Scope ι Row} {fields : List ItemField}
    (model : CompiledModel scope fields) (self : scope.Instance fields) :
    model.IsInstance (Row.mk (model.arms.map fun arm => (arm.name, arm.read self))) := by
  refine ⟨self, fun name => ?_⟩
  show ((model.arms.map _).find? (·.1 == name)).map Prod.snd = _
  rw [List.find?_map, Option.map_map]
  rfl

/-- A record type of a family whose schema is derived in a scope, and whose records there are
instances of the derived model. -/
structure Scope.Derivation (scope : Scope ι ρ) (family : Family ι) (i : ι) where
  item : Item
  fields : List ItemField
  code : ModelCode
  model : CompiledModel scope fields
  body : item.body = .record fields
  generated : ModelCode.generate item = .ok code
  compiled : code.compile? scope fields = some model
  schema : family i = model.schema
  instances : ∀ row, scope.Owns i row → model.IsInstance row

/-- If each record type in a lawful scope is derived, or has conforming records, then all records
conform, also where the types refer to each other. -/
theorem Scope.conforms_of_derivations (hscope : scope.Lawful) {family : Family ι}
    (h : ∀ i, Nonempty (scope.Derivation family i) ∨
      ∀ row, scope.Owns i row → family.Conforms i row)
    (i : ι) (row : ρ) (hrow : scope.Owns i row) : family.Conforms i row := by
  -- One level down an instance of a derived model holds owned records, which are instances again.
  have hstep : ∀ {i row}, (∃ d : scope.Derivation family i, d.model.IsInstance row) →
      family.Conforms i row := by
    intro i row hd
    refine Family.conforms_of_step
      (S := fun j nested => ∃ d : scope.Derivation family j, d.model.IsInstance nested) ?_ hd
    rintro i row ⟨d, hinstance⟩ m hm
    obtain ⟨-, -, rule, -, hfollows⟩ := ModelCode.exists_follows d.body d.generated d.compiled
    rw [d.schema] at hm
    refine (hinstance.admits_valueIn hfollows hscope hm).mono fun j nested howns => ?_
    rcases h j with ⟨⟨d'⟩⟩ | hconforms
    · exact Or.inl ⟨d', d'.instances nested howns⟩
    · exact Or.inr (hconforms nested howns)
  rcases h i with ⟨⟨d⟩⟩ | hconforms
  · exact hstep ⟨d, d.instances row hrow⟩
  · exact hconforms row hrow

/-- Records of a derived model keep to its schema. The schema and the arms have the same names in
the same order, all different, and an instance answers exactly these. There is a member for each
field that is not skipped, in the order of the fields, which is named and declared after the field
and reads it. What is read has the declared form, and is a null only if the member may be one. In a
lawful scope the records that are read are those of the declared types, so an instance conforms to
the schema if the records in it are instances as well or conform to theirs. -/
theorem ModelCode.compiled_conforms {item : Item} {fields : List ItemField} {code : ModelCode}
    {model : CompiledModel scope fields} (hbody : item.body = .record fields)
    (hcode : generate item = .ok code) (hmodel : code.compile? scope fields = some model) :
    model.schema.members.map Member.name = model.arms.map CompiledArm.name ∧
    (model.schema.members.map Member.name).Nodup ∧
    (∀ self name, (model.field? self name).isSome ↔
      name ∈ model.schema.members.map Member.name) ∧
    (∃ rule, RenameRule.ofAttributes item.attributes = .ok rule ∧
      List.Forall₂ (model.Follows rule) (fields.filter (!·.marks.skip)) model.schema.members) ∧
    (∀ m ∈ model.schema.members, ∀ self, ∃ r, model.field? self m.name = some r ∧
      m.Admits (fun _ _ => True) r ∧ (scope.Lawful → m.Admits scope.Owns r)) ∧
    (scope.Lawful → ∀ (family : Family ι) (i : ι), family i = model.schema →
      (∀ j row, scope.Owns j row → (j = i ∧ model.IsInstance row) ∨ family.Conforms j row) →
      ∀ row, model.IsInstance row → family.Conforms i row) := by
  obtain ⟨hnames, hnodup, rule, hrule, hfollows⟩ := exists_follows hbody hcode hmodel
  refine ⟨hnames, hnames ▸ hnodup, fun self name => ?_, ⟨rule, hrule, hfollows⟩,
    fun m hm self => CompiledModel.admits_field? hfollows hm self, ?_⟩
  · rw [hnames]
    exact model.isSome_field? self name
  · intro hscope family i hschema hnested row hrow
    refine Family.conforms_of_step (S := fun j row => j = i ∧ model.IsInstance row) ?_
      ⟨rfl, hrow⟩
    rintro j row ⟨rfl, hrow⟩ m hm
    rw [hschema] at hm
    exact (hrow.admits_valueIn hfollows hscope hm).mono hnested

end Conformance

/-! ## People of a shop -/

namespace Sample

/-- The values of the types that people are described with: an address is its city, and an order
is its number and its note. -/
def Values : TypeExpr → Type
  | .path ["String"] [] => String
  | .path ["Address"] [] => String
  | .path ["Order"] [] => Number × Option String
  | .path ["Option"] [.type t] => Option (Values t)
  | .path ["Vec"] [.type t] => List (Values t)
  | _ => Empty

/-- Addresses and orders are record types of the shop. -/
def recordType? : TypeExpr → Option TypeName
  | .path ["Address"] [] => some .address
  | .path ["Order"] [] => some .order
  | _ => none

/-- The row of an address. -/
def address (city : String) : Row := .mk [("City", .scalar (.text city))]

/-- The rows of addresses and orders. -/
def toRow? : (t : TypeExpr) → Option (Values t → Row)
  | .path ["Address"] [] => some address
  | .path ["Order"] [] => some fun v => order v.1 (v.2.elim .null fun note => .scalar (.text note))
  | _ => none

def textType? : (t : TypeExpr) → Option (SingleType (Values t))
  | .path ["String"] [] => some ⟨.scalar (.text .owned), rfl, id⟩
  | _ => none

def optionType? : (t : TypeExpr) → Option ((inner : TypeExpr) × (Values t → Option (Values inner)))
  | .path ["Option"] [.type t] => some ⟨t, id⟩
  | _ => none

def vectorType? : (t : TypeExpr) → Option ((item : TypeExpr) × (Values t → List (Values item)))
  | .path ["Vec"] [.type (.path names arguments)] => some ⟨.path names arguments, id⟩
  | _ => none

/-- The types that people are described with. -/
def shopTypes : Scope TypeName Row :=
  ⟨Values, textType?, recordType?, toRow?, optionType?, vectorType?⟩

theorem lawful_shopTypes : shopTypes.Lawful where
  option := by
    rintro t inner ⟨names, arguments, ht, -, harguments⟩ option ho
    simp only [shopTypes] at ho
    unfold optionType? at ho
    split at ho
    · cases ht
      cases harguments
      cases ho
      rfl
    · cases ho
  items := by
    intro t item h _ sequence hs
    simp only [shopTypes] at hs
    unfold vectorType? at hs
    split at hs
    · cases hs
      cases h with
      | container h _ => cases h; rfl
      | sliced h => cases h
    · cases hs

theorem conforms_address (city : String) : shop.Conforms .address (address city) := by
  rw [Family.conforms_iff]
  intro m hm
  rw [List.mem_singleton.mp hm]
  exact Or.inr rfl

theorem conforms_of_owns {i : TypeName} {row : Row} (h : shopTypes.Owns i row) :
    shop.Conforms i row := by
  obtain ⟨t, toRecord, v, hi, hrecord, rfl⟩ := h
  simp only [shopTypes] at hi hrecord
  unfold recordType? at hi
  split at hi
  · cases hi
    cases hrecord
    exact conforms_address _
  · cases hi
    cases hrecord
    refine conforms_order _ ?_
    cases v.2 <;> simp [Option.elim, Reading.kind?, Scalar.kind]
  · cases hi

/-- A person has a name, a secret that is left out, and a home and orders that may be missing. -/
def personFields : List ItemField :=
  [⟨"name", .path ["String"] [], []⟩,
    ⟨"secret", .path ["String"] [], [⟨"criteria", some [.word "skip"]⟩]⟩,
    ⟨"home", .path ["Option"] [.type (.path ["Address"] [])],
      [⟨"criteria", some [.word "nested", .assign "rename" (some "Address")]⟩]⟩,
    ⟨"orders", .path ["Option"] [.type (.path ["Vec"] [.type (.path ["Order"] [])])],
      [⟨"criteria", some [.word "collection"]⟩]⟩]

def personItem : Item :=
  ⟨"Person", [], [⟨"criteria", some [.assign "rename_all" (some "PascalCase")]⟩],
    .record personFields⟩

/-- A person with a home and an order. -/
def residentFields : shopTypes.Instance personFields :=
  ("Ada", "secret", some "Paris", some [(Number.signed 1, none)], ())

/-- The row of that person, in which the secret is left out. -/
def resident : Row :=
  .mk [("Name", .scalar (.text "Ada")), ("Address", .record (address "Paris")),
    ("Orders", .records [order (.signed 1) .null])]

theorem compiled_conforms_person :
    ∃ code model, ModelCode.generate personItem = .ok code ∧
      code.compile? shopTypes personFields = some model ∧
      model.arms.map CompiledArm.name = ["Name", "Address", "Orders"] ∧
      model.schema.members.map Member.name = model.arms.map CompiledArm.name ∧
      shop.Conforms .person resident := by
  refine ⟨_, _, rfl, rfl, rfl, ?_⟩
  have h := @ModelCode.compiled_conforms TypeName Row _ shopTypes personItem personFields _ _
    rfl rfl rfl
  exact ⟨h.1, h.2.2.2.2.2 lawful_shopTypes shop .person rfl
    (fun j row hrow => Or.inr (conforms_of_owns hrow)) resident
    (CompiledModel.isInstance_row _ residentFields)⟩

end Sample

end Winnow
