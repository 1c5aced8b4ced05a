/-
  The code that is generated for an item.

  Generating goes through the fields once and writes to three lists as it goes. `addField_eq` says
  what one field adds: the member that is derived from it to each of the lists, and nothing if it is
  skipped. So a whole run writes the derived members side by side (`generate_eq`), and the members
  are those of the fields that are not marked to be skipped, in their order
  (`forall₂_derived_of_generate`).

  Attributes are read part by part as well; `foldlM_read_eq_ok_iff` says which parts can be read, and
  what they add up to.
-/
import Mathlib.Data.List.Forall2
import Winnow.Derive.Code

namespace Winnow

/-! ## Steps that may fail -/

section Steps

variable {ε α β : Type}

theorem bind_eq_ok_iff {x : Except ε α} {f : α → Except ε β} {b : β} :
    x >>= f = .ok b ↔ ∃ a, x = .ok a ∧ f a = .ok b := by
  cases x <;> simp [bind, Except.bind]

/-- What fails is the first step, or the second on what the first gives. -/
theorem bind_eq_error_iff {x : Except ε α} {f : α → Except ε β} {e : ε} :
    x >>= f = .error e ↔ x = .error e ∨ ∃ a, x = .ok a ∧ f a = .error e := by
  cases x <;> simp [bind, Except.bind]

/-- A loop that fails does so at one of the elements that it goes through. -/
theorem exists_of_foldlM_eq_error {f : β → α → Except ε β} {as : List α} {b : β} {e : ε}
    (h : as.foldlM f b = .error e) : ∃ a ∈ as, ∃ b', f b' a = .error e := by
  induction as generalizing b with
  | nil => cases h
  | cons a as ih =>
    rw [List.foldlM_cons, bind_eq_error_iff] at h
    rcases h with h | ⟨b', -, h⟩
    · exact ⟨a, List.mem_cons_self, b, h⟩
    · obtain ⟨a', hmem, hfault⟩ := ih h
      exact ⟨a', List.mem_cons_of_mem a hmem, hfault⟩

end Steps

/-! ## Marks of a field -/

/-- The name that a part of an attribute gives to a member. -/
def Meta.rename? : Meta → Option String
  | .assign "rename" name => name
  | _ => none

/-- The part may stand in the attribute of a field. -/
def Meta.isFieldPart : Meta → Bool
  | .word "skip" | .word "nested" | .word "collection" => true
  | .assign "rename" (some _) => true
  | _ => false

namespace FieldOptions

/-- Options after parts of an attribute: a word is there if it was or is among the parts, and the
last name counts. -/
def after (o : FieldOptions) (metas : List Meta) : FieldOptions :=
  ⟨o.skip || metas.contains (.word "skip"), (metas.filterMap Meta.rename?).getLast?.or o.rename,
    o.nested || metas.contains (.word "nested"),
    o.collection || metas.contains (.word "collection")⟩

/-- A part that may stand in the attribute of a field is read, and adds what it says. -/
theorem read_eq_ok_iff {o next : FieldOptions} {part : Meta} :
    o.read part = .ok next ↔ part.isFieldPart = true ∧ next = o.after [part] := by
  unfold read Meta.isFieldPart
  split <;> simp_all [after, Meta.rename?, eq_comm (a := next)]

theorem after_cons (o : FieldOptions) (part : Meta) (metas : List Meta) :
    (o.after [part]).after metas = o.after (part :: metas) := by
  cases h : Meta.rename? part <;> cases hs : metas.filterMap Meta.rename? <;>
    simp [after, h, hs, Bool.or_assoc, List.getLast?_cons]

/-- Parts can be read if each may stand there, and add up to what they say. -/
theorem foldlM_read_eq_ok_iff {metas : List Meta} {o next : FieldOptions} :
    metas.foldlM read o = .ok next ↔
      (∀ part ∈ metas, part.isFieldPart = true) ∧ next = o.after metas := by
  induction metas generalizing o with
  | nil =>
    have hnil : o.after [] = o := by simp [after]
    rw [hnil]
    exact ⟨fun h => ⟨List.forall_mem_nil _, (Except.ok.inj h).symm⟩, fun h => congrArg _ h.2.symm⟩
  | cons part metas ih =>
    simp only [List.foldlM_cons, bind_eq_ok_iff, read_eq_ok_iff, ih, List.forall_mem_cons]
    constructor
    · rintro ⟨_, ⟨hpart, rfl⟩, hmetas, rfl⟩
      exact ⟨⟨hpart, hmetas⟩, after_cons o part metas⟩
    · rintro ⟨⟨hpart, hmetas⟩, rfl⟩
      exact ⟨_, ⟨hpart, rfl⟩, hmetas, (after_cons o part metas).symm⟩

end FieldOptions

/-- What the parts of the attribute of a field add up to, which is the first of that name; one that
cannot be read has no parts. -/
def ItemField.marks (f : ItemField) : FieldOptions :=
  FieldOptions.plain.after ((criteriaParts f.attributes).toOption.getD [])

/-- The options that are read from the attributes of a field are its marks. -/
theorem FieldOptions.ofAttributes_eq_ok {f : ItemField} {o : FieldOptions}
    (h : ofAttributes f.attributes = .ok o) : o = f.marks := by
  obtain ⟨metas, hparts, h⟩ := bind_eq_ok_iff.mp h
  obtain ⟨o', hread, h⟩ := bind_eq_ok_iff.mp h
  split at h
  · cases h
  · cases h
    rw [ItemField.marks, hparts]
    exact (foldlM_read_eq_ok_iff.mp hread).2

/-! ## One field -/

/-- The declaration of a derived member. -/
def DerivedMember.decl (d : DerivedMember) : MemberDecl := ⟨d.name, d.shape⟩

/-- The arm that reads a derived member. -/
def DerivedMember.arm (d : DerivedMember) : ReadArm :=
  ⟨d.name, d.source, d.shape.form, d.shape.nullable?.getD false⟩

namespace ModelCode

/-- Code with what is generated for members after it. -/
def extend (code : ModelCode) (ds : List DerivedMember) : ModelCode :=
  { code with
    constants := code.constants ++ ds.map fun d => (d.constant, d.name)
    members := code.members ++ ds.map DerivedMember.decl
    arms := code.arms ++ ds.map DerivedMember.arm }

theorem extend_nil (code : ModelCode) : code.extend [] = code := by
  simp [extend]

theorem extend_extend (code : ModelCode) (ds ds' : List DerivedMember) :
    (code.extend ds).extend ds' = code.extend (ds ++ ds') := by
  simp [extend]

/-- What a field is declared as settles how it is read. -/
theorem declare_eq (o : FieldOptions) (t : TypeExpr) :
    declare o t =
      (MemberShape.ofField o t).map fun s => (s, s.form, s.nullable?.getD false) := by
  unfold declare MemberShape.ofField
  cases o.nested with
  | true => rfl
  | false =>
    cases o.collection with
    | false => rfl
    | true => cases h : TypeExpr.element? (t.optionInner?.getD t) <;> simp [h] <;> rfl

/-- A field adds the member that is derived from it, if there is one, to every list. -/
theorem addField_eq (rule : Option RenameRule) (code : ModelCode) (f : ItemField) :
    addField rule code f =
      (DerivedModel.member? rule f).map fun d => code.extend d.toList := by
  unfold addField DerivedModel.member?
  cases FieldOptions.ofAttributes f.attributes with
  | error e => rfl
  | ok o =>
    simp only [bind, Except.bind, declare_eq]
    cases o.skip with
    | true => exact congrArg Except.ok code.extend_nil.symm
    | false =>
      cases isIdentifier
          (Naming.constantName (Naming.memberName o.rename rule f.name)).toList with
      | false => rfl
      | true => cases MemberShape.ofField o f.type <;> rfl

/-! ## All fields -/

/-- The members of all fields are written side by side, after what is there. -/
theorem foldlM_addField (rule : Option RenameRule) (fields : List ItemField) (code : ModelCode) :
    fields.foldlM (addField rule) code =
      (fields.mapM (DerivedModel.member? rule)).map fun ds => code.extend (ds.filterMap id) := by
  induction fields generalizing code with
  | nil => exact congrArg Except.ok code.extend_nil.symm
  | cons f fields ih =>
    rw [List.foldlM_cons, List.mapM_cons, addField_eq]
    cases DerivedModel.member? rule f with
    | error e => rfl
    | ok d =>
      show fields.foldlM (addField rule) (code.extend d.toList) = _
      rw [ih]
      cases fields.mapM (DerivedModel.member? rule) with
      | error e => rfl
      | ok ds =>
        show Except.ok ((code.extend d.toList).extend (ds.filterMap id)) = _
        rw [extend_extend]
        cases d <;> rfl

end ModelCode

/-- The code of a derived model. -/
def DerivedModel.code (model : DerivedModel) : ModelCode :=
  ModelCode.extend ⟨model.name, [], [], []⟩ model.members

/-- Generating code for an item fails as deriving its model does, and otherwise gives the code of
the model. -/
theorem ModelCode.generate_eq (item : Item) :
    generate item = (DerivedModel.derive item).map DerivedModel.code := by
  unfold generate DerivedModel.derive
  cases item.generics.isEmpty with
  | false => rfl
  | true =>
    cases DerivedModel.fieldsOf item.body with
    | error e => rfl
    | ok fields =>
      cases RenameRule.ofAttributes item.attributes with
      | error e => rfl
      | ok rule =>
        show fields.foldlM (addField rule) _ = ((fields.mapM (DerivedModel.member? rule)).bind
          fun ds => .ok ⟨item.name, ds.filterMap id⟩).map DerivedModel.code
        rw [foldlM_addField]
        cases fields.mapM (DerivedModel.member? rule) <;> rfl

/-! ## Members and fields -/

/-- A member is derived from a field by a rule. -/
structure ItemField.Derives (rule : Option RenameRule) (f : ItemField) (d : DerivedMember) :
    Prop where
  name : d.name = Naming.memberName f.marks.rename rule f.name
  constant : d.constant = Naming.constantName d.name
  identifier : isIdentifier d.constant.toList = true
  source : d.source = f.name
  shape : MemberShape.ofField f.marks f.type = .ok d.shape

/-- A field that has a member derived is not skipped, and one that has none is. -/
theorem DerivedModel.member?_eq_ok {rule : Option RenameRule} {f : ItemField}
    {d? : Option DerivedMember} (h : member? rule f = .ok d?) :
    (f.marks.skip = true ∧ d? = none) ∨
      (f.marks.skip = false ∧ ∃ d, d? = some d ∧ f.Derives rule d) := by
  obtain ⟨o, ho, h⟩ := bind_eq_ok_iff.mp h
  obtain rfl := FieldOptions.ofAttributes_eq_ok ho
  split at h
  · next hskip =>
    cases h
    exact Or.inl ⟨hskip, rfl⟩
  · next hskip =>
    dsimp only at h
    split at h
    · cases h
    · next hidentifier =>
      obtain ⟨shape, hshape, h⟩ := bind_eq_ok_iff.mp h
      cases h
      exact Or.inr ⟨by simpa using hskip, _, rfl,
        ⟨rfl, rfl, by simpa using hidentifier, rfl, hshape⟩⟩

/-- The members are derived from the fields that are not skipped, one from each, in order. -/
theorem DerivedModel.forall₂_of_mapM {rule : Option RenameRule} {fields : List ItemField}
    {ds : List (Option DerivedMember)} (h : fields.mapM (member? rule) = .ok ds) :
    List.Forall₂ (ItemField.Derives rule) (fields.filter (!·.marks.skip)) (ds.filterMap id) := by
  induction fields generalizing ds with
  | nil =>
    cases h
    exact .nil
  | cons f fields ih =>
    rw [List.mapM_cons, bind_eq_ok_iff] at h
    obtain ⟨d?, hd, h⟩ := h
    obtain ⟨ds', hds, h⟩ := bind_eq_ok_iff.mp h
    cases h
    rcases member?_eq_ok hd with ⟨hskip, rfl⟩ | ⟨hskip, d, rfl, hfrom⟩
    · simpa [hskip] using ih hds
    · simpa [hskip] using List.Forall₂.cons hfrom (ih hds)

/-- Generated code is that of members which are derived from the fields that are not skipped. -/
theorem ModelCode.exists_derived {item : Item} {fields : List ItemField} {code : ModelCode}
    (hbody : item.body = .record fields) (h : generate item = .ok code) :
    ∃ rule ds, RenameRule.ofAttributes item.attributes = .ok rule ∧
      List.Forall₂ (ItemField.Derives rule) (fields.filter (!·.marks.skip)) ds ∧
      code = extend ⟨item.name, [], [], []⟩ ds := by
  rw [generate_eq, DerivedModel.derive, hbody] at h
  simp only [DerivedModel.fieldsOf, bind, Except.bind, pure, Except.pure] at h
  split at h
  · cases h
  · cases hr : RenameRule.ofAttributes item.attributes with
    | error e => rw [hr] at h; cases h
    | ok rule =>
      cases hds : fields.mapM (DerivedModel.member? rule) with
      | error e => simp [hr, hds, Except.map] at h
      | ok ds =>
        simp only [hr, hds, Except.map] at h
        cases h
        exact ⟨rule, _, rfl, DerivedModel.forall₂_of_mapM hds, rfl⟩

end Winnow
