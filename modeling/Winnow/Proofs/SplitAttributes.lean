/-
  Attributes that are split in several.

  What is said of a field or of a record may be written in one attribute or in several. Only the
  first of them is read (`criteriaParts_eq`), so its parts count and the others do not. A split
  therefore says the same as one attribute in two cases: the first one is at fault, or the parts
  that come later are such as may stand there and add nothing to it. For a record that is all
  (`RenameRule.ofAttributes_joined_iff`). For a field there is one more, since it is found out last
  that a field is nested and a collection, and stays so whatever follows
  (`FieldOptions.ofAttributes_joined_iff`).

  `first_attribute_counts`, the main statement, says this of the code that is generated for an item:
  it is the code for the item with the first attributes only, and it is the code for the item with
  its attributes joined if nothing is added.
-/
import Winnow.Proofs.GeneratedCode

namespace Winnow

/-! ## First and later parts -/

namespace Attribute

/-- What stands in the attributes that are meant to be read, one list of parts for each. -/
def pieces (attributes : List Attribute) : List (List Meta) :=
  (attributes.filter (·.name == "criteria")).map fun a => a.metas.getD []

/-- The parts of the first of them. -/
def firstParts (attributes : List Attribute) : List Meta := (pieces attributes).headD []

/-- The parts of all others. -/
def laterParts (attributes : List Attribute) : List Meta := (pieces attributes).tail.flatten

/-- The attributes that are meant to be read have their parts in brackets. -/
def Bracketed (attributes : List Attribute) : Prop :=
  ∀ a ∈ attributes, a.name = "criteria" → a.metas.isSome = true

instance (attributes : List Attribute) : Decidable (Bracketed attributes) :=
  inferInstanceAs
    (Decidable (∀ a ∈ attributes, a.name = "criteria" → a.metas.isSome = true))

/-- One attribute with the parts. -/
def ofParts (parts : List Meta) : List Attribute := [⟨"criteria", some parts⟩]

/-- The first attribute alone. -/
def firstOnly (attributes : List Attribute) : List Attribute := ofParts (firstParts attributes)

/-- All parts in one attribute, in their order. -/
def joined (attributes : List Attribute) : List Attribute := ofParts (pieces attributes).flatten

theorem flatten_pieces (attributes : List Attribute) :
    (pieces attributes).flatten = firstParts attributes ++ laterParts attributes := by
  unfold firstParts laterParts
  cases pieces attributes <;> rfl

end Attribute

open Attribute

theorem criteriaParts_ofParts (parts : List Meta) : criteriaParts (ofParts parts) = .ok parts := by
  simp [criteriaParts, criteria?, ofParts]

/-- The parts that are read are those of the first attribute. -/
theorem criteriaParts_eq {attributes : List Attribute} (h : Bracketed attributes) :
    criteriaParts attributes = .ok (firstParts attributes) := by
  unfold criteriaParts firstParts pieces criteria?
  rw [List.headD_eq_head?_getD, List.head?_map, List.head?_filter]
  cases hfind : attributes.find? (·.name == "criteria") with
  | none => rfl
  | some a =>
    have hname : a.name = "criteria" := by simpa using List.find?_some hfind
    obtain ⟨metas, hmetas⟩ :=
      Option.isSome_iff_exists.mp (h a (List.mem_of_find?_eq_some hfind) hname)
    obtain ⟨name, metas'⟩ := a
    obtain rfl : metas' = some metas := hmetas
    rfl

/-- What goes on from a result leaves it as it is, if it does so with each value that it may be. -/
theorem bind_eq_self_iff {ε α : Type} {x : Except ε α} {f : α → Except ε α} :
    x.bind f = x ↔ ∀ a, x = .ok a → f a = .ok a := by
  cases x <;> simp [Except.bind]

/-! ## Records -/

/-- The rule that a part of the attribute of a record names. -/
def Meta.rule? : Meta → Option RenameRule
  | .assign "rename_all" (some name) => RenameRule.ofName? name
  | _ => none

namespace RenameRule

/-- The rule after parts of an attribute: the last one counts. -/
def after (rule : Option RenameRule) (metas : List Meta) : Option RenameRule :=
  (metas.filterMap Meta.rule?).getLast?.or rule

theorem read_eq_ok_iff {rule next : Option RenameRule} {part : Meta} :
    read rule part = .ok next ↔ part.rule?.isSome = true ∧ next = part.rule? := by
  unfold read
  split
  · next name =>
    cases hrule : ofName? name <;> simp [Meta.rule?, hrule, eq_comm]
  · simp [Meta.rule?]
  · next hsome _ =>
    cases hrule : part.rule? with
    | none => simp
    | some rule =>
      unfold Meta.rule? at hrule
      split at hrule
      · exact absurd rfl (hsome _)
      · cases hrule

theorem after_cons {part : Meta} (h : part.rule?.isSome = true) (rule : Option RenameRule)
    (metas : List Meta) : after part.rule? metas = after rule (part :: metas) := by
  obtain ⟨r, hr⟩ := Option.isSome_iff_exists.mp h
  rw [after, after, List.filterMap_cons_some hr, List.getLast?_cons, hr]
  cases (metas.filterMap Meta.rule?).getLast? <;> rfl

/-- Parts can be read if each names a rule. -/
theorem foldlM_read_eq_ok_iff {metas : List Meta} {rule next : Option RenameRule} :
    metas.foldlM read rule = .ok next ↔
      (∀ part ∈ metas, part.rule?.isSome = true) ∧ next = after rule metas := by
  induction metas generalizing rule with
  | nil =>
    exact ⟨fun h => ⟨List.forall_mem_nil _, (Except.ok.inj h).symm⟩, fun h => congrArg _ h.2.symm⟩
  | cons part metas ih =>
    simp only [List.foldlM_cons, bind_eq_ok_iff, read_eq_ok_iff, ih, List.forall_mem_cons]
    constructor
    · rintro ⟨_, ⟨hpart, rfl⟩, hmetas, rfl⟩
      exact ⟨⟨hpart, hmetas⟩, after_cons hpart rule metas⟩
    · rintro ⟨⟨hpart, hmetas⟩, rfl⟩
      exact ⟨_, ⟨hpart, rfl⟩, hmetas, (after_cons hpart rule metas).symm⟩

/-- Either the first parts are at fault, or the later ones name rules too and leave the rule as it
is. -/
def AddNothing (first later : List Meta) : Prop :=
  (∀ part ∈ first, part.rule?.isSome = true) →
    (∀ part ∈ later, part.rule?.isSome = true) ∧ after (after none first) later = after none first

theorem ofAttributes_ofParts (parts : List Meta) :
    ofAttributes (ofParts parts) = parts.foldlM read none := by
  rw [ofAttributes, criteriaParts_ofParts]
  rfl

theorem ofAttributes_firstOnly {attributes : List Attribute} (h : Bracketed attributes) :
    ofAttributes (firstOnly attributes) = ofAttributes attributes := by
  rw [firstOnly, ofAttributes, ofAttributes, criteriaParts_ofParts, criteriaParts_eq h]

/-- One attribute gives the rule that the attributes give exactly if the later ones add nothing. -/
theorem ofAttributes_joined_iff {attributes : List Attribute} (h : Bracketed attributes) :
    ofAttributes (joined attributes) = ofAttributes attributes ↔
      AddNothing (firstParts attributes) (laterParts attributes) := by
  rw [← ofAttributes_firstOnly h, joined, firstOnly, ofAttributes_ofParts, ofAttributes_ofParts,
    flatten_pieces, List.foldlM_append]
  refine bind_eq_self_iff.trans ⟨fun hsame hfirst => ?_, fun hadd rule hrule => ?_⟩
  · obtain ⟨hlater, heq⟩ :=
      foldlM_read_eq_ok_iff.mp (hsame _ (foldlM_read_eq_ok_iff.mpr ⟨hfirst, rfl⟩))
    exact ⟨hlater, heq.symm⟩
  · obtain ⟨hfirst, rfl⟩ := foldlM_read_eq_ok_iff.mp hrule
    obtain ⟨hlater, heq⟩ := hadd hfirst
    exact foldlM_read_eq_ok_iff.mpr ⟨hlater, heq.symm⟩

end RenameRule

/-! ## Fields -/

namespace FieldOptions

/-- Options that are a contradiction are refused in the end. -/
def settle (o : FieldOptions) : Except ModelFault FieldOptions :=
  if o.nested && o.collection then .error .nestedCollection else .ok o

/-- More parts are settled to the same if they add nothing, or if there was a contradiction. -/
theorem settle_after_iff {o : FieldOptions} {metas : List Meta} :
    (o.after metas).settle = o.settle ↔
      (o.nested = true ∧ o.collection = true) ∨ o.after metas = o := by
  by_cases hboth : o.nested = true ∧ o.collection = true
  · have hafter : (o.after metas).nested = true ∧ (o.after metas).collection = true := by
      simp [after, hboth]
    simp [settle, hboth, hafter]
  · have hsettle : o.settle = .ok o := by simpa [settle] using hboth
    rw [hsettle, or_iff_right hboth]
    refine ⟨fun h => ?_, fun h => by rw [h, hsettle]⟩
    unfold settle at h
    split at h
    · cases h
    · exact Except.ok.inj h

/-- It is no part alone that makes a contradiction. -/
theorem foldlM_read_ne_contradiction (metas : List Meta) (o : FieldOptions) :
    metas.foldlM read o ≠ .error .nestedCollection := by
  intro h
  obtain ⟨part, -, o', hpart⟩ := exists_of_foldlM_eq_error h
  unfold read at hpart
  split at hpart <;> cases hpart

/-- Either the first parts are at fault, or the later ones may stand there too, and the first are a
contradiction or the later ones add nothing. -/
def AddNothing (first later : List Meta) : Prop :=
  (∀ part ∈ first, part.isFieldPart = true) → (∀ part ∈ later, part.isFieldPart = true) ∧
    (((plain.after first).nested = true ∧ (plain.after first).collection = true) ∨
      (plain.after first).after later = plain.after first)

theorem ofAttributes_ofParts (parts : List Meta) :
    ofAttributes (ofParts parts) = (parts.foldlM read plain).bind settle := by
  rw [ofAttributes, criteriaParts_ofParts]
  rfl

theorem ofAttributes_firstOnly {attributes : List Attribute} (h : Bracketed attributes) :
    ofAttributes (firstOnly attributes) = ofAttributes attributes := by
  rw [firstOnly, ofAttributes, ofAttributes, criteriaParts_ofParts, criteriaParts_eq h]

/-- One attribute says what the attributes say exactly if the later ones add nothing. -/
theorem ofAttributes_joined_iff {attributes : List Attribute} (h : Bracketed attributes) :
    ofAttributes (joined attributes) = ofAttributes attributes ↔
      AddNothing (firstParts attributes) (laterParts attributes) := by
  rw [← ofAttributes_firstOnly h, joined, firstOnly, ofAttributes_ofParts, ofAttributes_ofParts,
    flatten_pieces, List.foldlM_append]
  unfold AddNothing
  cases hread : (firstParts attributes).foldlM read plain with
  | error e =>
    refine iff_of_true rfl fun hfirst => ?_
    rw [foldlM_read_eq_ok_iff.mpr ⟨hfirst, rfl⟩] at hread
    cases hread
  | ok o =>
    obtain ⟨hfirst, rfl⟩ := foldlM_read_eq_ok_iff.mp hread
    rw [forall_prop_of_true hfirst, ← settle_after_iff]
    simp only [bind, Except.bind]
    cases hlater : (laterParts attributes).foldlM read (plain.after (firstParts attributes)) with
    | ok o' =>
      obtain ⟨hparts, rfl⟩ := foldlM_read_eq_ok_iff.mp hlater
      exact (and_iff_right hparts).symm
    | error e =>
      refine iff_of_false (fun heq => ?_) fun hadd => ?_
      · have hcontradiction : e ≠ .nestedCollection := by
          rintro rfl
          exact foldlM_read_ne_contradiction _ _ hlater
        have hsettle : settle (plain.after (firstParts attributes)) = .error e := heq.symm
        unfold settle at hsettle
        split at hsettle
        · exact hcontradiction (Except.error.inj hsettle).symm
        · cases hsettle
      · rw [foldlM_read_eq_ok_iff.mpr ⟨hadd.1, rfl⟩] at hlater
        cases hlater

end FieldOptions

/-! ## Items -/

/-- The field with other attributes. -/
def ItemField.mapAttributes (g : List Attribute → List Attribute) (f : ItemField) : ItemField :=
  { f with attributes := g f.attributes }

/-- The item with other attributes, its own and those of its fields. -/
def Item.mapAttributes (g : List Attribute → List Attribute) (item : Item) : Item :=
  { item with
    attributes := g item.attributes
    body := match item.body with
      | .record fields => .record (fields.map (ItemField.mapAttributes g))
      | other => other }

namespace ModelCode

/-- Attributes that say the same give the same code. -/
theorem generate_mapAttributes {g : List Attribute → List Attribute} {item : Item}
    {fields : List ItemField} (hbody : item.body = .record fields)
    (hitem : RenameRule.ofAttributes (g item.attributes) =
      RenameRule.ofAttributes item.attributes)
    (hfields : ∀ f ∈ fields,
      FieldOptions.ofAttributes (g f.attributes) = FieldOptions.ofAttributes f.attributes) :
    generate (item.mapAttributes g) = generate item := by
  have hadd : ∀ rule code, (fields.map (ItemField.mapAttributes g)).foldlM (addField rule) code =
      fields.foldlM (addField rule) code := by
    intro rule code
    clear hbody
    induction fields generalizing code with
    | nil => rfl
    | cons f fields ih =>
      obtain ⟨hf, hrest⟩ := List.forall_mem_cons.mp hfields
      have hfield : addField rule code (f.mapAttributes g) = addField rule code f := by
        unfold addField ItemField.mapAttributes
        simp only [hf]
      rw [List.map_cons, List.foldlM_cons, List.foldlM_cons, hfield]
      exact congrArg _ (funext fun code' => ih hrest code')
  unfold generate Item.mapAttributes
  simp only [hbody, DerivedModel.fieldsOf, hitem]
  simp only [bind, Except.bind, hadd]

/-- The fields that are read are those that are not marked to be skipped. -/
theorem sources_of_generate {item : Item} {fields : List ItemField} {code : ModelCode}
    (hbody : item.body = .record fields) (h : generate item = .ok code) :
    code.arms.map ReadArm.source = (fields.filter (!·.marks.skip)).map ItemField.name := by
  obtain ⟨rule, ds, -, hds, rfl⟩ := exists_derived hbody h
  have hsources : ds.map DerivedMember.source =
      (fields.filter (!·.marks.skip)).map ItemField.name := by
    rw [← List.forall₂_eq_eq_eq, List.forall₂_map_left_iff, List.forall₂_map_right_iff]
    exact hds.flip.imp fun d f hd => hd.source
  rw [← hsources]
  simp [extend, DerivedMember.arm, Function.comp_def]

/-- **Only the first attribute counts.**

    For every item with named fields whose attributes have their parts in brackets: the code is
    that of the item with the first attribute of the item and of each field and without the others,
    errors included, and the fields with a member are those that the first attribute does not skip.
    So attributes that are joined say the same exactly if the later ones add nothing to the first,
    of the item and of each field; and if all of them add nothing, the code is that of the item with
    all attributes joined. -/
theorem first_attribute_counts {item : Item} {fields : List ItemField}
    (hbody : item.body = .record fields) (hitem : Bracketed item.attributes)
    (hfields : ∀ f ∈ fields, Bracketed f.attributes) :
    generate (item.mapAttributes firstOnly) = generate item ∧
    (∀ code, generate item = .ok code → code.arms.map ReadArm.source =
      (fields.filter fun f => !(firstParts f.attributes).contains (.word "skip")).map
        ItemField.name) ∧
    (RenameRule.ofAttributes (joined item.attributes) = RenameRule.ofAttributes item.attributes ↔
      RenameRule.AddNothing (firstParts item.attributes) (laterParts item.attributes)) ∧
    (∀ f ∈ fields,
      (FieldOptions.ofAttributes (joined f.attributes) = FieldOptions.ofAttributes f.attributes ↔
        FieldOptions.AddNothing (firstParts f.attributes) (laterParts f.attributes))) ∧
    (RenameRule.AddNothing (firstParts item.attributes) (laterParts item.attributes) →
      (∀ f ∈ fields,
        FieldOptions.AddNothing (firstParts f.attributes) (laterParts f.attributes)) →
      generate (item.mapAttributes joined) = generate item) := by
  have hjoined := fun f hf => FieldOptions.ofAttributes_joined_iff (hfields f hf)
  refine ⟨?_, fun code hcode => ?_, RenameRule.ofAttributes_joined_iff hitem, hjoined,
    fun hadd haddFields => ?_⟩
  · exact generate_mapAttributes hbody (RenameRule.ofAttributes_firstOnly hitem)
      fun f hf => FieldOptions.ofAttributes_firstOnly (hfields f hf)
  · rw [sources_of_generate hbody hcode]
    refine congrArg _ (List.filter_congr fun f hf => ?_)
    simp [ItemField.marks, criteriaParts_eq (hfields f hf), Except.toOption, FieldOptions.after,
      FieldOptions.plain]
  · exact generate_mapAttributes hbody ((RenameRule.ofAttributes_joined_iff hitem).mpr hadd)
      fun f hf => (hjoined f hf).mpr (haddFields f hf)

end ModelCode

namespace Sample

/-- What is said of a home is said again in another attribute. -/
def homeField : ItemField :=
  ⟨"home", .path ["Address"] [],
    [⟨"criteria", some [.word "nested", .assign "rename" (some "Address")]⟩, ⟨"doc", none⟩,
      ⟨"criteria", some [.word "nested"]⟩]⟩

/-- A secret is renamed in one attribute and left out in another. -/
def secretField : ItemField :=
  ⟨"secret", .path ["String"] [],
    [⟨"criteria", some [.assign "rename" (some "Label")]⟩, ⟨"criteria", some [.word "skip"]⟩]⟩

/-- A customer with both. -/
def splitItem : Item :=
  ⟨"Customer", [], [⟨"criteria", some [.assign "rename_all" (some "PascalCase")]⟩],
    .record [homeField, secretField]⟩

theorem first_attribute_counts_customer :
    ∃ code, ModelCode.generate splitItem = .ok code ∧
      code.arms.map ReadArm.source = ["home", "secret"] ∧
      FieldOptions.ofAttributes (joined homeField.attributes) =
        FieldOptions.ofAttributes homeField.attributes ∧
      FieldOptions.ofAttributes (joined secretField.attributes) ≠
        FieldOptions.ofAttributes secretField.attributes := by
  have hbody : splitItem.body = .record [homeField, secretField] := rfl
  obtain ⟨-, hsources, -, hfields, -⟩ :=
    ModelCode.first_attribute_counts hbody (by decide) (by decide)
  refine ⟨_, rfl, hsources _ rfl, (hfields homeField (by simp)).mpr ?_,
    mt (hfields secretField (by simp)).mp ?_⟩
  · exact fun _ => ⟨by decide, Or.inr (by decide)⟩
  · intro hadd
    exact absurd (hadd (by decide)).2 (by decide)

/-- The secret is read, though one of its attributes leaves it out; it is left out if both are
joined. -/
theorem skipped_field_read :
    ∃ code joinedCode, ModelCode.generate splitItem = .ok code ∧
      ModelCode.generate (splitItem.mapAttributes joined) = .ok joinedCode ∧
      code.constants = [("ADDRESS", "Address"), ("LABEL", "Label")] ∧
      code.arms.map ReadArm.source = ["home", "secret"] ∧
      joinedCode.constants = [("ADDRESS", "Address")] ∧
      joinedCode.arms.map ReadArm.source = ["home"] :=
  ⟨_, _, rfl, rfl, rfl, rfl, rfl, rfl⟩

end Sample

end Winnow
