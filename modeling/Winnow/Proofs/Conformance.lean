/-
  Records that keep to a schema.

  A record conforms to a record type when every declared member, read by its name, holds what the
  declaration says: a value of the kind, a nested record or a list of records that conform to the
  next type, or a null where the member may be null. Records may lead back to each other, so
  `Conforms` is the largest relation of this form: some relation that each record in it respects.
  `conforms_iff` is the reading of the definition that unfolds one level.

  `admits_valueAt`: along a resolved path a conforming record holds a null only if the path is
  nullable, and otherwise what the type of the member says.
-/
import Winnow.Proofs.Resolution
import Winnow.Value.Row

namespace Winnow

variable {ι ρ : Type}

/-! ## Kinds of readings -/

/-- The kind of a reading; nulls and records have none. -/
def Reading.kind? : Reading ρ → Option Kind
  | .scalar s => some s.kind
  | .list _ => some .array
  | _ => none

theorem Reading.kind?_ofValue (v : Value) : (Reading.ofValue v : Reading ρ).kind? = v.kind? := by
  cases v <;> rfl

/-! ## Conforming records -/

/-- A reading that is not null suits a type, where `R` says which nested records do. -/
def MemberType.Suits (R : ι → ρ → Prop) : MemberType ι → Reading ρ → Prop
  | .scalar k, f => f.kind? = some k
  | .record next, .record row => R next row
  | .collection element, .records rows => ∀ row ∈ rows, R element row
  | _, _ => False

/-- A reading is one that a member may hold. -/
def Member.Admits (R : ι → ρ → Prop) (m : Member ι) (f : Reading ρ) : Prop :=
  (f = .null ∧ m.nullable = true) ∨ m.type.Suits R f

theorem MemberType.Suits.mono {R S : ι → ρ → Prop} (h : ∀ i row, R i row → S i row)
    {t : MemberType ι} {f : Reading ρ} (hf : t.Suits R f) : t.Suits S f := by
  cases t with
  | scalar k => exact hf
  | record next => cases f <;> first | exact h _ _ hf | exact hf.elim
  | collection element =>
    cases f with
    | records rows => exact fun row hrow => h _ _ (hf row hrow)
    | _ => exact hf.elim

theorem Member.Admits.mono {R S : ι → ρ → Prop} (h : ∀ i row, R i row → S i row)
    {m : Member ι} {f : Reading ρ} (hf : m.Admits R f) : m.Admits S f :=
  hf.imp_right (MemberType.Suits.mono h)

variable [Record ρ]

/-- Every record that `R` relates to a record type holds, under each member's name, what the
member admits. -/
def Family.Respects (family : Family ι) (R : ι → ρ → Prop) : Prop :=
  ∀ i row, R i row → ∀ m ∈ (family i).members, m.Admits R (m.valueIn row)

/-- The record keeps to the record type, and the records in it to theirs. -/
def Family.Conforms (family : Family ι) (i : ι) (row : ρ) : Prop :=
  ∃ R : ι → ρ → Prop, family.Respects R ∧ R i row

theorem Family.respects_conforms (family : Family ι) :
    family.Respects (family.Conforms : ι → ρ → Prop) := by
  rintro i row ⟨R, hR, hrow⟩ m hm
  exact (hR i row hrow m hm).mono fun j nested h => ⟨R, hR, h⟩

/-- Records of a sort conform if each holds, one level down, records of that sort or conforming
ones. -/
theorem Family.conforms_of_step {family : Family ι} {S : ι → ρ → Prop}
    (h : ∀ i row, S i row → ∀ m ∈ (family i).members,
      m.Admits (fun j nested => S j nested ∨ family.Conforms j nested) (m.valueIn row))
    {i : ι} {row : ρ} (hrow : S i row) : family.Conforms i row := by
  refine ⟨fun j nested => S j nested ∨ family.Conforms j nested, ?_, Or.inl hrow⟩
  rintro j nested (hn | hn) m hm
  · exact h j nested hn m hm
  · exact (family.respects_conforms j nested hn m hm).mono fun _ _ => Or.inr

theorem Family.conforms_iff (family : Family ι) (i : ι) (row : ρ) :
    family.Conforms i row ↔
      ∀ m ∈ (family i).members, m.Admits family.Conforms (m.valueIn row) := by
  constructor
  · exact family.respects_conforms i row
  · exact fun h => conforms_of_step (S := fun j nested => ∀ m ∈ (family j).members,
      m.Admits family.Conforms (m.valueIn nested))
      (fun j nested hn m hm => (hn m hm).mono fun _ _ => Or.inr) h

/-! ## Conformance along a path -/

/-- A resolved path says what a conforming record holds at its end. -/
theorem Family.Reaches.admits_valueAt {family : Family ι} {parameter : String} {i : ι}
    {segments : List String} {r : ResolvedMember ι}
    (h : family.Reaches parameter i segments r) {row : ρ} (hrow : family.Conforms i row) :
    (family.valueAt i segments row = .null ∧ r.nullable = true) ∨
      r.type.Suits family.Conforms (family.valueAt i segments row) := by
  induction h generalizing row with
  | last hm =>
    rw [Family.valueAt_singleton hm row]
    exact (family.conforms_iff _ row).mp hrow _ (RecordType.mem_of_member? hm)
  | @through i next segment rest m r hm ht hr ih =>
    rw [Family.valueAt_through hm ht hr.ne_nil row]
    rcases (family.conforms_iff _ row).mp hrow m (RecordType.mem_of_member? hm) with
      ⟨hnull, hn⟩ | hsuits
    · rw [hnull]
      exact Or.inl ⟨rfl, by simp [ResolvedMember.through, hn]⟩
    · rw [ht] at hsuits
      cases hf : m.valueIn row with
      | record nested =>
        rw [hf] at hsuits
        rcases ih hsuits with ⟨hv, hn⟩ | hv
        · exact Or.inl ⟨hv, by simp [ResolvedMember.through, hn]⟩
        · exact Or.inr hv
      | _ => rw [hf] at hsuits; exact hsuits.elim

/-- At a scalar member a conforming record holds a null or a value of the member's kind, and a
null only if the path is nullable. -/
theorem Family.Reaches.scalar_valueAt {family : Family ι} {parameter : String} {i : ι}
    {segments : List String} {r : ResolvedMember ι} {kind : Kind}
    (h : family.Reaches parameter i segments r) (ht : r.type = .scalar kind) {row : ρ}
    (hrow : family.Conforms i row) :
    (family.valueAt i segments row = .null ∧ r.nullable = true) ∨
      (family.valueAt i segments row).kind? = some kind := by
  have hadmits := h.admits_valueAt hrow
  rw [ht] at hadmits
  exact hadmits

/-- Along exact names a conforming record holds a null or what the declared type says. -/
theorem Family.suits_readSegments {family : Family ι} {i : ι} {names : List String}
    {t : MemberType ι} (h : family.typeAt? i names = some t) {row : ρ}
    (hrow : family.Conforms i row) :
    MemberPath.readSegments names row = .null ∨
      t.Suits family.Conforms (MemberPath.readSegments names row) := by
  induction names generalizing i row with
  | nil => exact absurd h (by simp [Family.typeAt?])
  | cons name rest ih =>
    rw [Family.typeAt?] at h
    cases hm : (family i).members.find? (·.name == name) with
    | none => simp [hm] at h
    | some m =>
      have hname : m.name = name := by simpa using List.find?_some hm
      have hvalue := (family.conforms_iff i row).mp hrow m (List.mem_of_find?_eq_some hm)
      cases rest with
      | nil =>
        simp only [hm, Option.some.injEq] at h
        subst h hname
        exact hvalue.imp_left And.left
      | cons name' rest =>
        rw [MemberPath.readSegments_cons (List.cons_ne_nil _ _), ← hname, ← Member.valueIn]
        cases ht : m.type with
        | record next =>
          simp only [hm, ht] at h
          cases hf : m.valueIn row with
          | record nested =>
            rw [hf] at hvalue
            rcases hvalue with ⟨hnull, -⟩ | hsuits
            · exact absurd hnull (by simp)
            · rw [ht] at hsuits
              exact ih h hsuits
          | _ => exact Or.inl rfl
        | scalar | collection => simp [hm, ht] at h

/-! ## A small family -/

namespace Sample

inductive TypeName where
  | person
  | address
  | order
  deriving DecidableEq

/-- People, whose address and orders may be missing. -/
def shop : Family TypeName
  | .person =>
    ⟨"Person", [⟨"Name", .scalar .text, false⟩, ⟨"Address", .record .address, true⟩,
      ⟨"Orders", .collection .order, true⟩]⟩
  | .address => ⟨"Address", [⟨"City", .scalar .text, false⟩]⟩
  | .order => ⟨"Order", [⟨"Id", .scalar .number, false⟩, ⟨"Note", .scalar .text, true⟩]⟩

theorem distinctNames_shop : shop.DistinctNames := by
  intro i
  cases i <;> decide

/-- A person of whom no more than the name is known. -/
def stranger : Row :=
  .mk [("Name", .scalar (.text "Ada")), ("Address", .null), ("Orders", .null)]

theorem conforms_stranger : shop.Conforms .person stranger := by
  rw [Family.conforms_iff]
  intro m hm
  simp only [shop, List.mem_cons, List.not_mem_nil, or_false] at hm
  rcases hm with rfl | rfl | rfl
  · exact Or.inr rfl
  · exact Or.inl ⟨rfl, rfl⟩
  · exact Or.inl ⟨rfl, rfl⟩

/-- An order with a number and what it holds for a note. -/
def order (id : Number) (note : Reading Row) : Row :=
  .mk [("Id", .scalar (.number id)), ("Note", note)]

theorem conforms_order (id : Number) {note : Reading Row}
    (h : note = .null ∨ note.kind? = some .text) : shop.Conforms .order (order id note) := by
  rw [Family.conforms_iff]
  intro m hm
  simp only [shop, List.mem_cons, List.not_mem_nil, or_false] at hm
  rcases hm with rfl | rfl
  · exact Or.inr rfl
  · exact h.imp_left fun h => ⟨h, rfl⟩

/-- A person with an order that has no note and one that has. -/
def customer : Row :=
  .mk [("Name", .scalar (.text "Bob")), ("Address", .null),
    ("Orders", .records
      [order (.signed 1) .null, order (.signed 2) (.scalar (.text "fragile"))])]

theorem conforms_customer : shop.Conforms .person customer := by
  rw [Family.conforms_iff]
  intro m hm
  simp only [shop, List.mem_cons, List.not_mem_nil, or_false] at hm
  rcases hm with rfl | rfl | rfl
  · exact Or.inr rfl
  · exact Or.inl ⟨rfl, rfl⟩
  · refine Or.inr fun row hrow => ?_
    rcases List.mem_cons.mp hrow with rfl | hrow
    · exact conforms_order _ (Or.inl rfl)
    · rw [List.mem_singleton.mp hrow]
      exact conforms_order _ (Or.inr rfl)

end Sample

end Winnow
