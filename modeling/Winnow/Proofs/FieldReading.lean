/-
  What generated code declares and reads for one field.

  The declaration of a member and the arm that reads it name types as the item writes them, and each
  is compiled on its own; nothing but the way in which they are generated makes them agree.
  `Declares` says what a field is declared as and `Reads` what is read from a value of it, each from
  the marks of the field and its written type alone. The declaration and the arm are these two
  (`member?_eq_some_iff`, `reader?_eq_some_iff`), so what is read is what is declared (`admits`).

  Whether the records that are read belong to the declared record type is decided by the types
  behind the written ones. `Lawful` is what the generated code relies on there: what is written as
  an option of a type is one, and a sequence has items of the type that it is written with. In a
  lawful scope they do (`Declares.owns`).
-/
import Winnow.Proofs.GeneratedCode
import Winnow.Proofs.Conformance
import Winnow.Proofs.Construction
import Winnow.Derive.Scope

namespace Winnow

variable {ι ρ : Type}

/-! ## Types as they are written -/

namespace TypeExpr

/-- The type is written as an option of another. -/
def IsOptionOf (t inner : TypeExpr) : Prop :=
  ∃ names arguments, t = .path names arguments ∧ names.getLast? = some "Option" ∧
    typeArguments arguments = [inner]

/-- The type is the other, or is written as an option of it. -/
inductive Wraps (t : TypeExpr) : TypeExpr → Bool → Prop
  | plain (h : ∀ inner, ¬ t.IsOptionOf inner) : Wraps t t false
  | option {inner : TypeExpr} (h : t.IsOptionOf inner) : Wraps t inner true

/-- The type is written as a sequence of items: an array or a slice, a reference to one, or a
type with one argument, which is the type of the items or a slice of them. -/
inductive IsSequenceOf : TypeExpr → TypeExpr → Prop
  | array (item : TypeExpr) (length : Nat) : IsSequenceOf (.array item length) item
  | slice (item : TypeExpr) : IsSequenceOf (.slice item) item
  | reference {target item : TypeExpr} (h : IsSequenceOf target item) :
      IsSequenceOf (.reference target) item
  | container {names : List String} {arguments : List TypeArgument} {item : TypeExpr}
      (h : typeArguments arguments = [item]) (hitem : ∀ t, item ≠ .slice t) :
      IsSequenceOf (.path names arguments) item
  | sliced {names : List String} {arguments : List TypeArgument} {item : TypeExpr}
      (h : typeArguments arguments = [.slice item]) : IsSequenceOf (.path names arguments) item

theorem singleArgument?_eq_some_iff {arguments : List TypeArgument} {t : TypeExpr} :
    singleArgument? arguments = some t ↔ typeArguments arguments = [t] := by
  unfold singleArgument?
  split
  · next h => simp [h]
  · next h => simpa using h t

theorem optionInner?_eq_some_iff {t inner : TypeExpr} :
    t.optionInner? = some inner ↔ t.IsOptionOf inner := by
  cases t with
  | path names arguments => simp [optionInner?, IsOptionOf, singleArgument?_eq_some_iff]
  | _ => simp [optionInner?, IsOptionOf]

/-- Taking off an option gives what a type wraps, and nothing else does. -/
theorem wraps_iff {t inner : TypeExpr} {optional : Bool} :
    t.Wraps inner optional ↔
      inner = t.optionInner?.getD t ∧ optional = t.optionInner?.isSome := by
  constructor
  · rintro (h | h)
    · have hnone : t.optionInner? = none :=
        Option.eq_none_iff_forall_ne_some.mpr fun u hu => h u (optionInner?_eq_some_iff.mp hu)
      rw [hnone]
      exact ⟨rfl, rfl⟩
    · rw [optionInner?_eq_some_iff.mpr h]
      exact ⟨rfl, rfl⟩
  · rintro ⟨rfl, rfl⟩
    cases h : t.optionInner? with
    | none => exact .plain fun u hu => by simp [optionInner?_eq_some_iff.mpr hu] at h
    | some inner => exact .option (optionInner?_eq_some_iff.mp h)

theorem element?_eq_some_iff {t item : TypeExpr} :
    t.element? = some item ↔ t.IsSequenceOf item := by
  constructor
  · intro h
    fun_induction element? t with
    | case1 => cases h; exact .array _ _
    | case2 => cases h; exact .slice _
    | case3 target ih => exact .reference (ih h)
    | case4 names arguments t' hslice =>
      cases h
      exact .sliced (singleArgument?_eq_some_iff.mp hslice)
    | case5 names arguments hother =>
      exact .container (singleArgument?_eq_some_iff.mp h) fun t ht => hother t (ht ▸ h)
    | case6 => cases h
  · intro h
    induction h with
    | array | slice => rfl
    | reference _ ih => exact ih
    | @container names arguments item h hitem =>
      rw [element?, singleArgument?_eq_some_iff.mpr h]
      cases item with
      | slice t => exact absurd rfl (hitem t)
      | _ => rfl
    | sliced h => rw [element?, singleArgument?_eq_some_iff.mpr h]

end TypeExpr

/-! ## What is declared and what is read -/

/-- The records in a reading. -/
def Reading.rows : Reading ρ → List ρ
  | .record row => [row]
  | .records rows => rows
  | _ => []

/-- The record type that a member's type refers to. -/
def MemberType.target? : MemberType ι → Option ι
  | .scalar _ => none
  | .record next => some next
  | .collection element => some element

namespace Scope

variable (scope : Scope ι ρ)

/-- What generated code relies on: what is written as an option of a type is an option of that
type, and what is written as a sequence of records lists records of that type. -/
structure Lawful : Prop where
  option {t inner : TypeExpr} (h : t.IsOptionOf inner) {option}
      (ho : scope.option? t = some option) : option.1 = inner
  items {t item : TypeExpr} (h : t.IsSequenceOf item) (hm : (scope.model? item).isSome) {sequence}
      (hs : scope.items? t = some sequence) : sequence.1 = item

/-- The record is a value of a type with the record type. -/
def Owns (i : ι) (row : ρ) : Prop :=
  ∃ t toRecord v, scope.model? t = some i ∧ scope.record? t = some toRecord ∧ row = toRecord v

/-- What a field is declared as: a single value of the kind of its type, which may be null if the
type says so, or a record or a list of records, which may be null if the type is written as an
option. -/
inductive Declares (f : ItemField) : MemberType ι → Bool → Prop
  | single {s : SingleType (scope.Carrier f.type)} (hn : f.marks.nested = false)
      (hc : f.marks.collection = false) (h : scope.single? f.type = some s) :
      Declares f (.scalar s.type.operandType.kind) s.type.operandType.nullable
  | record {t : TypeExpr} {optional : Bool} {i : ι} (hf : f.marks.nested = true)
      (ht : f.type.Wraps t optional) (h : scope.model? t = some i) :
      Declares f (.record i) optional
  | collection {t item : TypeExpr} {optional : Bool} {i : ι} (hn : f.marks.nested = false)
      (hf : f.marks.collection = true) (ht : f.type.Wraps t optional)
      (hi : t.IsSequenceOf item) (h : scope.model? item = some i) :
      Declares f (.collection i) optional

/-- What the values of a type hold for a field: the record that each is, or those of its items. -/
inductive Holds (f : ItemField) (t : TypeExpr) : (scope.Carrier t → Reading ρ) → Prop
  | record {toRecord : scope.Carrier t → ρ} (hf : f.marks.nested = true)
      (h : scope.record? t = some toRecord) : Holds f t fun v => .record (toRecord v)
  | records {item : TypeExpr} {items : scope.Carrier t → List (scope.Carrier item)}
      {toRecord : scope.Carrier item → ρ} (hn : f.marks.nested = false)
      (hf : f.marks.collection = true) (hi : scope.items? t = some ⟨item, items⟩)
      (h : scope.record? item = some toRecord) :
      Holds f t fun v => .records ((items v).map toRecord)

/-- How the values of a field are read: each as the single value that it is, or as what it holds.
If the type is written as an option, it is what the value in it holds, and a null if there is
none. -/
inductive Reads (f : ItemField) : (scope.Carrier f.type → Reading ρ) → Prop
  | single {s : SingleType (scope.Carrier f.type)} (hn : f.marks.nested = false)
      (hc : f.marks.collection = false) (h : scope.single? f.type = some s) :
      Reads f fun v => s.type.toReading (s.value v)
  | plain {read : scope.Carrier f.type → Reading ρ} (h : ∀ inner, ¬ f.type.IsOptionOf inner)
      (hr : scope.Holds f f.type read) : Reads f read
  | option {t inner : TypeExpr} {unwrap : scope.Carrier f.type → Option (scope.Carrier inner)}
      {read : scope.Carrier inner → Reading ρ} (h : f.type.IsOptionOf t)
      (ho : scope.option? f.type = some ⟨inner, unwrap⟩) (hr : scope.Holds f inner read) :
      Reads f fun v => (unwrap v).elim .null read

variable {scope}

/-- A value that is read as a single value is null only if its type says that it may be. -/
theorem admits_toReading (t : ValueType) (v : t.Carrier) (name : String) (R : ι → ρ → Prop) :
    (t.member name : Member ι).Admits R (t.toReading v) := by
  have hkind := (t.fits_toValue v).kind?
  rw [ValueType.toReading_eq]
  cases hn : t.operandType.nullable with
  | true =>
    rcases hkind with hnull | hk
    · rw [hnull]
      exact Or.inl ⟨rfl, hn⟩
    · exact Or.inr ((Reading.kind?_ofValue _).trans hk)
  | false =>
    have hk := hkind.resolve_left (ValueType.toValue_ne_null hn v)
    exact Or.inr ((Reading.kind?_ofValue _).trans hk)

theorem not_holds {f : ItemField} (hn : f.marks.nested = false) (hc : f.marks.collection = false)
    {t : TypeExpr} {read : scope.Carrier t → Reading ρ} : ¬ scope.Holds f t read := by
  rintro (hf | ⟨_, hf⟩)
  · exact absurd hf (by simp [hn])
  · exact absurd hf (by simp [hc])

/-- The records that a value holds suit the declared type if they are related to it. -/
theorem Declares.suits {f : ItemField} {type : MemberType ι} {nullable : Bool}
    (hd : scope.Declares f type nullable) {t : TypeExpr} {read : scope.Carrier t → Reading ρ}
    (hr : scope.Holds f t read) (v : scope.Carrier t) {R : ι → ρ → Prop}
    (hR : ∀ i row, type.target? = some i → row ∈ (read v).rows → R i row) :
    type.Suits R (read v) := by
  cases hr with
  | record hf _ =>
    cases hd with
    | single hn => exact absurd hf (by simp [hn])
    | record => exact hR _ _ rfl (List.mem_singleton.mpr rfl)
    | collection hn => exact absurd hf (by simp [hn])
  | records hn hf _ _ =>
    cases hd with
    | single _ hc => exact absurd hf (by simp [hc])
    | record hn' => exact absurd hn' (by simp [hn])
    | collection => exact fun row hrow => hR _ _ rfl hrow

/-- A member that holds records and is written as an option may be null. -/
theorem Declares.nullable_of_holds {f : ItemField} {type : MemberType ι} {nullable : Bool}
    (hd : scope.Declares f type nullable) {t u : TypeExpr} {read : scope.Carrier t → Reading ρ}
    (hr : scope.Holds f t read) (h : f.type.IsOptionOf u) : nullable = true := by
  rw [← TypeExpr.optionInner?_eq_some_iff] at h
  cases hd with
  | single hn hc => exact absurd hr (not_holds hn hc)
  | record _ ht => rw [(TypeExpr.wraps_iff.mp ht).2, h]; rfl
  | collection _ _ ht => rw [(TypeExpr.wraps_iff.mp ht).2, h]; rfl

/-- What is read from a field is of the declared form, and a null only if the member may be
one. -/
theorem Declares.admits {f : ItemField} {m : Member ι} (hd : scope.Declares f m.type m.nullable)
    {read : scope.Carrier f.type → Reading ρ} (hr : scope.Reads f read)
    (v : scope.Carrier f.type) {R : ι → ρ → Prop}
    (hR : ∀ i row, m.type.target? = some i → row ∈ (read v).rows → R i row) :
    m.Admits R (read v) := by
  cases hr with
  | @single s hn hc hs =>
    obtain ⟨name, type, nullable⟩ := m
    cases hd with
    | single _ _ hs' =>
      obtain rfl := Option.some.inj (hs.symm.trans hs')
      exact admits_toReading s.type _ name R
    | record hf => exact absurd hf (by simp [hn])
    | collection _ hf => exact absurd hf (by simp [hc])
  | plain _ hr => exact Or.inr (hd.suits hr v hR)
  | @option _ _ unwrap _ h _ hr =>
    cases hw : unwrap v with
    | none => exact Or.inl ⟨by simp [hw], hd.nullable_of_holds hr h⟩
    | some w =>
      simp only [hw, Option.elim_some] at hR ⊢
      exact Or.inr (hd.suits hr w hR)

/-- In a lawful scope the records that a wrapped value holds are records of the declared type. -/
theorem Declares.owns_of_holds (hscope : scope.Lawful) {f : ItemField} {type : MemberType ι}
    {nullable : Bool} (hd : scope.Declares f type nullable) {t : TypeExpr}
    (ht : f.type.optionInner?.getD f.type = t) {read : scope.Carrier t → Reading ρ}
    (hr : scope.Holds f t read) {v : scope.Carrier t} {i : ι} {row : ρ}
    (hi : type.target? = some i) (hrow : row ∈ (read v).rows) : scope.Owns i row := by
  cases hd with
  | single => cases hi
  | record hf hw hm =>
    cases hi
    rw [(TypeExpr.wraps_iff.mp hw).1, ht] at hm
    cases hr with
    | record _ hrecord =>
      obtain rfl := List.mem_singleton.mp hrow
      exact ⟨_, _, _, hm, hrecord, rfl⟩
    | records hn => exact absurd hf (by simp [hn])
  | collection hn hf hw hitem hm =>
    cases hi
    rw [(TypeExpr.wraps_iff.mp hw).1, ht] at hitem
    cases hr with
    | record hf' => exact absurd hf' (by simp [hn])
    | records _ _ hitems hrecord =>
      obtain rfl := hscope.items hitem (Option.isSome_of_eq_some hm) hitems
      obtain ⟨w, _, rfl⟩ := List.mem_map.mp hrow
      exact ⟨_, _, _, hm, hrecord, rfl⟩

/-- In a lawful scope the records that are read from a field are records of the declared type. -/
theorem Declares.owns (hscope : scope.Lawful) {f : ItemField} {type : MemberType ι}
    {nullable : Bool} (hd : scope.Declares f type nullable)
    {read : scope.Carrier f.type → Reading ρ} (hr : scope.Reads f read)
    {v : scope.Carrier f.type} {i : ι} {row : ρ} (hi : type.target? = some i)
    (hrow : row ∈ (read v).rows) : scope.Owns i row := by
  cases hr with
  | single hn hc =>
    cases hd with
    | single => cases hi
    | record hf => exact absurd hf (by simp [hn])
    | collection _ hf => exact absurd hf (by simp [hc])
  | plain hplain hr =>
    exact hd.owns_of_holds hscope (TypeExpr.wraps_iff.mp (.plain hplain)).1.symm hr hi hrow
  | @option _ _ unwrap _ h ho hr =>
    obtain rfl := hscope.option h ho
    cases hw : unwrap v with
    | none => simp [hw, Reading.rows] at hrow
    | some w =>
      simp only [hw, Option.elim_some] at hrow
      exact hd.owns_of_holds hscope (TypeExpr.wraps_iff.mp (.option h)).1.symm hr hi hrow

end Scope

/-! ## One member -/

/-- The field of an instance that a name leads to is the only one with the name. -/
theorem Scope.field?_name {scope : Scope ι ρ} {fields : List ItemField}
    (hd : (fields.map ItemField.name).Nodup) {f : ItemField} (hf : f ∈ fields) :
    ∃ value, scope.field? fields f.name = some ⟨f.type, value⟩ := by
  induction fields with
  | nil => exact absurd hf List.not_mem_nil
  | cons g fields ih =>
    rw [List.map_cons, List.nodup_cons] at hd
    rcases List.mem_cons.mp hf with rfl | hf
    · exact ⟨fun self => self.1, by simp [field?]⟩
    · have hne : g.name ≠ f.name := fun he => hd.1 (he ▸ List.mem_map_of_mem hf)
      obtain ⟨value, hvalue⟩ := ih hd.2 hf
      exact ⟨fun self => value self.2, by simp [field?, hne, hvalue]⟩

/-- The form reads what the marks of the field ask for. -/
def ReadForm.For (f : ItemField) (form : ReadForm) : Prop :=
  form = .record ∧ f.marks.nested = true ∨
    form = .records ∧ f.marks.nested = false ∧ f.marks.collection = true

/-- A form reads what the values of a type hold. -/
theorem ReadForm.For.reader?_eq_some_iff {scope : Scope ι ρ} {f : ItemField} {form : ReadForm}
    (hform : form.For f) {t : TypeExpr} {read : scope.Carrier t → Reading ρ} :
    form.reader? scope t = some read ↔ scope.Holds f t read := by
  rcases hform with ⟨rfl, hf⟩ | ⟨rfl, hn, hf⟩
  · constructor
    · intro h
      obtain ⟨toRecord, hrecord, rfl⟩ := Option.map_eq_some_iff.mp h
      exact .record hf hrecord
    · intro h
      cases h with
      | record _ h => rw [ReadForm.reader?, h]; rfl
      | records hn => exact absurd hf (by simp [hn])
  · constructor
    · intro h
      obtain ⟨sequence, hitems, h⟩ := Option.bind_eq_some_iff.mp h
      obtain ⟨toRecord, hrecord, rfl⟩ := Option.map_eq_some_iff.mp h
      exact .records hn hf hitems hrecord
    · intro h
      cases h with
      | record hf' => exact absurd hf' (by simp [hn])
      | records _ _ hitems h => rw [ReadForm.reader?, hitems, Option.bind_some, h]; rfl

/-- An arm that is optional exactly if its field is written as an option reads what the field
holds, or a null. -/
theorem ReadArm.reader?_eq_some_iff {scope : Scope ι ρ} {f : ItemField} {arm : ReadArm}
    (hform : arm.form.For f) (hoptional : arm.optional = f.type.optionInner?.isSome)
    {read : scope.Carrier f.type → Reading ρ} :
    arm.reader? scope f.type = some read ↔ scope.Reads f read := by
  unfold reader?
  constructor
  · intro h
    cases hinner : f.type.optionInner? with
    | none =>
      rw [hoptional, hinner] at h
      refine .plain (fun u hu => ?_) (hform.reader?_eq_some_iff.mp h)
      rw [TypeExpr.optionInner?_eq_some_iff.mpr hu] at hinner
      cases hinner
    | some u =>
      rw [hoptional, hinner] at h
      obtain ⟨option, ho, h⟩ := Option.bind_eq_some_iff.mp h
      obtain ⟨read, hread, rfl⟩ := Option.map_eq_some_iff.mp h
      exact .option (TypeExpr.optionInner?_eq_some_iff.mp hinner) ho
        (hform.reader?_eq_some_iff.mp hread)
  · intro h
    cases h with
    | single hn hc =>
      rcases hform with ⟨_, hf⟩ | ⟨_, _, hf⟩
      · exact absurd hf (by simp [hn])
      · exact absurd hf (by simp [hc])
    | plain hplain hr =>
      have hnone := (TypeExpr.wraps_iff.mp (.plain hplain)).2
      rw [hoptional, ← hnone]
      exact hform.reader?_eq_some_iff.mpr hr
    | option ho hopt hr =>
      rw [hoptional, TypeExpr.optionInner?_eq_some_iff.mpr ho, Option.isSome_some, if_pos rfl, hopt,
        Option.bind_some, hform.reader?_eq_some_iff.mpr hr]
      rfl

namespace ItemField.Derives

variable {scope : Scope ι ρ} {rule : Option RenameRule} {f : ItemField} {d : DerivedMember}

theorem shape_of_nested (hd : f.Derives rule d) (hn : f.marks.nested = true) :
    d.shape = .record (f.type.optionInner?.getD f.type) f.type.optionInner?.isSome := by
  have hshape := hd.shape
  simp only [MemberShape.ofField, hn, if_true] at hshape
  exact (Except.ok.inj hshape).symm

theorem shape_of_collection (hd : f.Derives rule d) (hn : f.marks.nested = false)
    (hc : f.marks.collection = true) :
    ∃ item, (f.type.optionInner?.getD f.type).element? = some item ∧
      d.shape = .collection item f.type.optionInner?.isSome := by
  have hshape := hd.shape
  simp only [MemberShape.ofField, hn, hc, if_true, Bool.false_eq_true, if_false] at hshape
  split at hshape
  · next item hitem => exact ⟨item, hitem, (Except.ok.inj hshape).symm⟩
  · cases hshape

theorem shape_of_single (hd : f.Derives rule d) (hn : f.marks.nested = false)
    (hc : f.marks.collection = false) : d.shape = .scalar f.type := by
  have hshape := hd.shape
  simp only [MemberShape.ofField, hn, hc, Bool.false_eq_true, if_false] at hshape
  exact (Except.ok.inj hshape).symm

/-- The declaration that is generated for a field gives the member that the field is declared
as. -/
theorem member?_eq_some_iff (hd : f.Derives rule d) {m : Member ι} :
    d.decl.member? scope = some m ↔ m.name = d.name ∧ scope.Declares f m.type m.nullable := by
  have hmember : d.decl.member? scope = MemberDecl.member? scope ⟨d.name, d.shape⟩ := rfl
  rw [hmember]
  constructor
  · intro h
    cases hn : f.marks.nested with
    | true =>
      rw [hd.shape_of_nested hn] at h
      obtain ⟨i, hi, rfl⟩ := Option.map_eq_some_iff.mp h
      exact ⟨rfl, .record hn (TypeExpr.wraps_iff.mpr ⟨rfl, rfl⟩) hi⟩
    | false =>
      cases hc : f.marks.collection with
      | true =>
        obtain ⟨item, hitem, hshape⟩ := hd.shape_of_collection hn hc
        rw [hshape] at h
        obtain ⟨i, hi, rfl⟩ := Option.map_eq_some_iff.mp h
        exact ⟨rfl, .collection hn hc (TypeExpr.wraps_iff.mpr ⟨rfl, rfl⟩)
          (TypeExpr.element?_eq_some_iff.mp hitem) hi⟩
      | false =>
        rw [hd.shape_of_single hn hc] at h
        obtain ⟨s, hs, rfl⟩ := Option.map_eq_some_iff.mp h
        exact ⟨rfl, .single hn hc hs⟩
  · obtain ⟨name, type, nullable⟩ := m
    rintro ⟨rfl, h⟩
    cases h with
    | single hn hc h =>
      rw [hd.shape_of_single hn hc]
      exact Option.map_eq_some_iff.mpr ⟨_, h, rfl⟩
    | record hn ht h =>
      obtain ⟨rfl, rfl⟩ := TypeExpr.wraps_iff.mp ht
      rw [hd.shape_of_nested hn]
      exact Option.map_eq_some_iff.mpr ⟨_, h, rfl⟩
    | collection hn hc ht hi h =>
      obtain ⟨rfl, rfl⟩ := TypeExpr.wraps_iff.mp ht
      obtain ⟨item, hitem, hshape⟩ := hd.shape_of_collection hn hc
      obtain rfl := Option.some.inj ((TypeExpr.element?_eq_some_iff.mpr hi).symm.trans hitem)
      rw [hshape]
      exact Option.map_eq_some_iff.mpr ⟨_, h, rfl⟩

/-- The arm that is generated for a field reads its values as the field is marked and typed. -/
theorem reader?_eq_some_iff (hd : f.Derives rule d) {read : scope.Carrier f.type → Reading ρ} :
    d.arm.reader? scope f.type = some read ↔ scope.Reads f read := by
  have harm : d.arm = ⟨d.name, d.source, d.shape.form, d.shape.nullable?.getD false⟩ := rfl
  rw [harm]
  cases hn : f.marks.nested with
  | true =>
    rw [hd.shape_of_nested hn]
    exact ReadArm.reader?_eq_some_iff (Or.inl ⟨rfl, hn⟩) rfl
  | false =>
    cases hc : f.marks.collection with
    | true =>
      obtain ⟨item, _, hshape⟩ := hd.shape_of_collection hn hc
      rw [hshape]
      exact ReadArm.reader?_eq_some_iff (Or.inr ⟨rfl, hn, hc⟩) rfl
    | false =>
      rw [hd.shape_of_single hn hc]
      constructor
      · intro h
        obtain ⟨s, hs, rfl⟩ := Option.map_eq_some_iff.mp h
        exact .single hn hc hs
      · intro h
        cases h with
        | single _ _ hs => exact Option.map_eq_some_iff.mpr ⟨_, hs, rfl⟩
        | plain _ hr => exact absurd hr (Scope.not_holds hn hc)
        | option _ _ hr => exact absurd hr (Scope.not_holds hn hc)

end ItemField.Derives

end Winnow
