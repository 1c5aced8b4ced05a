/-
  Requests are read as they are written.

  A record is read from an object entry by entry: a field's entry is stored, the entry of any other
  key is passed over (`bindEntries_field`, `bindEntries_other`). An object that is written from a
  value has the fields in order, each once, so that reading it goes through the fields one by one
  and stores what was written.

  A page request is read into a draft, which is then checked. `Draft.bindEntries_of_given` is the
  induction over the entries of an object, whatever their order: each field ends up with what its
  entry gives, or stays as it was. `Envelope.binding`, the main statement, puts the two together:
  page requests, sort orders and envelopes are read back as they were written; and an object that
  gives numbers is read exactly if there is such a page, and otherwise refused with the error that
  asking for the page gives.
-/
import Winnow.Proofs.Paging
import Mathlib.Data.List.Nodup

namespace Winnow

/-! ## Entries of a record -/

namespace Json

section Entries

variable {α : Type} {fields : List (Field α)} {seen : List String} {key : String} {v : Json}

/-- The entry of a field that has not come before is read and stored. -/
theorem bindEntries_field {field : Field α} (hf : fields.find? (·.key == key) = some field)
    (hseen : key ∉ seen) {a b : α} (hb : field.bind v a = .ok b)
    (rest : List (Option String × Json)) :
    bindEntries fields seen ((some key, v) :: rest) a =
      bindEntries fields (key :: seen) rest b := by
  have hnew : seen.contains key = false := by simpa using hseen
  simp only [bindEntries, hf, hnew, hb, bind, Except.bind, Bool.false_eq_true, if_false]

theorem Field.bind_of {β : Type} {bind : Json → Bound β} {b : β} (h : bind v = .ok b)
    (store : β → α → α) (a : α) : (Field.of key bind store).bind v a = .ok (store b a) := by
  show (bind v).map (store · a) = _
  rw [h]
  rfl

/-- The entry of any other key is passed over. -/
theorem bindEntries_other (hf : fields.find? (·.key == key) = none) (hv : v.isWhole = true)
    (rest : List (Option String × Json)) (a : α) :
    bindEntries fields seen ((some key, v) :: rest) a = bindEntries fields seen rest a := by
  simp only [bindEntries, hf, hv, if_true]

/-- The entries are those of an object, and none but keys of no field come more than once. -/
structure FieldsOnce (fields : List (Field α)) (entries : List (String × Json)) : Prop where
  whole : ∀ e ∈ entries, e.2.isWhole = true
  once : ∀ field ∈ fields, (entries.map Prod.fst).count field.key ≤ 1

theorem FieldsOnce.of_nodup {entries : List (String × Json)}
    (hwhole : ∀ e ∈ entries, e.2.isWhole = true) (h : (entries.map Prod.fst).Nodup) :
    FieldsOnce fields entries :=
  ⟨hwhole, fun field _ => List.nodup_iff_count_le_one.mp h field.key⟩

theorem FieldsOnce.tail {entries : List (String × Json)}
    (h : FieldsOnce fields ((key, v) :: entries)) : FieldsOnce fields entries := by
  refine ⟨fun e he => h.whole e (List.mem_cons_of_mem _ he), fun field hfield => ?_⟩
  have hcount := h.once field hfield
  rw [List.map_cons, List.count_cons] at hcount
  omega

/-- After the entry of a field there is no other one of that field. -/
theorem FieldsOnce.not_mem_tail {entries : List (String × Json)}
    (h : FieldsOnce fields ((key, v) :: entries)) {field : Field α}
    (hf : fields.find? (·.key == key) = some field) : key ∉ entries.map Prod.fst := by
  obtain rfl : field.key = key := by simpa using List.find?_some hf
  have hcount := h.once field (List.mem_of_find?_eq_some hf)
  rw [List.map_cons, List.count_cons_self] at hcount
  exact List.count_eq_zero.mp (by omega)

end Entries

theorem lookup_eq_none {key : String} {entries : List (String × Json)}
    (h : key ∉ entries.map Prod.fst) : entries.lookup key = none := by
  rw [List.lookup_eq_none_iff]
  intro e he
  rw [bne_iff_ne]
  rintro rfl
  exact h (List.mem_map_of_mem he)

theorem lookup_cons_of_ne {key key' : String} (h : key ≠ key') (v : Json)
    (entries : List (String × Json)) :
    ((key', v) :: entries).lookup key = entries.lookup key := by
  rw [List.lookup_cons, beq_false_of_ne h]

/-! ## Single values -/

theorem bindWord_ofNat (w : UInt64) : bindWord (ofNat w.toNat) = .ok w := by
  unfold bindWord ofNat
  simp only [w.toNat_lt_size, if_true, UInt64.ofNat_toNat]

theorem bindString_ofString (s : String) : bindString (ofString s) = .ok s := rfl

theorem isWhole_ofNat (n : Nat) : (ofNat n).isWhole = true := by
  simp [ofNat, isWhole]

theorem bindOption_ofNat (skip? : Option UInt64) :
    bindOption bindWord ((skip?.map fun w => ofNat w.toNat).getD .null) = .ok skip? := by
  cases skip? with
  | none => rfl
  | some w =>
    show (bindWord (ofNat w.toNat)).map some = .ok (some w)
    rw [bindWord_ofNat]
    rfl

theorem bindOption_ofString (s? : Option String) :
    bindOption bindString ((s?.map ofString).getD .null) = .ok s? := by
  cases s? <;> rfl

/-- What an object holds under the key of a number: nothing, so that the number is the usual one,
or the number. -/
inductive GivesWord (usual : UInt64) : Option Json → UInt64 → Prop where
  | absent : GivesWord usual none usual
  | given (w : UInt64) : GivesWord usual (some (ofNat w.toNat)) w

/-- What an object holds under the key of a number that there need not be. -/
inductive GivesOption (usual : Option UInt64) : Option Json → Option UInt64 → Prop where
  | absent : GivesOption usual none usual
  | null : GivesOption usual (some .null) none
  | given (w : UInt64) : GivesOption usual (some (ofNat w.toNat)) (some w)

theorem GivesOption.bindOption_eq {usual w : Option UInt64} {v : Json}
    (h : GivesOption usual (some v) w) : bindOption bindWord v = .ok w := by
  cases h with
  | null => rfl
  | given w => exact bindOption_ofNat (some w)

end Json

theorem Direction.bindName_name (d : Direction) :
    Json.bindName ofName? (.ofString d.name) = .ok d := by
  cases d <;> rfl

/-! ## Page requests -/

namespace PageRequest

/-- The page requests that there are: the default one, those of a number and a size, with the
items to pass over set, and those that are read. -/
inductive Obtained : PageRequest → Prop where
  | default : Obtained PageRequest.default
  | ofNumber {number count : UInt64} {p : PageRequest} (h : ofNumber number count = .ok p) :
      Obtained p
  | withSkip {p : PageRequest} (skip : UInt64) (h : Obtained p) : Obtained (p.withSkip skip)
  | ofJson {j : Json} {p : PageRequest} (h : PageRequest.ofJson j = .ok p) : Obtained p

/-- The number and the size are in their bounds. -/
def InBounds (number count : UInt64) : Prop :=
  1 ≤ number.toNat ∧ 1 ≤ count.toNat ∧ count.toNat ≤ maxCount

theorem ofNumber_of_inBounds {number count : UInt64} (h : InBounds number count) :
    ofNumber number count = .ok ⟨number, count, none⟩ :=
  ofNumber_of_bounds h.1 h.2.1 h.2.2

/-- The number is checked first. -/
theorem ofNumber_zero (count : UInt64) :
    ofNumber 0 count = .error (.invalidPagination .number 0 1 (UInt64.size - 1)) := rfl

theorem ofNumber_of_count {number count : UInt64} (hnumber : number ≠ 0)
    (hcount : ¬ (1 ≤ count.toNat ∧ count.toNat ≤ maxCount)) :
    ofNumber number count = .error (.invalidPagination .count count.toNat 1 maxCount) := by
  have hbad : count = 0 ∨ maxCount < count.toNat := by
    rw [← UInt64.toNat_inj, UInt64.toNat_zero]
    omega
  rw [ofNumber, if_neg hnumber, if_pos hbad]

theorem ofNumber_eq_ok_iff {number count : UInt64} {p : PageRequest} :
    ofNumber number count = .ok p ↔ InBounds number count ∧ p = ⟨number, count, none⟩ := by
  constructor
  · intro h
    have hnumber : number ≠ 0 := by
      rintro rfl
      exact absurd h (by rw [ofNumber_zero]; simp)
    have hcount : 1 ≤ count.toNat ∧ count.toNat ≤ maxCount := by
      refine Classical.byContradiction fun hbad => ?_
      rw [ofNumber_of_count hnumber hbad] at h
      exact absurd h (by simp)
    have hbounds : InBounds number count := by
      refine ⟨Nat.pos_of_ne_zero fun h0 => hnumber ?_, hcount⟩
      rwa [← UInt64.toNat_inj]
    rw [ofNumber_of_inBounds hbounds] at h
    exact ⟨hbounds, (Except.ok.inj h).symm⟩
  · rintro ⟨hbounds, rfl⟩
    exact ofNumber_of_inBounds hbounds

/-- The page with the number of items to pass over, if there is one. -/
def withSkip? (p : PageRequest) (skip? : Option UInt64) : PageRequest :=
  skip?.elim p p.withSkip

namespace Draft

/-- A draft is checked by asking for its page; the items to pass over are set afterwards. -/
theorem check_eq (d : Draft) :
    d.check = (ofNumber d.number d.count).map (·.withSkip? d.skip?) := by
  unfold check
  cases ofNumber d.number d.count with
  | error e => rfl
  | ok p => cases d.skip? <;> rfl

/-- The draft is what an object with the entries gives, with what it leaves out taken from
another. -/
structure Given (usual : Draft) (entries : List (String × Json)) (d : Draft) : Prop where
  number : Json.GivesWord usual.number (entries.lookup "Number") d.number
  count : Json.GivesWord usual.count (entries.lookup "Count") d.count
  skip : Json.GivesOption usual.skip? (entries.lookup "Skip") d.skip?

theorem bindEntries_of_given {entries : List (String × Json)}
    (hentries : Json.FieldsOnce fields entries) {seen : List String}
    (hseen : ∀ e ∈ entries, e.1 ∉ seen) {usual d : Draft} (h : Given usual entries d) :
    Json.bindEntries fields seen (entries.map fun e => (some e.1, e.2)) usual = .ok d := by
  -- Each entry of a field moves what it gives into the draft, for the rest to leave alone.
  induction entries generalizing seen usual with
  | nil =>
    obtain ⟨number, count, skip?⟩ := d
    obtain ⟨hn, hc, hs⟩ := h
    cases hn
    cases hc
    cases hs
    rfl
  | cons e entries ih =>
    obtain ⟨key, v⟩ := e
    have hstep : ∀ {field usual'}, fields.find? (·.key == key) = some field →
        field.bind v usual = .ok usual' → (entries.lookup key = none → Given usual' entries d) →
        Json.bindEntries fields seen (((key, v) :: entries).map fun e => (some e.1, e.2)) usual =
          .ok d := by
      intro field usual' hfind hbind hd
      have hrest := hentries.not_mem_tail hfind
      rw [List.map_cons, Json.bindEntries_field hfind (hseen _ List.mem_cons_self) hbind]
      refine ih hentries.tail (fun e he => ?_) (hd (Json.lookup_eq_none hrest))
      rw [List.mem_cons, not_or]
      exact ⟨fun h => hrest (h ▸ List.mem_map_of_mem he), hseen e (List.mem_cons_of_mem _ he)⟩
    obtain ⟨number, count, skip?⟩ := d
    obtain ⟨hn, hc, hs⟩ := h
    dsimp only at hn hc hs
    by_cases hnumber : key = "Number"
    · subst hnumber
      rw [List.lookup_cons_self] at hn
      rw [Json.lookup_cons_of_ne (by decide)] at hc hs
      cases hn
      refine hstep rfl (Json.Field.bind_of (Json.bindWord_ofNat number) _ _) fun hnone =>
        ⟨?_, hc, hs⟩
      rw [hnone]
      exact .absent
    rw [Json.lookup_cons_of_ne (Ne.symm hnumber)] at hn
    by_cases hcount : key = "Count"
    · subst hcount
      rw [List.lookup_cons_self] at hc
      rw [Json.lookup_cons_of_ne (by decide)] at hs
      cases hc
      refine hstep rfl (Json.Field.bind_of (Json.bindWord_ofNat count) _ _) fun hnone =>
        ⟨hn, ?_, hs⟩
      rw [hnone]
      exact .absent
    rw [Json.lookup_cons_of_ne (Ne.symm hcount)] at hc
    by_cases hskip : key = "Skip"
    · subst hskip
      rw [List.lookup_cons_self] at hs
      refine hstep rfl (Json.Field.bind_of hs.bindOption_eq _ _) fun hnone => ⟨hn, hc, ?_⟩
      rw [hnone]
      exact .absent
    rw [Json.lookup_cons_of_ne (Ne.symm hskip)] at hs
    have hother : fields.find? (·.key == key) = none := by
      simp [fields, Json.Field.of, Ne.symm hnumber, Ne.symm hcount, Ne.symm hskip]
    rw [List.map_cons, Json.bindEntries_other hother (hentries.whole _ List.mem_cons_self)]
    exact ih hentries.tail (fun e he => hseen e (List.mem_cons_of_mem _ he)) ⟨hn, hc, hs⟩

end Draft

/-- An object is read as the page that it asks for, or refused with the error of asking for it. -/
theorem ofJson_of_given {entries : List (String × Json)}
    (hentries : Json.FieldsOnce Draft.fields entries) {d : Draft}
    (h : Draft.Given ⟨default.number, default.count, none⟩ entries d) :
    ofJson (.ofEntries entries) =
      ((ofNumber d.number d.count).map (·.withSkip? d.skip?)).mapError .value := by
  have hbind : Json.bindRecord Draft.fields ⟨default.number, default.count, none⟩
      (.ofEntries entries) = .ok d :=
    Draft.bindEntries_of_given hentries (fun _ _ => List.not_mem_nil) h
  rw [← Draft.check_eq]
  simp only [ofJson, hbind, bind, Except.bind]
  cases d.check <;> rfl

/-! ## Page requests that are written -/

theorem Obtained.inBounds {p : PageRequest} (h : p.Obtained) : InBounds p.number p.count := by
  have hnumber : ∀ {number count : UInt64} {q : PageRequest},
      PageRequest.ofNumber number count = .ok q →
        ∀ skip?, InBounds (q.withSkip? skip?).number (q.withSkip? skip?).count := by
    intro number count q hq skip?
    obtain ⟨hbounds, rfl⟩ := ofNumber_eq_ok_iff.mp hq
    cases skip? <;> exact hbounds
  induction h with
  | default => exact ⟨by decide, by decide, by decide⟩
  | ofNumber h => exact hnumber h none
  | withSkip skip _ ih => exact ih
  | @ofJson j p h =>
    unfold PageRequest.ofJson at h
    cases hd : Json.bindRecord Draft.fields ⟨PageRequest.default.number,
        PageRequest.default.count, none⟩ j with
    | error e => simp [hd, bind, Except.bind] at h
    | ok d =>
      simp only [hd, bind, Except.bind, Draft.check_eq] at h
      cases hq : PageRequest.ofNumber d.number d.count with
      | error e =>
        rw [hq] at h
        exact absurd h (by simp [Except.map])
      | ok q =>
        rw [hq] at h
        obtain rfl := Except.ok.inj h
        exact hnumber hq d.skip?

/-- The page requests that there are: those of a number and a size in their bounds, with any number
of items to pass over or none. -/
theorem obtained_iff (p : PageRequest) : p.Obtained ↔ InBounds p.number p.count := by
  constructor
  · exact Obtained.inBounds
  · intro h
    obtain ⟨number, count, skip?⟩ := p
    have hpage := Obtained.ofNumber (ofNumber_of_inBounds h)
    cases skip? with
    | none => exact hpage
    | some skip => exact hpage.withSkip skip

theorem fieldsOnce_written (p : PageRequest) :
    Json.FieldsOnce Draft.fields
      ([("Number", .ofNat p.number.toNat), ("Count", .ofNat p.count.toNat)] ++
        (p.skip?.map fun n => ("Skip", Json.ofNat n.toNat)).toList) := by
  cases p.skip? with
  | none => exact .of_nodup (by simp [Json.isWhole_ofNat]) (by simp)
  | some skip => exact .of_nodup (by simp [Json.isWhole_ofNat]) (by simp)

theorem ofJson_toJson {p : PageRequest} (h : p.Obtained) : ofJson p.toJson = .ok p := by
  have hbounds := h.inBounds
  obtain ⟨number, count, skip?⟩ := p
  have hgiven : Draft.Given ⟨default.number, default.count, none⟩
      ([("Number", .ofNat number.toNat), ("Count", .ofNat count.toNat)] ++
        (skip?.map fun n => ("Skip", Json.ofNat n.toNat)).toList) ⟨number, count, skip?⟩ := by
    cases skip? with
    | none => exact ⟨.given number, .given count, .absent⟩
    | some skip => exact ⟨.given number, .given count, .given skip⟩
  rw [toJson, ofJson_of_given (fieldsOnce_written ⟨number, count, skip?⟩) hgiven,
    ofNumber_of_inBounds hbounds]
  cases skip? <;> rfl

end PageRequest

/-! ## Sort orders and envelopes -/

theorem SortOrder.ofJson_toJson (o : SortOrder) : ofJson o.toJson = .ok o := by
  show Json.bindEntries fields [] [(some "By", _), (some "ThenBy", _), (some "Direction", _)]
    default = .ok o
  rw [Json.bindEntries_field rfl List.not_mem_nil
      (Json.Field.bind_of (Json.bindString_ofString o.key) _ _),
    Json.bindEntries_field rfl (by decide)
      (Json.Field.bind_of (Json.bindOption_ofString o.tieBreaker) _ _),
    Json.bindEntries_field rfl (by decide)
      (Json.Field.bind_of o.direction.bindName_name _ _)]
  rfl

theorem Envelope.ofJson_toJson {e : Envelope} (h : e.paging.Obtained) :
    ofJson e.toJson = .ok e := by
  show Json.bindEntries fields [] [(some "Order", _), (some "Paging", _), (some "Criteria", _)]
    default = .ok e
  rw [Json.bindEntries_field rfl List.not_mem_nil
      (Json.Field.bind_of e.order.ofJson_toJson _ _),
    Json.bindEntries_field rfl (by decide)
      (Json.Field.bind_of (PageRequest.ofJson_toJson h) _ _),
    Json.bindEntries_field rfl (by decide)
      (Json.Field.bind_of (show Json.bindNull .null = .ok () from rfl) _ _)]
  rfl

/-- **Requests are read as they are written, and a page is read exactly if there is such a page.**

    The page requests that there are are those with a number from one on and a size from one to
    25000, and any number of items to pass over or none. Each of them is read back from what it is
    written as, and so is every sort order and every envelope that holds such a page request.

    Of an object with entries in any order, in which the fields of a page request come at most once
    and hold numbers of 64 bits, or for the items to pass over a null: it is read exactly if the
    number and the size, which are one and 25 where they are left out, are in their bounds. It is
    then read as the page of that number and size, with the items to pass over set if they are
    given. Otherwise it is refused with the error of asking for that page: of the number if that is
    zero, whatever the size, and of the size only then. -/
theorem Envelope.binding :
    (∀ p : PageRequest, p.Obtained ↔
      1 ≤ p.number.toNat ∧ 1 ≤ p.count.toNat ∧ p.count.toNat ≤ 25000) ∧
    (∀ p : PageRequest, p.Obtained → PageRequest.ofJson p.toJson = .ok p) ∧
    (∀ o : SortOrder, SortOrder.ofJson o.toJson = .ok o) ∧
    (∀ e : Envelope, e.paging.Obtained → ofJson e.toJson = .ok e) ∧
    ∀ (entries : List (String × Json)) (number count : UInt64) (skip? : Option UInt64),
      Json.FieldsOnce PageRequest.Draft.fields entries →
      Json.GivesWord 1 (entries.lookup "Number") number →
      Json.GivesWord 25 (entries.lookup "Count") count →
      Json.GivesOption none (entries.lookup "Skip") skip? →
      ((∃ p, PageRequest.ofJson (.ofEntries entries) = .ok p) ↔
        1 ≤ number.toNat ∧ 1 ≤ count.toNat ∧ count.toNat ≤ 25000) ∧
      (∀ p, PageRequest.ofNumber number count = .ok p →
        PageRequest.ofJson (.ofEntries entries) = .ok (p.withSkip? skip?)) ∧
      (∀ e, PageRequest.ofNumber number count = .error e →
        PageRequest.ofJson (.ofEntries entries) = .error (.value e)) ∧
      (number = 0 → PageRequest.ofJson (.ofEntries entries) =
        .error (.value (.invalidPagination .number 0 1 (UInt64.size - 1)))) ∧
      (number ≠ 0 → ¬ (1 ≤ count.toNat ∧ count.toNat ≤ 25000) →
        PageRequest.ofJson (.ofEntries entries) =
          .error (.value (.invalidPagination .count count.toNat 1 25000))) := by
  refine ⟨PageRequest.obtained_iff, fun p => PageRequest.ofJson_toJson,
    SortOrder.ofJson_toJson, fun e => ofJson_toJson, ?_⟩
  intro entries number count skip? hentries hn hc hs
  have hread := PageRequest.ofJson_of_given (d := ⟨number, count, skip?⟩) hentries ⟨hn, hc, hs⟩
  have hok : ∀ p, PageRequest.ofNumber number count = .ok p →
      PageRequest.ofJson (.ofEntries entries) = .ok (p.withSkip? skip?) := by
    intro p hp
    rw [hread, hp]
    rfl
  have herror : ∀ e, PageRequest.ofNumber number count = .error e →
      PageRequest.ofJson (.ofEntries entries) = .error (.value e) := by
    intro e he
    rw [hread, he]
    rfl
  refine ⟨⟨?_, ?_⟩, hok, herror, ?_, ?_⟩
  · rintro ⟨p, hp⟩
    cases hq : PageRequest.ofNumber number count with
    | error e =>
      rw [herror e hq] at hp
      exact absurd hp (by simp)
    | ok q => exact (PageRequest.ofNumber_eq_ok_iff.mp hq).1
  · intro hbounds
    exact ⟨_, hok _ (PageRequest.ofNumber_of_inBounds hbounds)⟩
  · rintro rfl
    exact herror _ (PageRequest.ofNumber_zero count)
  · intro hnumber hcount
    exact herror _ (PageRequest.ofNumber_of_count hnumber hcount)

namespace Sample

/-- An object that gives the number of a page after entries that do not count. -/
def secondPage (count : Nat) : List (String × Json) :=
  [("Skip", .null), ("Filter", .array [.bool true]), ("Count", .ofNat count),
    ("Number", .ofNat 2)]

theorem fieldsOnce_secondPage (count : Nat) :
    Json.FieldsOnce PageRequest.Draft.fields (secondPage count) :=
  .of_nodup (by simp [secondPage, Json.isWhole, Json.areWhole, Json.isWhole_ofNat])
    (by simp [secondPage])

/-- The second page of ten is read, of none it is refused for its size. -/
theorem binding_secondPage :
    PageRequest.ofJson (.ofEntries (secondPage 10)) = .ok ⟨2, 10, none⟩ ∧
      PageRequest.ofJson (.ofEntries (secondPage 0)) =
        .error (.value (.invalidPagination .count 0 1 25000)) := by
  have hten := Envelope.binding.2.2.2.2 (secondPage 10) 2 10 none (fieldsOnce_secondPage 10)
    (.given 2) (.given 10) .null
  have hzero := Envelope.binding.2.2.2.2 (secondPage 0) 2 0 none (fieldsOnce_secondPage 0)
    (.given 2) (.given 0) .null
  exact ⟨hten.2.1 ⟨2, 10, none⟩ rfl, hzero.2.2.2.2 (by decide) (by decide)⟩

end Sample

end Winnow
