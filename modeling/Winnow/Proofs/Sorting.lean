/-
  Sorting rows by a sort order.

  `keyValue` is what the path of a sort key names in a row, found from the text of the path and the
  schema; `compareBy` compares two rows by the key and then by the tie-breaker. Both are stated
  without resolved paths, and `compare_of_keys` says that resolved paths read the same.

  `sort_sortedStably`, the main statement: sorting succeeds exactly if every path names a single
  value, whatever the rows are and however many; and rows that conform to the schema, where the
  numbers under each key are of one representation and not NaNs, come out in the direction of the
  comparison, with ties in their order and nulls at the end, or at the beginning if descending.
-/
import Winnow.Proofs.KeyOrder

namespace Winnow

namespace SortOrder

variable {ι ρ σ : Type}

/-! ## The paths of a sort order -/

/-- The paths that rows are sorted by. -/
def paths (o : SortOrder) : List String := o.key :: o.tieBreaker.toList

/-- The path names a single value of the record type. -/
def NamesScalar (family : Family ι) (i : ι) (path : String) : Prop :=
  ∃ segments r kind, splitSegments (trimChars path.toList) path = .ok segments ∧
    family.resolve i segments rowParameter = .ok r ∧ r.type = .scalar kind

theorem resolveKey_eq_ok_iff {family : Family ι} {i : ι} {path : String} {p : MemberPath} :
    resolveKey family i path = .ok p ↔
      ∃ segments r kind, splitSegments (trimChars path.toList) path = .ok segments ∧
        family.resolve i segments rowParameter = .ok r ∧ r.type = .scalar kind ∧ p = r.path := by
  unfold resolveKey
  constructor
  · intro h
    cases hs : splitSegments (trimChars path.toList) path with
    | error e => rw [hs] at h; exact absurd h (by simp [bind, Except.bind])
    | ok segments =>
      rw [hs] at h
      cases hr : family.resolve i segments rowParameter with
      | error e => simp [bind, Except.bind, hr] at h
      | ok r =>
        simp only [bind, Except.bind, hr] at h
        split at h
        · next kind hkind => exact ⟨segments, r, kind, rfl, hr, hkind, (Except.ok.inj h).symm⟩
        · exact absurd h (by simp)
  · rintro ⟨segments, r, kind, hs, hr, hkind, rfl⟩
    simp only [hs, hr, bind, Except.bind, hkind]
    rfl

theorem exists_resolveKey_iff {family : Family ι} {i : ι} {path : String} :
    (∃ p, resolveKey family i path = .ok p) ↔ NamesScalar family i path := by
  constructor
  · rintro ⟨p, hp⟩
    obtain ⟨segments, r, kind, hs, hr, hkind, -⟩ := resolveKey_eq_ok_iff.mp hp
    exact ⟨segments, r, kind, hs, hr, hkind⟩
  · rintro ⟨segments, r, kind, hs, hr, hkind⟩
    exact ⟨r.path, resolveKey_eq_ok_iff.mpr ⟨segments, r, kind, hs, hr, hkind, rfl⟩⟩

theorem keys_eq_ok_iff {family : Family ι} {i : ι} {o : SortOrder} {k : Keys} :
    o.keys family i = .ok k ↔
      resolveKey family i o.key = .ok k.primary ∧
        ((o.tieBreaker = none ∧ k.secondary = none) ∨
          ∃ path p, o.tieBreaker = some path ∧ k.secondary = some p ∧
            resolveKey family i path = .ok p) := by
  obtain ⟨primary, secondary⟩ := k
  unfold keys
  cases resolveKey family i o.key with
  | error e => simp [bind, Except.bind]
  | ok p =>
    cases o.tieBreaker with
    | none => simp [bind, Except.bind, pure, Except.pure, eq_comm]
    | some path =>
      cases hp : resolveKey family i path <;>
        simp [bind, Except.bind, pure, Except.pure, hp, eq_comm]

/-- The paths of a sort order can be resolved exactly if each names a single value. -/
theorem exists_keys_iff {family : Family ι} {i : ι} {o : SortOrder} :
    (∃ k, o.keys family i = .ok k) ↔ ∀ path ∈ o.paths, NamesScalar family i path := by
  constructor
  · rintro ⟨k, hk⟩ path hpath
    obtain ⟨hprimary, hsecondary⟩ := keys_eq_ok_iff.mp hk
    rcases List.mem_cons.mp hpath with rfl | hpath
    · exact exists_resolveKey_iff.mp ⟨_, hprimary⟩
    · obtain ⟨hnone, -⟩ | ⟨path', p, hsome, -, hp⟩ := hsecondary
      · simp [hnone] at hpath
      · obtain rfl : path = path' := by simpa [hsome] using hpath
        exact exists_resolveKey_iff.mp ⟨p, hp⟩
  · intro h
    obtain ⟨primary, hprimary⟩ := exists_resolveKey_iff.mpr (h o.key List.mem_cons_self)
    cases hsome : o.tieBreaker with
    | none => exact ⟨⟨primary, none⟩, keys_eq_ok_iff.mpr ⟨hprimary, Or.inl ⟨hsome, rfl⟩⟩⟩
    | some path =>
      obtain ⟨p, hp⟩ := exists_resolveKey_iff.mpr (h path (by simp [paths, hsome]))
      exact ⟨⟨primary, some p⟩,
        keys_eq_ok_iff.mpr ⟨hprimary, Or.inr ⟨path, p, hsome, rfl, hp⟩⟩⟩

variable [Record ρ] [Record σ]

/-! ## Comparing rows -/

/-- What the path of a sort key names in a row. -/
def keyValue (family : Family ι) (i : ι) (path : String) (row : ρ) : Reading ρ :=
  match splitSegments (trimChars path.toList) path with
  | .ok segments => family.valueAt i segments row
  | .error _ => .null

/-- The order of two rows by what a path names in them. -/
def compareAt (family : Family ι) (i : ι) (path : String) (a b : ρ) : Ordering :=
  (keyValue family i path a).compareKeys (keyValue family i path b)

/-- The order of two rows by the key, and if they tie, by the tie-breaker. -/
def compareBy (family : Family ι) (i : ι) (o : SortOrder) (a b : ρ) : Ordering :=
  match o.tieBreaker with
  | none => compareAt family i o.key a b
  | some path => (compareAt family i o.key a b).then (compareAt family i path a b)

theorem read_of_resolveKey {family : Family ι} {i : ι} {path : String} {p : MemberPath}
    (h : resolveKey family i path = .ok p) (row : ρ) :
    p.read row = keyValue family i path row := by
  obtain ⟨segments, r, kind, hs, hr, -, rfl⟩ := resolveKey_eq_ok_iff.mp h
  rw [keyValue, hs]
  exact (Family.resolve_eq_ok_iff.mp hr).read_eq_valueAt row

/-- Resolved paths compare rows as the paths of the sort order do. -/
theorem compare_of_keys {family : Family ι} {i : ι} {o : SortOrder} {k : Keys}
    (h : o.keys family i = .ok k) (a b : ρ) : k.compare a b = o.compareBy family i a b := by
  have hread : ∀ {path p}, resolveKey family i path = .ok p →
      (p.read a).compareKeys (p.read b) = compareAt family i path a b := by
    intro path p hp
    rw [read_of_resolveKey hp a, read_of_resolveKey hp b]
    rfl
  obtain ⟨hprimary, ⟨hnone, hsecondary⟩ | ⟨path, p, hsome, hsecondary, hp⟩⟩ := keys_eq_ok_iff.mp h
  · simp only [Keys.compare, compareBy, hnone, hsecondary]
    exact hread hprimary
  · simp only [Keys.compare, compareBy, hsome, hsecondary]
    rw [hread hprimary, hread hp]

/-! ## Keys of conforming rows -/

/-- The numbers that a path names in rows are of one representation, and none is a NaN. -/
def UniformNumbers (family : Family ι) (i : ι) (path : String) (rows : List ρ) : Prop :=
  ∃ form, ∀ row ∈ rows, (keyValue family i path row).HasForm form

/-- What a path names in a conforming row is a sort key of the member's kind. -/
theorem isKey_keyValue {family : Family ι} {i : ι} {path : String} {segments : List String}
    {r : ResolvedMember ι} {kind : Kind} {form : NumberForm}
    (hs : splitSegments (trimChars path.toList) path = .ok segments)
    (hr : family.resolve i segments rowParameter = .ok r) (hkind : r.type = .scalar kind)
    {row : ρ} (hrow : family.Conforms i row) (hform : (keyValue family i path row).HasForm form) :
    (keyValue family i path row).IsKey kind form := by
  refine Reading.isKey_of_kind? ?_ hform
  rw [keyValue, hs]
  exact ((Family.resolve_eq_ok_iff.mp hr).scalar_valueAt hkind hrow).imp_left And.left

/-- A path orders conforming rows, up to ties. -/
theorem preordersOn_compareAt {family : Family ι} {i : ι} {path : String} {rows : List ρ}
    (hpath : NamesScalar family i path) (hconforms : ∀ row ∈ rows, family.Conforms i row)
    (huniform : UniformNumbers family i path rows) :
    PreordersOn (· ∈ rows) (compareAt family i path : ρ → ρ → Ordering) := by
  obtain ⟨segments, r, kind, hs, hr, hkind⟩ := hpath
  obtain ⟨form, hform⟩ := huniform
  refine ((Reading.preordersOn_compareKeys kind form).comap (keyValue family i path)).mono ?_
  exact fun row hrow => isKey_keyValue hs hr hkind (hconforms row hrow) (hform row hrow)

/-- A sort order orders conforming rows, up to ties. -/
theorem preordersOn_compareBy {family : Family ι} {i : ι} {o : SortOrder} {rows : List ρ}
    (hpaths : ∀ path ∈ o.paths, NamesScalar family i path)
    (hconforms : ∀ row ∈ rows, family.Conforms i row)
    (huniform : ∀ path ∈ o.paths, UniformNumbers family i path rows) :
    PreordersOn (· ∈ rows) (o.compareBy family i : ρ → ρ → Ordering) := by
  have hat : ∀ path ∈ o.paths,
      PreordersOn (· ∈ rows) (compareAt family i path : ρ → ρ → Ordering) :=
    fun path hpath => preordersOn_compareAt (hpaths path hpath) hconforms (huniform path hpath)
  have hkey := hat o.key List.mem_cons_self
  unfold compareBy
  cases hsome : o.tieBreaker with
  | none => exact hkey
  | some path => exact hkey.lex (hat path (by simp [paths, hsome]))

/-! ## Nulls -/

/-- Rows that do not tie on the key are compared by it alone. -/
theorem compareBy_of_ne_eq {family : Family ι} {i : ι} {o : SortOrder} {a b : ρ}
    (h : compareAt family i o.key a b ≠ .eq) :
    o.compareBy family i a b = compareAt family i o.key a b := by
  rw [compareBy]
  split
  · rfl
  · cases ho : compareAt family i o.key a b with
    | eq => exact absurd ho h
    | _ => rfl

/-- A row with a null key comes after one that has a value there. -/
theorem compareBy_of_null_left {family : Family ι} {i : ι} {o : SortOrder} {a b : ρ}
    (ha : keyValue family i o.key a = .null) (hb : keyValue family i o.key b ≠ .null) :
    o.compareBy family i a b = .gt := by
  have hkey : compareAt family i o.key a b = .gt := by
    rw [compareAt, ha]
    cases hf : keyValue family i o.key b with
    | null => exact absurd hf hb
    | _ => rfl
  rw [compareBy_of_ne_eq (by simp [hkey]), hkey]

theorem compareBy_of_null_right {family : Family ι} {i : ι} {o : SortOrder} {a b : ρ}
    (ha : keyValue family i o.key a ≠ .null) (hb : keyValue family i o.key b = .null) :
    o.compareBy family i a b = .lt := by
  have hkey : compareAt family i o.key a b = .lt := by
    rw [compareAt, hb]
    cases hf : keyValue family i o.key a with
    | null => exact absurd hf ha
    | _ => rfl
  rw [compareBy_of_ne_eq (by simp [hkey]), hkey]

/-! ## Sorting -/

theorem sort_eq_map (family : Family ι) (i : ι) (o : SortOrder) (rows : List ρ) :
    o.sort family i rows = (o.keys family i).map fun k =>
      sortWith (fun a b => o.direction.apply (k.compare a b) == .lt) rows := by
  unfold sort
  cases o.keys family i <;> rfl

theorem sort_of_keys {family : Family ι} {i : ι} {o : SortOrder} {k : Keys}
    (h : o.keys family i = .ok k) (rows : List ρ) :
    o.sort family i rows =
      .ok (sortWith (fun a b => o.direction.apply (o.compareBy family i a b) == .lt) rows) := by
  rw [sort_eq_map, h]
  simp only [Except.map, compare_of_keys h]

/-- Rows are sorted by the comparison of the sort order if its paths name single values. -/
theorem sort_of_paths {family : Family ι} {i : ι} {o : SortOrder}
    (hpaths : ∀ path ∈ o.paths, NamesScalar family i path) (rows : List ρ) :
    o.sort family i rows =
      .ok (sortWith (fun a b => o.direction.apply (o.compareBy family i a b) == .lt) rows) := by
  obtain ⟨k, hk⟩ := exists_keys_iff.mpr hpaths
  exact sort_of_keys hk rows

/-- Sorting fails or succeeds whatever the rows are, and succeeds exactly if every path names a
single value. Rows that conform, with uniform numbers under each key, come out sorted stably, with
the null keys at the end, or at the beginning if descending. -/
theorem sort_sortedStably (family : Family ι) (i : ι) (o : SortOrder) :
    (∀ (rows : List ρ) (others : List σ),
      (o.sort family i rows).map (fun _ => ()) = (o.sort family i others).map fun _ => ()) ∧
    (∀ rows : List ρ, (∃ sorted, o.sort family i rows = .ok sorted) ↔
      ∀ path ∈ o.paths, NamesScalar family i path) ∧
    ∀ rows : List ρ, (∀ path ∈ o.paths, NamesScalar family i path) →
      (∀ row ∈ rows, family.Conforms i row) →
      (∀ path ∈ o.paths, UniformNumbers family i path rows) →
      ∃ sorted, o.sort family i rows = .ok sorted ∧
        SortedStably o.direction (o.compareBy family i) rows sorted ∧
        (o.direction = .asc → sorted.Pairwise fun a b =>
          keyValue family i o.key a = .null → keyValue family i o.key b = .null) ∧
        (o.direction = .desc → sorted.Pairwise fun a b =>
          keyValue family i o.key b = .null → keyValue family i o.key a = .null) := by
  refine ⟨?_, ?_, ?_⟩
  · intro rows others
    rw [sort_eq_map, sort_eq_map]
    cases o.keys family i <;> rfl
  · intro rows
    rw [← exists_keys_iff, sort_eq_map]
    cases o.keys family i <;> simp [Except.map]
  · intro rows hpaths hconforms huniform
    obtain ⟨k, hk⟩ := exists_keys_iff.mpr hpaths
    have hsorted := sortedStably_sortWith (preordersOn_compareBy hpaths hconforms huniform)
      o.direction fun row hrow => hrow
    refine ⟨_, sort_of_keys hk rows, hsorted, ?_, ?_⟩
    · intro hd
      refine hsorted.ordered.imp fun {a b} hab ha => ?_
      by_cases hb : keyValue family i o.key b = .null
      · exact hb
      · exact absurd (by rw [hd, compareBy_of_null_left ha hb]; rfl) hab
    · intro hd
      refine hsorted.ordered.imp fun {a b} hab hb => ?_
      by_cases ha : keyValue family i o.key a = .null
      · exact ha
      · exact absurd (by rw [hd, compareBy_of_null_right ha hb]; rfl) hab

end SortOrder

/-! ## Orders by their notes -/

namespace Sample

/-- Orders by their notes and then by their numbers, descending. -/
def byNote : SortOrder := ⟨"note", some "Id", .desc⟩

/-- Two orders without a note, between which two stand that have one. -/
def orders : List Row :=
  [order (.signed 2) .null, order (.signed 7) (.scalar (.text "fragile")),
    order (.signed 5) (.scalar (.text "cold")), order (.signed 2) .null]

theorem splitSegments_note : splitSegments (trimChars "note".toList) "note" = .ok ["note"] := by
  rfl

theorem splitSegments_id : splitSegments (trimChars "Id".toList) "Id" = .ok ["Id"] := by
  rfl

theorem keyValue_note (id : Number) (note : Reading Row) :
    SortOrder.keyValue shop .order "note" (order id note) = note := by
  rw [SortOrder.keyValue, splitSegments_note]
  rfl

theorem keyValue_id (id : Number) (note : Reading Row) :
    SortOrder.keyValue shop .order "Id" (order id note) = .scalar (.number id) := by
  rw [SortOrder.keyValue, splitSegments_id]
  rfl

theorem namesScalar_byNote : ∀ path ∈ byNote.paths, SortOrder.NamesScalar shop .order path := by
  intro path hpath
  rcases List.mem_cons.mp hpath with rfl | hpath
  · exact ⟨_, _, .text, splitSegments_note, rfl, rfl⟩
  · rw [List.mem_singleton.mp hpath]
    exact ⟨_, _, .number, splitSegments_id, rfl, rfl⟩

theorem exists_order_of_mem {row : Row} (h : row ∈ orders) :
    ∃ n note, row = order (.signed n) note ∧ (note = .null ∨ note.kind? = some .text) := by
  simp only [orders, List.mem_cons, List.not_mem_nil, or_false] at h
  rcases h with rfl | rfl | rfl | rfl
  · exact ⟨2, _, rfl, Or.inl rfl⟩
  · exact ⟨7, _, rfl, Or.inr rfl⟩
  · exact ⟨5, _, rfl, Or.inr rfl⟩
  · exact ⟨2, _, rfl, Or.inl rfl⟩

theorem conforms_orders : ∀ row ∈ orders, shop.Conforms .order row := by
  intro row hrow
  obtain ⟨n, note, rfl, hnote⟩ := exists_order_of_mem hrow
  exact conforms_order _ hnote

theorem uniformNumbers_orders :
    ∀ path ∈ byNote.paths, SortOrder.UniformNumbers shop .order path orders := by
  intro path hpath
  refine ⟨.signed, fun row hrow n => ?_⟩
  obtain ⟨m, note, rfl, hnote⟩ := exists_order_of_mem hrow
  rcases List.mem_cons.mp hpath with rfl | hpath
  · show SortOrder.keyValue shop .order "note" _ = _ → _
    rw [keyValue_note]
    rintro rfl
    rcases hnote with hnote | hnote
    · exact absurd hnote (by simp)
    · exact absurd hnote (by simp [Reading.kind?, Scalar.kind])
  · rw [List.mem_singleton.mp hpath, keyValue_id]
    intro h
    injection h with h
    injection h with h
    subst h
    exact ⟨rfl, rfl⟩

theorem sort_sortedStably_orders :
    (∀ path ∈ byNote.paths, SortOrder.NamesScalar shop .order path) ∧
    (∀ row ∈ orders, shop.Conforms .order row) ∧
    (∀ path ∈ byNote.paths, SortOrder.UniformNumbers shop .order path orders) ∧
    ∃ sorted, byNote.sort shop .order orders = .ok sorted ∧
      SortOrder.SortedStably .desc (byNote.compareBy shop .order) orders sorted := by
  refine ⟨namesScalar_byNote, conforms_orders, uniformNumbers_orders, ?_⟩
  obtain ⟨sorted, hsort, hsorted, -⟩ :=
    (SortOrder.sort_sortedStably (σ := Row) shop .order byNote).2.2
      orders namesScalar_byNote conforms_orders uniformNumbers_orders
  exact ⟨sorted, hsort, hsorted⟩

end Sample

end Winnow
