/-
  Pages of a list and pages of a query.

  The offset of a page is a product that stops at the greatest word, which no list is longer than:
  past that, the offset that is computed and the one that is meant leave nothing of the list
  (`select_eq`). So a page holds the items in the window that its offset in unbounded numbers gives
  (`select_window`).

  A query is run once for each page, and each run filters and sorts anew before it takes its page.
  The runs see the same sorted list, since sorting is a function of its input; so what has to be
  shown is that the windows of one page and the next meet.

  `pages_tile`, the main statement: the pages from the first on, as many as hold the matching rows,
  are together the sorted list of the matching rows. Told apart by their positions in the list of
  rows, the matching rows and no others stand on the pages, each once; and every page before one
  that is not empty is full.
-/
import Winnow.Proofs.Sorting
import Winnow.Query.Envelope

namespace Winnow

/-! ## Pages of a list -/

section Pages

variable {α β : Type}

/-- The items that come after `k` pages of a size, up to that size. -/
def pageOf (size : Nat) (items : List α) (k : Nat) : List α := (items.drop (k * size)).take size

theorem map_pageOf (f : α → β) (size : Nat) (items : List α) (k : Nat) :
    (pageOf size items k).map f = pageOf size (items.map f) k := by
  rw [pageOf, pageOf, List.map_take, List.map_drop]

theorem flatten_pages (size n : Nat) (items : List α) :
    ((List.range n).map (pageOf size items)).flatten = items.take (n * size) := by
  induction n with
  | zero => simp
  | succ n ih =>
    rw [List.range_succ, List.map_append, List.flatten_append, ih, Nat.succ_mul, List.take_add]
    simp [pageOf]

/-- A page before one that is not empty is full. -/
theorem length_pageOf {size : Nat} {items : List α} {j k : Nat} (hjk : j < k)
    (hk : pageOf size items k ≠ []) : (pageOf size items j).length = size := by
  have hlt : k * size < items.length := by
    have hdrop : items.drop (k * size) ≠ [] := fun h => hk (by rw [pageOf, h, List.take_nil])
    exact Nat.lt_of_not_le fun h => hdrop (List.drop_eq_nil_of_le h)
  have hnext : (j + 1) * size ≤ k * size := Nat.mul_le_mul_right size hjk
  rw [Nat.succ_mul] at hnext
  rw [pageOf, List.length_take, List.length_drop]
  omega

/-- The items at the positions from one to another. -/
theorem map_filter_zipIdx (start stop k : Nat) (items : List α) :
    ((items.zipIdx k).filter fun r => start ≤ r.2 && r.2 < stop).map Prod.fst =
      (items.take (stop - k)).drop (start - k) := by
  induction items generalizing k with
  | nil => simp
  | cons x xs ih =>
    have hnext := ih (k + 1)
    rw [List.zipIdx_cons, List.filter_cons]
    by_cases hstop : k < stop
    · rw [show stop - k = stop - (k + 1) + 1 by omega, List.take_succ_cons]
      by_cases hstart : start ≤ k
      · rw [if_pos (by simp [hstart, hstop]), List.map_cons, hnext, show start - k = 0 by omega,
          show start - (k + 1) = 0 by omega]
        rfl
      · rw [if_neg (by simp [hstart]), hnext, show start - k = start - (k + 1) + 1 by omega,
          List.drop_succ_cons]
    · rw [if_neg (by simp [hstop]), hnext, show stop - k = 0 by omega,
        show stop - (k + 1) = 0 by omega, List.take_zero, List.take_zero, List.drop_nil,
        List.drop_nil]

theorem selected_window (offset count : Nat) (items : List α) :
    SortOrder.selected (fun r => offset ≤ r.2 && r.2 < offset + count) items =
      (items.drop offset).take count := by
  rw [SortOrder.selected, map_filter_zipIdx, List.drop_take, Nat.sub_zero, Nat.sub_zero,
    Nat.add_sub_cancel_left]

/-- The rows of a list that a test accepts, sorted with their positions: as rows they are the
sorted rows, and each position is that of one row. -/
theorem exists_placed (before : α → α → Bool) (accepts : α → Bool) (rows : List α) :
    ∃ placed : List (α × Nat),
      placed.map Prod.fst = SortOrder.sortWith before (rows.filter accepts) ∧ placed.Nodup ∧
      ∀ r, r ∈ placed ↔ r ∈ rows.zipIdx ∧ accepts r.1 = true := by
  have hperm := SortOrder.perm_sortWith (fun a b : α × Nat => before a.1 b.1)
    (rows.zipIdx.filter fun r => accepts r.1)
  have hpositions : rows.zipIdx.Nodup := by
    refine (SortOrder.pairwise_zipIdx rows 0).imp ?_
    rintro a b hab rfl
    exact Nat.lt_irrefl _ hab
  refine ⟨_, ?_, hperm.nodup_iff.mpr (hpositions.filter _), fun r => ?_⟩
  · rw [SortOrder.map_sortWith Prod.fst before, SortOrder.filter_eq_selected accepts rows,
      SortOrder.selected]
  · rw [hperm.mem_iff, List.mem_filter]

end Pages

/-! ## The window of a page -/

namespace PageRequest

/-- The number of items before the page in unbounded numbers: those that it passes over as it says,
or those of the pages before it. -/
def offset (p : PageRequest) : Nat :=
  (p.skip?.map UInt64.toNat).getD ((p.number.toNat - 1) * p.count.toNat)

theorem toNat_saturatingMul (a b : UInt64) :
    (saturatingMul a b).toNat = min (a.toNat * b.toNat) (UInt64.size - 1) := by
  unfold saturatingMul
  split
  · next h =>
    rw [UInt64.toNat_mul, Nat.mod_eq_of_lt h]
    omega
  · next h =>
    rw [UInt64.toNat_ofNat_of_lt' (by decide)]
    omega

theorem toNat_sub_one {number : UInt64} (h : 0 < number.toNat) :
    (number - 1).toNat = number.toNat - 1 :=
  UInt64.toNat_sub_of_le number 1 (UInt64.le_iff_toNat_le.mpr h)

/-- The offset that is computed is the one that is meant, or the greatest word if this is less. -/
theorem toNat_skip {p : PageRequest} (h : 0 < p.number.toNat) :
    p.skip.toNat = min p.offset (UInt64.size - 1) := by
  obtain ⟨number, count, skip?⟩ := p
  cases skip? with
  | none =>
    show (saturatingMul (number - 1) count).toNat = _
    rw [toNat_saturatingMul, toNat_sub_one h]
    rfl
  | some n =>
    have hword := n.toNat_lt_size
    show n.toNat = min n.toNat (UInt64.size - 1)
    omega

/-- A page holds the items after its offset, whatever the size of the page: where the offset stops
at the greatest word, no items are left. -/
theorem select_eq {α : Type} {items : List α} (hitems : items.length < UInt64.size)
    {p : PageRequest} (h : 0 < p.number.toNat) :
    p.select items = (items.drop p.offset).take p.count.toNat := by
  rw [select, toNat_skip h]
  by_cases hoffset : p.offset ≤ UInt64.size - 1
  · rw [Nat.min_eq_left hoffset]
  · rw [Nat.min_eq_right (Nat.le_of_not_le hoffset), List.drop_eq_nil_of_le (by omega),
      List.drop_eq_nil_of_le (by omega)]

/-- The number and the size of a page are accepted if they are in their bounds. -/
theorem ofNumber_of_bounds {number count : UInt64} (hnumber : 0 < number.toNat)
    (hcount : 0 < count.toNat) (hmax : count.toNat ≤ maxCount) :
    ofNumber number count = .ok ⟨number, count, none⟩ := by
  have hne : ∀ {w : UInt64}, 0 < w.toNat → w ≠ 0 := by
    rintro w hw rfl
    exact absurd hw (by decide)
  rw [ofNumber, if_neg (hne hnumber), if_neg]
  rintro (h | h)
  · exact hne hcount h
  · exact absurd h (Nat.not_lt.mpr hmax)

/-- The page of a number holds the items after the pages before it. -/
theorem select_ofNumber {α : Type} {items : List α} (hitems : items.length < UInt64.size)
    {k : Nat} (hk : k + 1 < UInt64.size) (count : UInt64) :
    (⟨UInt64.ofNat (k + 1), count, none⟩ : PageRequest).select items =
      pageOf count.toNat items k := by
  have hnumber : (UInt64.ofNat (k + 1)).toNat = k + 1 := UInt64.toNat_ofNat_of_lt' hk
  rw [select_eq hitems (by rw [hnumber]; exact Nat.succ_pos k), pageOf, offset, hnumber]
  rfl

/-- **A page is the window of its offset.**

    For a number of at least one, a size from one to 25000, a number of items to pass over or none,
    and a list of fewer than 2⁶⁴ items: there is such a page. Its number less one is not negative,
    and the offset that is computed from it is the one in unbounded numbers, or the greatest word
    if this is less. The page holds the items at the positions from its offset in unbounded numbers
    on, as many as its size, in their order. -/
theorem select_window {α : Type} {number count : UInt64} (hnumber : 1 ≤ number.toNat)
    (hcount : 1 ≤ count.toNat) (hmax : count.toNat ≤ 25000) (skip? : Option UInt64)
    {items : List α} (hitems : items.length < UInt64.size) :
    ∃ first page : PageRequest, ofNumber number count = .ok first ∧
      page = skip?.elim first first.withSkip ∧ page.count = count ∧
      page.offset = (skip?.map UInt64.toNat).getD ((number.toNat - 1) * count.toNat) ∧
      (page.number - 1).toNat + 1 = number.toNat ∧
      page.skip.toNat = min page.offset (UInt64.size - 1) ∧
      page.select items = SortOrder.selected
        (fun r => page.offset ≤ r.2 && r.2 < page.offset + count.toNat) items := by
  refine ⟨⟨number, count, none⟩, ⟨number, count, skip?⟩, ofNumber_of_bounds hnumber hcount hmax,
    by cases skip? <;> rfl, rfl, rfl, ?_, toNat_skip hnumber, ?_⟩
  · rw [toNat_sub_one hnumber]
    exact Nat.sub_add_cancel hnumber
  · rw [selected_window]
    exact select_eq hitems hnumber

end PageRequest

/-! ## Runs of a query -/

namespace Envelope

variable {ι ρ : Type} [Record ρ]

/-- The pages from the first to a number, each from a run of its own. -/
def pages (family : Family ι) (i : ι) (o : Options) (criteria : CriteriaSet) (order : SortOrder)
    (count : UInt64) (n : UInt64) (rows : List ρ) : Except Error (List (List ρ)) :=
  (List.range n.toNat).mapM fun k => do
    let paging ← PageRequest.ofNumber (UInt64.ofNat (k + 1)) count
    apply ⟨order, paging⟩ family i o criteria rows

theorem mapM_eq_ok_map {α β ε : Type} {f : α → Except ε β} {g : α → β} {as : List α}
    (h : ∀ a ∈ as, f a = .ok (g a)) : as.mapM f = .ok (as.map g) := by
  induction as with
  | nil => rfl
  | cons a as ih =>
    rw [List.mapM_cons, h a List.mem_cons_self, ih fun b hb => h b (List.mem_cons_of_mem _ hb)]
    rfl

/-- A query filters, sorts, and takes its page. -/
theorem apply_of_keys {e : Envelope} {family : Family ι} {i : ι} {o : Options}
    {criteria : CriteriaSet} {p : Predicate} {k : SortOrder.Keys}
    (hp : Predicate.compile family o i criteria = .ok p) (hk : e.order.keys family i = .ok k)
    (rows : List ρ) :
    e.apply family i o criteria rows =
      .ok (e.paging.select (SortOrder.sortWith
        (fun a b => e.order.direction.apply (e.order.compareBy family i a b) == .lt)
        (rows.filter p.accepts))) := by
  simp only [apply, hp, bind, Except.bind, SortOrder.sort_of_keys hk]
  rfl

/-- The runs for the pages of one query succeed, and each takes its page of one sorted list. -/
theorem pages_of_keys {family : Family ι} {i : ι} {o : Options} {criteria : CriteriaSet}
    {order : SortOrder} {p : Predicate} {k : SortOrder.Keys} {count n : UInt64} {rows : List ρ}
    (hp : Predicate.compile family o i criteria = .ok p) (hk : order.keys family i = .ok k)
    (hcount : 0 < count.toNat) (hmax : count.toNat ≤ PageRequest.maxCount)
    (hrows : rows.length < UInt64.size) :
    pages family i o criteria order count n rows =
      .ok ((List.range n.toNat).map (pageOf count.toNat (SortOrder.sortWith
        (fun a b => order.direction.apply (order.compareBy family i a b) == .lt)
        (rows.filter p.accepts)))) := by
  apply mapM_eq_ok_map
  intro j hj
  have hnumber : j + 1 < UInt64.size := by
    have hlast := List.mem_range.mp hj
    have hword := n.toNat_lt_size
    omega
  have hlength : (SortOrder.sortWith
      (fun a b => order.direction.apply (order.compareBy family i a b) == .lt)
      (rows.filter p.accepts)).length < UInt64.size := by
    rw [(SortOrder.perm_sortWith _ _).length_eq]
    exact Nat.lt_of_le_of_lt (List.length_filter_le _ _) hrows
  have hpaging : PageRequest.ofNumber (UInt64.ofNat (j + 1)) count =
      .ok ⟨UInt64.ofNat (j + 1), count, none⟩ := by
    refine PageRequest.ofNumber_of_bounds ?_ hcount hmax
    rw [UInt64.toNat_ofNat_of_lt' hnumber]
    exact Nat.succ_pos j
  have hrun := apply_of_keys (e := ⟨order, ⟨UInt64.ofNat (j + 1), count, none⟩⟩) hp hk rows
  rw [PageRequest.select_ofNumber hlength hnumber] at hrun
  rw [hpaging]
  exact hrun

/-- The pages of a query tile its result. A list of rows is no longer than a word can say. -/
theorem pages_tile {family : Family ι} {i : ι} {o : Options} {criteria : CriteriaSet}
    {order : SortOrder} {p : Predicate} {count n : UInt64} {rows : List ρ}
    (hp : Predicate.compile family o i criteria = .ok p)
    (hpaths : ∀ path ∈ order.paths, SortOrder.NamesScalar family i path)
    (hcount : 1 ≤ count.toNat) (hmax : count.toNat ≤ 25000)
    (hrows : rows.length < UInt64.size)
    (hn : (rows.filter p.accepts).length ≤ n.toNat * count.toNat) :
    ∃ sorted parts, order.sort family i (rows.filter p.accepts) = .ok sorted ∧
      pages family i o criteria order count n rows = .ok parts ∧
      parts.flatten = sorted ∧
      (∃ placed : List (List (ρ × Nat)), placed.map (List.map Prod.fst) = parts ∧
        placed.flatten.Nodup ∧
        ∀ r, r ∈ placed.flatten ↔ r ∈ rows.zipIdx ∧ p.accepts r.1 = true) ∧
      parts.Pairwise fun earlier later => later ≠ [] → earlier.length = count.toNat := by
  obtain ⟨k, hk⟩ := SortOrder.exists_keys_iff.mpr hpaths
  refine ⟨_, _, SortOrder.sort_of_keys hk _, pages_of_keys hp hk hcount hmax hrows, ?_, ?_, ?_⟩
  · rw [flatten_pages, List.take_of_length_le]
    rw [(SortOrder.perm_sortWith _ _).length_eq]
    exact hn
  · obtain ⟨placed, hfst, hnodup, hmem⟩ := exists_placed
      (fun a b => order.direction.apply (order.compareBy family i a b) == .lt) p.accepts rows
    have hall : ((List.range n.toNat).map (pageOf count.toNat placed)).flatten = placed := by
      rw [flatten_pages, List.take_of_length_le]
      rw [← List.length_map Prod.fst, hfst, (SortOrder.perm_sortWith _ _).length_eq]
      exact hn
    refine ⟨(List.range n.toNat).map (pageOf count.toNat placed), ?_, ?_, ?_⟩
    · rw [List.map_map]
      refine List.map_congr_left fun j _ => ?_
      show (pageOf count.toNat placed j).map Prod.fst = _
      rw [map_pageOf, hfst]
    · rw [hall]
      exact hnodup
    · rw [hall]
      exact hmem
  · rw [List.pairwise_map]
    exact List.pairwise_lt_range.imp fun hjk hk => length_pageOf hjk hk

end Envelope

/-! ## The last page, and two pages of orders -/

namespace Sample

/-- The offset of the last page of the greatest size is more than a word. -/
theorem select_window_lastPage :
    1 ≤ (18446744073709551615 : UInt64).toNat ∧ 1 ≤ (25000 : UInt64).toNat ∧
    (25000 : UInt64).toNat ≤ 25000 ∧ [5, 7, 9].length < UInt64.size ∧
    ∃ page : PageRequest, PageRequest.ofNumber 18446744073709551615 25000 = .ok page ∧
      page.skip.toNat = 18446744073709551615 ∧ page.offset = 18446744073709551614 * 25000 ∧
      page.select [5, 7, 9] = [] := by
  have hnumber : 1 ≤ (18446744073709551615 : UInt64).toNat := by decide
  have hcount : 1 ≤ (25000 : UInt64).toNat := by decide
  have hmax : (25000 : UInt64).toNat ≤ 25000 := by decide
  have hitems : [5, 7, 9].length < UInt64.size := by decide
  obtain ⟨_, page, hpage, rfl, -, hoffset, -, hskip, hselect⟩ :=
    PageRequest.select_window hnumber hcount hmax none hitems
  refine ⟨hnumber, hcount, hmax, hitems, page, hpage, ?_, hoffset, ?_⟩
  · rw [hoffset] at hskip
    exact hskip
  · rw [hoffset] at hselect
    exact hselect

/-- All orders but one. -/
def notSeven : CriteriaSet :=
  ⟨[⟨"id", .notEqual, .and, .scalar (.number (.signed 7)), .null, .scalar .number "i32"⟩]⟩

theorem pages_tile_orders :
    ∃ p sorted parts, Predicate.compile shop ⟨false⟩ .order notSeven = .ok p ∧
      byNote.sort shop .order (orders.filter p.accepts) = .ok sorted ∧
      Envelope.pages shop .order ⟨false⟩ notSeven byNote 2 2 orders = .ok parts ∧
      parts.flatten = sorted ∧
      (∃ placed : List (List (Row × Nat)), placed.map (List.map Prod.fst) = parts ∧
        placed.flatten.Nodup ∧
        ∀ r, r ∈ placed.flatten ↔ r ∈ orders.zipIdx ∧ p.accepts r.1 = true) ∧
      parts.Pairwise fun earlier later => later ≠ [] → earlier.length = 2 := by
  obtain ⟨p, hp⟩ : ∃ p, Predicate.compile shop ⟨false⟩ .order notSeven = .ok p := ⟨_, rfl⟩
  have hlength : (orders.filter p.accepts).length ≤ 4 := List.length_filter_le _ _
  obtain ⟨sorted, parts, hsort, hpages, hflatten, hplaced, hfull⟩ :=
    Envelope.pages_tile hp namesScalar_byNote (show 1 ≤ (2 : UInt64).toNat by decide)
      (show (2 : UInt64).toNat ≤ 25000 by decide) (show orders.length < UInt64.size by decide)
      (n := 2) hlength
  exact ⟨p, sorted, parts, hp, hsort, hpages, hflatten, hplaced, hfull⟩

end Sample

end Winnow
