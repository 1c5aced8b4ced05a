/-
  Sorts of sorted and of reversed lists.

  A stable sort by a comparison that orders the records up to ties has one outcome: records with
  their positions stand so that each precedes all that follow it (`Precedes`), and only one
  arrangement of them does (`eq_of_pairwise_precedes`). So two ways to sort are the same if both
  lead to such an arrangement, and this is what each law here comes down to.

  * `sortWith_lex`: a sort by two comparisons is a sort by the second and then one by the first,
    since in a list that is sorted by the second, records that tie in the first already stand as
    the second has them.
  * `sortWith_sortWith`: a sorted list stays as it is.
  * `sortWith_reverse`: a descending sort is an ascending sort of the reversed list, reversed. The
    two reversals undo each other on records that tie, and on no others.
  * `filter_ties_sortWith`: records that tie stay in their order.

  `sort_tieBroken` and `sort_mirrored`, the main statements, say this of rows that conform to their
  schema, with uniform numbers under each key.
-/
import Winnow.Proofs.Sorting

namespace Winnow

variable {α : Type}

/-- Records that tie with one record tie with each other. -/
theorem PreordersOn.eq_of_ties {S : α → Prop} {cmp : α → α → Ordering} (h : PreordersOn S cmp)
    {r a b : α} (hr : S r) (ha : S a) (hb : S b) (hra : cmp r a = .eq) (hrb : cmp r b = .eq) :
    cmp a b = .eq := by
  have hle : ∀ {x y : α}, S x → S y → cmp r x = .eq → cmp r y = .eq →
      (cmp x y).isLE = true := by
    intro x y hx hy hrx hry
    refine h.trans hx hr hy ?_ (by rw [hry]; rfl)
    rw [h.swap hr hx, hrx]
    rfl
  have hba := hle hb ha hrb hra
  rw [h.swap ha hb] at hba
  exact Ordering.eq_eq_of_isLE_of_isLE_swap (hle ha hb hra hrb) hba

namespace SortOrder

/-! ## Two comparisons -/

section Lists

variable {S : α → Prop} {cmp first second : α → α → Ordering}

theorem apply_then (d : Direction) (o o' : Ordering) :
    d.apply (o.then o') = (d.apply o).then (d.apply o') := by
  cases d with
  | asc => rfl
  | desc => exact Ordering.swap_then o o'

theorem precedes_of_apply_lt {d : Direction} {a b : α × Nat} (h : d.apply (cmp a.1 b.1) = .lt) :
    Precedes d cmp a b := by
  refine ⟨by rw [h]; rfl, fun heq => ?_⟩
  rw [apply_eq_iff.mpr heq] at h
  exact absurd h (by decide)

/-- Of two records of which one precedes the other in the second comparison, the other precedes it
in both exactly if it is before it in the first. -/
theorem precedes_lex (h : PreordersOn S first) {d : Direction} {a b : α × Nat} (ha : S a.1)
    (hb : S b.1) (hab : Precedes d second a b) :
    if (d.apply (first b.1 a.1) == .lt) = true
      then Precedes d (fun x y => (first x y).then (second x y)) b a
      else Precedes d (fun x y => (first x y).then (second x y)) a b := by
  split
  · next hlt =>
    refine precedes_of_apply_lt ?_
    rw [apply_then, beq_iff_eq.mp hlt]
    rfl
  · next hlt =>
    have hswap := (h.apply d).swap hb ha
    cases hba : d.apply (first b.1 a.1) with
    | lt => exact absurd (beq_iff_eq.mpr hba) hlt
    | gt =>
      refine precedes_of_apply_lt ?_
      rw [apply_then, hswap, hba]
      rfl
    | eq =>
      have htie : first a.1 b.1 = .eq := by
        rw [← apply_eq_iff (d := d), hswap, hba]
        rfl
      rw [Precedes, htie]
      exact hab

/-- A sort by two comparisons is a sort by the second and then one by the first. -/
theorem sortWith_lex (h : PreordersOn S first) (h' : PreordersOn S second) (d : Direction)
    {rs : List α} (hrs : ∀ r ∈ rs, S r) :
    sortWith (fun a b => d.apply (first a b) == .lt)
        (sortWith (fun a b => d.apply (second a b) == .lt) rs) =
      sortWith (fun a b => d.apply ((first a b).then (second a b)) == .lt) rs := by
  let byFirst : α → α → Bool := fun a b => d.apply (first a b) == .lt
  let bySecond : α → α → Bool := fun a b => d.apply (second a b) == .lt
  let byBoth : α → α → Bool := fun a b => d.apply ((first a b).then (second a b)) == .lt
  let placed := sortWith (fun a b => bySecond a.1 b.1) rs.zipIdx
  have hpositions := pairwise_zipIdx rs 0
  have hS := forall_mem_zipIdx hrs
  have hperm : placed.Perm rs.zipIdx := perm_sortWith _ _
  have hplacedS : ∀ a ∈ placed, S a.1 := fun a ha => hS a (hperm.mem_iff.mp ha)
  have hresorted : sortWith (fun a b => byFirst a.1 b.1) placed =
      sortWith (fun a b => byBoth a.1 b.1) rs.zipIdx := by
    refine eq_of_pairwise_precedes (h.lex h') d ?_ (pairwise_precedes (h.lex h') d hpositions hS)
      ((perm_sortWith _ _).trans (hperm.trans (perm_sortWith _ _).symm))
      fun a ha => hplacedS a ((perm_sortWith _ _).mem_iff.mp ha)
    apply pairwise_sortWith
    · exact (pairwise_precedes h' d hpositions hS).imp_of_mem fun ha hb hab =>
        precedes_lex h (hplacedS _ ha) (hplacedS _ hb) hab
    · exact fun a ha b hb c hc =>
        Precedes.trans (h.lex h') (hplacedS a ha) (hplacedS b hb) (hplacedS c hc)
  have hfst := congrArg (List.map Prod.fst) hresorted
  rwa [map_sortWith Prod.fst byFirst, map_sortWith_zipIdx, map_sortWith_zipIdx] at hfst

/-! ## Lists in order -/

/-- A list of which no record is after the next one stays as it is. -/
theorem sortWith_of_ordered (h : PreordersOn S cmp) (d : Direction) {rs : List α}
    (hrs : ∀ r ∈ rs, S r) (hordered : rs.IsChain fun a b => d.apply (cmp a b) ≠ .gt) :
    sortWith (fun a b => d.apply (cmp a b) == .lt) rs = rs := by
  refine sortWith_of_isChain (hordered.imp_of_mem_imp fun a b ha hb hab => ?_)
  rw [(h.apply d).swap (hrs a ha) (hrs b hb), beq_eq_false_iff_ne]
  exact fun hlt => hab (Ordering.swap_eq_lt.mp hlt)

/-- A sorted list stays as it is. -/
theorem sortWith_sortWith (h : PreordersOn S cmp) (d : Direction) {rs : List α}
    (hrs : ∀ r ∈ rs, S r) :
    sortWith (fun a b => d.apply (cmp a b) == .lt)
        (sortWith (fun a b => d.apply (cmp a b) == .lt) rs) =
      sortWith (fun a b => d.apply (cmp a b) == .lt) rs := by
  have hsorted := sortedStably_sortWith h d hrs
  exact sortWith_of_ordered h d (fun r hr => hrs r (hsorted.perm.mem_iff.mp hr))
    hsorted.ordered.isChain

/-! ## Ties -/

/-- To sort some of the records is to take them out of the sorted list. -/
theorem sortWith_filter (h : PreordersOn S cmp) (d : Direction) {rs : List α}
    (hrs : ∀ r ∈ rs, S r) (keep : α → Bool) :
    (sortWith (fun a b => d.apply (cmp a b) == .lt) rs).filter keep =
      sortWith (fun a b => d.apply (cmp a b) == .lt) (rs.filter keep) := by
  let before : α → α → Bool := fun a b => d.apply (cmp a b) == .lt
  have hplaced := congrArg (List.map Prod.fst)
    (filter_sortWith h d (pairwise_zipIdx rs 0) (forall_mem_zipIdx hrs) fun r => keep r.1)
  rw [map_sortWith Prod.fst before, ← selected, ← filter_eq_selected] at hplaced
  rw [← hplaced, ← map_sortWith_zipIdx, List.filter_map]
  rfl

/-- Records that tie stay in their order. -/
theorem filter_ties_sortWith (h : PreordersOn S cmp) (d : Direction) {rs : List α}
    (hrs : ∀ r ∈ rs, S r) {r : α} (hr : S r) :
    (sortWith (fun a b => d.apply (cmp a b) == .lt) rs).filter (fun a => cmp r a == .eq) =
      rs.filter fun a => cmp r a == .eq := by
  have hmem : ∀ a ∈ rs.filter fun a => cmp r a == .eq, S a ∧ cmp r a = .eq := by
    intro a ha
    obtain ⟨hars, htie⟩ := List.mem_filter.mp ha
    exact ⟨hrs a hars, beq_iff_eq.mp htie⟩
  rw [sortWith_filter h d hrs]
  refine sortWith_of_ordered h d (fun a ha => (hmem a ha).1) (List.Pairwise.isChain ?_)
  refine List.pairwise_of_forall_mem_list fun a ha b hb => ?_
  obtain ⟨haS, hra⟩ := hmem a ha
  obtain ⟨hbS, hrb⟩ := hmem b hb
  rw [apply_eq_iff.mpr (h.eq_of_ties hr haS hbS hra hrb)]
  exact Ordering.noConfusion

/-! ## Reversed lists -/

/-- A descending sort is an ascending sort of the reversed list, reversed. -/
theorem sortWith_reverse (h : PreordersOn S cmp) {rs : List α} (hrs : ∀ r ∈ rs, S r) :
    sortWith (fun a b => Direction.desc.apply (cmp a b) == .lt) rs =
      (sortWith (fun a b => Direction.asc.apply (cmp a b) == .lt) rs.reverse).reverse := by
  let ascending : α → α → Bool := fun a b => Direction.asc.apply (cmp a b) == .lt
  let descending : α → α → Bool := fun a b => Direction.desc.apply (cmp a b) == .lt
  let mirrored := sortWith (fun a b => ascending a.1 b.1) rs.zipIdx.reverse
  have hpositions := pairwise_zipIdx rs 0
  have hS := forall_mem_zipIdx hrs
  have hSreverse : ∀ a ∈ rs.zipIdx.reverse, S a.1 := fun a ha => hS a (List.mem_reverse.mp ha)
  have hperm : mirrored.reverse.Perm rs.zipIdx :=
    (List.reverse_perm _).trans ((perm_sortWith _ _).trans (List.reverse_perm _))
  have hmirrored : mirrored.Pairwise fun a b => Precedes .desc cmp b a := by
    apply pairwise_sortWith
    · rw [List.pairwise_reverse]
      refine hpositions.imp_of_mem fun {a b} ha hb hab => ?_
      -- The record that is before the other ascending is not before it descending.
      have htest : ascending a.1 b.1 = descending b.1 a.1 :=
        congrArg (· == .lt) (h.swap (hS b hb) (hS a ha))
      rw [htest]
      exact precedes_of_lt h (hS a ha) (hS b hb) hab
    · exact fun a ha b hb c hc hba hcb =>
        hcb.trans h (hSreverse c hc) (hSreverse b hb) (hSreverse a ha) hba
  have hplaced : sortWith (fun a b => descending a.1 b.1) rs.zipIdx = mirrored.reverse := by
    refine eq_of_pairwise_precedes h .desc (pairwise_precedes h .desc hpositions hS)
      (List.pairwise_reverse.mpr hmirrored) ((perm_sortWith _ _).trans hperm.symm)
      fun a ha => hS a ((perm_sortWith _ _).mem_iff.mp ha)
  have hfst := congrArg (List.map Prod.fst) hplaced
  rwa [map_sortWith_zipIdx, List.map_reverse, map_sortWith Prod.fst ascending, List.map_reverse,
    List.zipIdx_map_fst] at hfst

end Lists

/-! ## Rows -/

section Rows

variable {ι ρ : Type} [Record ρ] {family : Family ι} {i : ι} {rows : List ρ}

/-- A sort by an order leaves rows as they are if none of them is after the next one. -/
theorem sort_of_ordered {o : SortOrder} (hpaths : ∀ path ∈ o.paths, NamesScalar family i path)
    (hconforms : ∀ row ∈ rows, family.Conforms i row)
    (huniform : ∀ path ∈ o.paths, UniformNumbers family i path rows)
    (hordered : rows.IsChain fun a b => o.direction.apply (o.compareBy family i a b) ≠ .gt) :
    o.sort family i rows = .ok rows := by
  have horder := preordersOn_compareBy hpaths hconforms huniform
  rw [sort_of_paths hpaths, sortWith_of_ordered horder o.direction (fun r hr => hr) hordered]

/-- A sort by an order leaves the rows that it has sorted as they are. -/
theorem sort_sorted {o : SortOrder} (hpaths : ∀ path ∈ o.paths, NamesScalar family i path)
    (hconforms : ∀ row ∈ rows, family.Conforms i row)
    (huniform : ∀ path ∈ o.paths, UniformNumbers family i path rows) :
    ∃ sorted, o.sort family i rows = .ok sorted ∧ o.sort family i sorted = .ok sorted := by
  have horder := preordersOn_compareBy hpaths hconforms huniform
  refine ⟨_, sort_of_paths hpaths rows, ?_⟩
  rw [sort_of_paths hpaths, sortWith_sortWith horder o.direction fun r hr => hr]

/-- **A tie-breaker is a stable sort before the sort.**

    For paths `p` and `q` that name single values, a direction, and rows that conform, with uniform
    numbers under each path: sorting by `p` with the tie-breaker `q` gives what sorting by `q` and
    then sorting the outcome by `p` gives. A path that breaks its own ties makes no difference. And
    rows of which none is after the next one are left as they are, so those that are sorted once
    are not moved by a second sort. -/
theorem sort_tieBroken {p q : String} (hp : NamesScalar family i p) (hq : NamesScalar family i q)
    (hconforms : ∀ row ∈ rows, family.Conforms i row) (hup : UniformNumbers family i p rows)
    (huq : UniformNumbers family i q rows) (d : Direction) :
    (∃ tied sorted, (⟨q, none, d⟩ : SortOrder).sort family i rows = .ok tied ∧
      (⟨p, none, d⟩ : SortOrder).sort family i tied = .ok sorted ∧
      (⟨p, some q, d⟩ : SortOrder).sort family i rows = .ok sorted) ∧
    (⟨p, some p, d⟩ : SortOrder).sort family i rows =
      (⟨p, none, d⟩ : SortOrder).sort family i rows ∧
    ∀ tieBreaker ∈ [none, some q],
      ((rows.IsChain fun a b => d.apply (compareBy family i ⟨p, tieBreaker, d⟩ a b) ≠ .gt) →
        (⟨p, tieBreaker, d⟩ : SortOrder).sort family i rows = .ok rows) ∧
      ∃ sorted, (⟨p, tieBreaker, d⟩ : SortOrder).sort family i rows = .ok sorted ∧
        (⟨p, tieBreaker, d⟩ : SortOrder).sort family i sorted = .ok sorted := by
  have hnames : ∀ a b : String, NamesScalar family i a → NamesScalar family i b →
      ∀ path ∈ (⟨a, some b, d⟩ : SortOrder).paths, NamesScalar family i path := by
    intro a b ha hb
    simp [paths, ha, hb]
  have halone : ∀ a : String, NamesScalar family i a →
      ∀ path ∈ (⟨a, none, d⟩ : SortOrder).paths, NamesScalar family i path := by
    intro a ha
    simp [paths, ha]
  refine ⟨⟨_, _, sort_of_paths (halone q hq) rows, sort_of_paths (halone p hp) _, ?_⟩, ?_, ?_⟩
  · rw [sort_of_paths (hnames p q hp hq)]
    exact congrArg Except.ok (sortWith_lex (preordersOn_compareAt hp hconforms hup)
      (preordersOn_compareAt hq hconforms huq) d fun r hr => hr).symm
  · rw [sort_of_paths (hnames p p hp hp), sort_of_paths (halone p hp)]
    simp only [compareBy, Ordering.then_self]
  · intro tieBreaker htie
    have hpaths : ∀ path ∈ (⟨p, tieBreaker, d⟩ : SortOrder).paths, path = p ∨ path = q := by
      rcases List.mem_cons.mp htie with rfl | htie
      · simp [paths]
      · rw [List.mem_singleton.mp htie]
        simp [paths]
    have hscalar : ∀ path ∈ (⟨p, tieBreaker, d⟩ : SortOrder).paths,
        NamesScalar family i path := by
      intro path hpath
      rcases hpaths path hpath with rfl | rfl <;> assumption
    have huniform : ∀ path ∈ (⟨p, tieBreaker, d⟩ : SortOrder).paths,
        UniformNumbers family i path rows := by
      intro path hpath
      rcases hpaths path hpath with rfl | rfl <;> assumption
    exact ⟨sort_of_ordered hscalar hconforms huniform, sort_sorted hscalar hconforms huniform⟩

/-- The rows tie on the key, and on the tie-breaker if there is one. -/
def ties (family : Family ι) (i : ι) (o : SortOrder) (a b : ρ) : Bool :=
  o.compareBy family i a b == .eq

theorem null_of_compareBy_ne_gt {o : SortOrder} {a b : ρ} (h : o.compareBy family i a b ≠ .gt)
    (ha : keyValue family i o.key a = .null) : keyValue family i o.key b = .null := by
  refine Classical.byContradiction fun hb => h ?_
  exact compareBy_of_null_left ha hb

theorem null_of_compareBy_ne_lt {o : SortOrder} {a b : ρ} (h : o.compareBy family i a b ≠ .lt)
    (hb : keyValue family i o.key b = .null) : keyValue family i o.key a = .null := by
  refine Classical.byContradiction fun ha => h ?_
  exact compareBy_of_null_right ha hb

/-- **A descending sort is the mirror image of an ascending one.**

    For a key, and a tie-breaker or none, that name single values, and rows that conform, with
    uniform numbers under each: the rows sorted descending are the reversed rows sorted ascending,
    and these reversed. Ascending the null keys come last and descending first, and the rows that
    tie with a row stay in their order in both directions. -/
theorem sort_mirrored {key : String} {tieBreaker : Option String}
    (hpaths : ∀ path ∈ key :: tieBreaker.toList, NamesScalar family i path)
    (hconforms : ∀ row ∈ rows, family.Conforms i row)
    (huniform : ∀ path ∈ key :: tieBreaker.toList, UniformNumbers family i path rows) :
    ∃ ascending descending mirrored,
      (⟨key, tieBreaker, .asc⟩ : SortOrder).sort family i rows = .ok ascending ∧
      (⟨key, tieBreaker, .desc⟩ : SortOrder).sort family i rows = .ok descending ∧
      (⟨key, tieBreaker, .asc⟩ : SortOrder).sort family i rows.reverse = .ok mirrored ∧
      descending = mirrored.reverse ∧
      (ascending.Pairwise fun a b =>
        keyValue family i key a = .null → keyValue family i key b = .null) ∧
      (descending.Pairwise fun a b =>
        keyValue family i key b = .null → keyValue family i key a = .null) ∧
      ∀ r ∈ rows,
        ascending.filter (ties family i ⟨key, tieBreaker, .asc⟩ r) =
          rows.filter (ties family i ⟨key, tieBreaker, .asc⟩ r) ∧
        descending.filter (ties family i ⟨key, tieBreaker, .desc⟩ r) =
          rows.filter (ties family i ⟨key, tieBreaker, .desc⟩ r) := by
  have horder : PreordersOn (· ∈ rows) (compareBy family i ⟨key, tieBreaker, .asc⟩) :=
    preordersOn_compareBy hpaths hconforms huniform
  have hself : ∀ r ∈ rows, r ∈ rows := fun r hr => hr
  have hsort : ∀ (d : Direction) (rs : List ρ),
      (⟨key, tieBreaker, d⟩ : SortOrder).sort family i rs = .ok (sortWith
        (fun a b => d.apply (compareBy family i ⟨key, tieBreaker, d⟩ a b) == .lt) rs) :=
    fun d rs => sort_of_paths (o := ⟨key, tieBreaker, d⟩) hpaths rs
  have hascending := sortedStably_sortWith horder .asc hself
  have hdescending := sortedStably_sortWith horder .desc hself
  refine ⟨_, _, _, hsort .asc rows, hsort .desc rows, hsort .asc rows.reverse,
    sortWith_reverse horder hself, ?_, ?_, ?_⟩
  · exact hascending.ordered.imp fun hab => null_of_compareBy_ne_gt hab
  · refine hdescending.ordered.imp fun {a b} hab => null_of_compareBy_ne_lt
      (o := ⟨key, tieBreaker, .desc⟩) fun hlt => hab ?_
    exact congrArg Ordering.swap hlt
  · exact fun r hr =>
      ⟨filter_ties_sortWith horder .asc hself hr, filter_ties_sortWith horder .desc hself hr⟩

end Rows

end SortOrder

/-! ## Orders by their notes, and mirrored -/

namespace Sample

theorem sort_tieBroken_orders :
    SortOrder.NamesScalar shop .order "note" ∧ SortOrder.NamesScalar shop .order "Id" ∧
    (∀ row ∈ orders, shop.Conforms .order row) ∧
    SortOrder.UniformNumbers shop .order "note" orders ∧
    SortOrder.UniformNumbers shop .order "Id" orders ∧
    ∃ tied sorted, (⟨"Id", none, .desc⟩ : SortOrder).sort shop .order orders = .ok tied ∧
      (⟨"note", none, .desc⟩ : SortOrder).sort shop .order tied = .ok sorted ∧
      byNote.sort shop .order orders = .ok sorted := by
  have hnames : ∀ path ∈ ["note", "Id"], SortOrder.NamesScalar shop .order path :=
    namesScalar_byNote
  have huniform : ∀ path ∈ ["note", "Id"], SortOrder.UniformNumbers shop .order path orders :=
    uniformNumbers_orders
  have hnote := hnames "note" (by simp)
  have hid := hnames "Id" (by simp)
  have hunote := huniform "note" (by simp)
  have huid := huniform "Id" (by simp)
  exact ⟨hnote, hid, conforms_orders, hunote, huid,
    (SortOrder.sort_tieBroken hnote hid conforms_orders hunote huid .desc).1⟩

theorem sort_mirrored_orders :
    (∀ path ∈ "note" :: (some "Id").toList, SortOrder.NamesScalar shop .order path) ∧
    (∀ row ∈ orders, shop.Conforms .order row) ∧
    (∀ path ∈ "note" :: (some "Id").toList, SortOrder.UniformNumbers shop .order path orders) ∧
    ∃ mirrored, (⟨"note", some "Id", .asc⟩ : SortOrder).sort shop .order orders.reverse =
        .ok mirrored ∧
      byNote.sort shop .order orders = .ok mirrored.reverse := by
  obtain ⟨-, descending, mirrored, -, hdescending, hmirrored, rfl, -⟩ :=
    SortOrder.sort_mirrored namesScalar_byNote conforms_orders uniformNumbers_orders
  exact ⟨namesScalar_byNote, conforms_orders, uniformNumbers_orders, mirrored, hmirrored,
    hdescending⟩

end Sample

end Winnow
