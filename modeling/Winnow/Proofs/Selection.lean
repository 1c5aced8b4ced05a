/-
  Queries over a part of the rows.

  A query sorts the rows that its criteria keep. Where the comparison orders the rows up to ties, a
  stable sort of a part of them leaves them in the order that they have among all (`sort_selected`),
  so it makes no difference whether rows are left out before they are sorted or afterwards.

  `filter_sort_comm`, the main statement, says this of the rows that a predicate keeps, and of any
  other part of the rows too: there is one arrangement of all rows, told apart by their positions,
  and a query over a part of them returns its page of this arrangement, where the rows that are
  missing or not accepted are left out.
-/
import Winnow.Proofs.Paging

namespace Winnow

namespace SortOrder

variable {ι ρ : Type} [Record ρ] {family : Family ι} {i : ι} {o : SortOrder} {rows : List ρ}

/-- All rows in the order of a sort, with their positions. -/
def arranged (family : Family ι) (i : ι) (o : SortOrder) (rows : List ρ) : List (ρ × Nat) :=
  sortWith (fun a b => o.direction.apply (o.compareBy family i a.1 b.1) == .lt) rows.zipIdx

/-- Selected rows are sorted as they are arranged among all. -/
theorem sort_selected (hpaths : ∀ path ∈ o.paths, NamesScalar family i path)
    (hconforms : ∀ row ∈ rows, family.Conforms i row)
    (huniform : ∀ path ∈ o.paths, UniformNumbers family i path rows) (keep : ρ × Nat → Bool) :
    o.sort family i (selected keep rows) =
      .ok (((arranged family i o rows).filter keep).map Prod.fst) := by
  have hrows : ∀ a ∈ rows.zipIdx, a.1 ∈ rows := forall_mem_zipIdx fun row hrow => hrow
  have hfilter := filter_sortWith (preordersOn_compareBy hpaths hconforms huniform) o.direction
    (pairwise_zipIdx rows 0) hrows keep
  rw [sort_of_paths hpaths, arranged, hfilter, selected,
    map_sortWith Prod.fst fun a b => o.direction.apply (o.compareBy family i a b) == .lt]

end SortOrder

namespace Envelope

variable {ι ρ : Type} [Record ρ]

/-- **Sorting and filtering commute.**

    For criteria that compile, a sort order whose paths name single values, and rows that conform,
    with uniform numbers under each path: sorting the rows that the predicate keeps gives what the
    predicate keeps of the sorted rows. So the order of two rows in the result does not depend on
    the other rows: one arrangement of all rows is such that a query over any part of them returns
    its page of the selected and accepted rows of the arrangement. -/
theorem filter_sort_comm {family : Family ι} {i : ι} {o : Options} {criteria : CriteriaSet}
    {order : SortOrder} {p : Predicate} {rows : List ρ}
    (hp : Predicate.compile family o i criteria = .ok p)
    (hpaths : ∀ path ∈ order.paths, SortOrder.NamesScalar family i path)
    (hconforms : ∀ row ∈ rows, family.Conforms i row)
    (huniform : ∀ path ∈ order.paths, SortOrder.UniformNumbers family i path rows) :
    ∃ sorted, order.sort family i rows = .ok sorted ∧
      order.sort family i (p.filter rows) = .ok (p.filter sorted) ∧
      ∃ placed : List (ρ × Nat), placed.Perm rows.zipIdx ∧ placed.map Prod.fst = sorted ∧
        ∀ (keep : ρ × Nat → Bool) (paging : PageRequest),
          apply ⟨order, paging⟩ family i o criteria (SortOrder.selected keep rows) =
            .ok (paging.select
              ((placed.filter fun r => keep r && p.accepts r.1).map Prod.fst)) := by
  have hsort := SortOrder.sort_selected hpaths hconforms huniform
  let placed := SortOrder.arranged family i order rows
  refine ⟨placed.map Prod.fst, ?_, ?_, placed, SortOrder.perm_sortWith _ _, rfl, ?_⟩
  · have hall := hsort fun _ => true
    rwa [SortOrder.selected_all, List.filter_eq_self.mpr fun _ _ => rfl] at hall
  · rw [Predicate.filter, Predicate.filter, SortOrder.filter_eq_selected, hsort, List.filter_map]
    rfl
  · intro keep paging
    have hkept := hsort fun r => keep r && p.accepts r.1
    rw [← SortOrder.filter_selected] at hkept
    simp only [apply, hp, bind, Except.bind, Predicate.filter, hkept]
    rfl

end Envelope

/-! ## Three of four orders -/

namespace Sample

theorem filter_sort_comm_orders :
    (∀ path ∈ byNote.paths, SortOrder.NamesScalar shop .order path) ∧
    (∀ row ∈ orders, shop.Conforms .order row) ∧
    (∀ path ∈ byNote.paths, SortOrder.UniformNumbers shop .order path orders) ∧
    ∃ p sorted, Predicate.compile shop ⟨false⟩ .order notSeven = .ok p ∧
      byNote.sort shop .order orders = .ok sorted ∧
      byNote.sort shop .order (p.filter orders) = .ok (p.filter sorted) := by
  obtain ⟨p, hp⟩ : ∃ p, Predicate.compile shop ⟨false⟩ .order notSeven = .ok p := ⟨_, rfl⟩
  obtain ⟨sorted, hsort, hfilter, -⟩ :=
    Envelope.filter_sort_comm hp namesScalar_byNote conforms_orders uniformNumbers_orders
  exact ⟨namesScalar_byNote, conforms_orders, uniformNumbers_orders, p, sorted, hp, hsort, hfilter⟩

end Sample

end Winnow
