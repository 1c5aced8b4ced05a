/-
  Stable sorting.

  Records are inserted one by one behind those that they are not before. `SortedStably` says what
  the outcome is: the records of the list, each once, in the direction of a comparison, and records
  that tie in the order in which they came. A record is told from an equal one by its position in
  the list, so the last part speaks of records with their positions (`List.zipIdx`).

  The comparison has to be an order up to ties on the records of the list, and only there
  (`PreordersOn`). `pairwise_sortWith` is the induction over the insertions, for any relation that
  the test for being before decides; `sortedStably_sortWith` takes it at the relation of records
  with their positions. Sorting does not look at positions (`map_sortWith`), so that the records
  alone come out in the same order.
-/
import Mathlib.Data.List.Chain
import Mathlib.Data.List.Induction
import Winnow.Query.SortOrder

namespace Winnow

variable {α β : Type}

/-! ## Orders up to ties -/

/-- The comparison orders the records in `S`, up to ties. -/
structure PreordersOn (S : α → Prop) (cmp : α → α → Ordering) : Prop where
  swap : ∀ {a b}, S a → S b → cmp b a = (cmp a b).swap
  trans : ∀ {a b c}, S a → S b → S c →
    (cmp a b).isLE = true → (cmp b c).isLE = true → (cmp a c).isLE = true

namespace PreordersOn

variable {S : α → Prop} {cmp first second : α → α → Ordering}

theorem mono {T : α → Prop} (h : PreordersOn S cmp) (hsub : ∀ a, T a → S a) :
    PreordersOn T cmp where
  swap ha hb := h.swap (hsub _ ha) (hsub _ hb)
  trans ha hb hc := h.trans (hsub _ ha) (hsub _ hb) (hsub _ hc)

/-- The order of records by a key. -/
theorem comap {T : β → Prop} {cmp : β → β → Ordering} (h : PreordersOn T cmp) (key : α → β) :
    PreordersOn (fun a => T (key a)) fun a b => cmp (key a) (key b) where
  swap ha hb := h.swap ha hb
  trans ha hb hc := h.trans ha hb hc

/-- If the ends of a chain tie, so do its steps. -/
theorem eq_of_chain (h : PreordersOn S cmp) {a b c : α} (ha : S a) (hb : S b) (hc : S c)
    (hab : (cmp a b).isLE = true) (hbc : (cmp b c).isLE = true) (hac : cmp a c = .eq) :
    cmp a b = .eq ∧ cmp b c = .eq := by
  have hca : (cmp c a).isLE = true := by
    rw [h.swap ha hc, hac]
    rfl
  have hcb := h.trans hc ha hb hca hab
  have hba := h.trans hb hc ha hbc hca
  rw [h.swap hb hc] at hcb
  rw [h.swap ha hb] at hba
  constructor
  · cases hc : cmp a b <;> simp_all
  · cases hc : cmp b c <;> simp_all

/-- Ties of one order are broken by another. -/
theorem lex (h : PreordersOn S first) (h' : PreordersOn S second) :
    PreordersOn S fun a b => (first a b).then (second a b) where
  swap {a b} ha hb := by
    rw [h.swap ha hb, h'.swap ha hb]
    cases first a b <;> rfl
  trans {a b c} ha hb hc hab hbc := by
    have hle : ∀ {o o' : Ordering}, (o.then o').isLE = true → o.isLE = true := by
      intro o o' ho
      cases o <;> first | rfl | exact ho
    have hfirst := h.trans ha hb hc (hle hab) (hle hbc)
    cases hac : first a c with
    | lt => rfl
    | gt => rw [hac] at hfirst; exact absurd hfirst (by decide)
    | eq =>
      -- The first order ties all along the chain, so the second decides each step of it.
      obtain ⟨heab, hebc⟩ := h.eq_of_chain ha hb hc (hle hab) (hle hbc) hac
      rw [heab] at hab
      rw [hebc] at hbc
      exact h'.trans ha hb hc hab hbc

/-- The order in a direction. -/
theorem apply (h : PreordersOn S cmp) (d : Direction) :
    PreordersOn S fun a b => d.apply (cmp a b) := by
  cases d with
  | asc => exact h
  | desc =>
    constructor
    · intro a b ha hb
      exact congrArg Ordering.swap (h.swap ha hb)
    · intro a b c ha hb hc hab hbc
      show (cmp a c).swap.isLE = true
      rw [← h.swap ha hc]
      refine h.trans hc hb ha ?_ ?_
      · rw [h.swap hb hc]
        exact hbc
      · rw [h.swap ha hb]
        exact hab

end PreordersOn

/-! ## Insertion -/

namespace SortOrder

theorem perm_insertBack (before : α → α → Bool) (r : α) (rs : List α) :
    (insertBack before r rs).Perm (r :: rs) := by
  induction rs with
  | nil => exact .refl _
  | cons last rest ih =>
    rw [insertBack]
    split
    · exact (ih.cons last).trans (.swap r last rest)
    · exact .refl _

theorem map_insertBack (f : α → β) (before : β → β → Bool) (r : α) (rs : List α) :
    (insertBack (fun a b => before (f a) (f b)) r rs).map f =
      insertBack before (f r) (rs.map f) := by
  induction rs with
  | nil => rfl
  | cons last rest ih =>
    simp only [insertBack, List.map_cons]
    split
    · rw [List.map_cons, ih]
    · rfl

/-- Insertion keeps a list, in reverse, in order: the record stands behind those it is not before,
and it is not after the others. -/
theorem pairwise_insertBack {R : α → α → Prop} {before : α → α → Bool} {r : α} {rs : List α}
    (hrs : rs.Pairwise fun later earlier => R earlier later)
    (hbefore : ∀ a ∈ rs, before r a = true → R r a)
    (hafter : ∀ a ∈ rs, before r a = false → R a r)
    (htrans : ∀ a ∈ rs, ∀ b ∈ rs, R a b → R b r → R a r) :
    (insertBack before r rs).Pairwise fun later earlier => R earlier later := by
  induction rs with
  | nil => exact List.pairwise_singleton _ _
  | cons last rest ih =>
    obtain ⟨hlast, hrest⟩ := List.pairwise_cons.mp hrs
    have hmem : ∀ a ∈ rest, a ∈ last :: rest := fun a ha => List.mem_cons_of_mem _ ha
    rw [insertBack]
    split
    · next hb =>
      refine List.pairwise_cons.mpr ⟨?_, ih hrest (fun a ha => hbefore a (hmem a ha))
        (fun a ha => hafter a (hmem a ha))
        (fun a ha b hb => htrans a (hmem a ha) b (hmem b hb))⟩
      intro a ha
      rcases List.mem_cons.mp ((perm_insertBack before r rest).mem_iff.mp ha) with rfl | ha
      · exact hbefore last List.mem_cons_self hb
      · exact hlast a ha
    · next hb =>
      have hr : R last r := hafter last List.mem_cons_self (by simpa using hb)
      refine List.pairwise_cons.mpr ⟨?_, hrs⟩
      intro a ha
      rcases List.mem_cons.mp ha with rfl | ha'
      · exact hr
      · exact htrans a ha last List.mem_cons_self (hlast a ha') hr

/-! ## Sorting -/

/-- The last record of a list is inserted into the sorted others. -/
theorem sortWith_concat (before : α → α → Bool) (rs : List α) (r : α) :
    sortWith before (rs ++ [r]) = (insertBack before r (sortWith before rs).reverse).reverse := by
  simp [sortWith, List.foldl_append]

theorem perm_sortWith (before : α → α → Bool) (rs : List α) : (sortWith before rs).Perm rs := by
  have hfold : ∀ sorted : List α,
      (rs.foldl (fun sorted r => insertBack before r sorted) sorted).Perm (rs ++ sorted) := by
    induction rs with
    | nil => exact fun sorted => .refl _
    | cons r rs ih =>
      intro sorted
      exact (ih _).trans (((perm_insertBack before r sorted).append_left rs).trans
        List.perm_middle)
  have h := hfold []
  rw [List.append_nil] at h
  exact (List.reverse_perm _).trans h

theorem map_sortWith (f : α → β) (before : β → β → Bool) (rs : List α) :
    (sortWith (fun a b => before (f a) (f b)) rs).map f = sortWith before (rs.map f) := by
  have hfold : ∀ sorted : List α,
      (rs.foldl (fun sorted r => insertBack (fun a b => before (f a) (f b)) r sorted)
          sorted).map f =
        (rs.map f).foldl (fun sorted r => insertBack before r sorted) (sorted.map f) := by
    induction rs with
    | nil => exact fun sorted => rfl
    | cons r rs ih =>
      intro sorted
      rw [List.foldl_cons, ih, map_insertBack]
      rfl
  rw [sortWith, List.map_reverse, hfold]
  rfl

/-- Sorting puts a list in order by `R` if `before` decides which way two of its records stand and
`R` is transitive on them. -/
theorem pairwise_sortWith {R : α → α → Prop} {before : α → α → Bool} {rs : List α}
    (hdecides : rs.Pairwise fun a b => if before b a = true then R b a else R a b)
    (htrans : ∀ a ∈ rs, ∀ b ∈ rs, ∀ c ∈ rs, R a b → R b c → R a c) :
    (sortWith before rs).Pairwise R := by
  induction rs using List.reverseRecOn with
  | nil => exact .nil
  | append_singleton rs r ih =>
    obtain ⟨hrs, -, hr⟩ := List.pairwise_append.mp hdecides
    have hmem : ∀ {a}, a ∈ (sortWith before rs).reverse → a ∈ rs := fun ha =>
      (perm_sortWith before rs).mem_iff.mp (List.mem_reverse.mp ha)
    have hleft : ∀ {a}, a ∈ rs → a ∈ rs ++ [r] := fun ha => List.mem_append_left _ ha
    have hright : r ∈ rs ++ [r] := List.mem_append_right _ List.mem_cons_self
    have hsorted := ih hrs fun a ha b hb c hc => htrans a (hleft ha) b (hleft hb) c (hleft hc)
    rw [sortWith_concat, List.pairwise_reverse]
    refine pairwise_insertBack (List.pairwise_reverse.mpr hsorted) ?_ ?_ ?_
    · intro a ha hb
      simpa [hb] using hr a (hmem ha) r List.mem_cons_self
    · intro a ha hb
      simpa [hb] using hr a (hmem ha) r List.mem_cons_self
    · intro a ha b hb
      exact htrans a (hleft (hmem ha)) b (hleft (hmem hb)) r hright

/-- A list in which no record is before the one in front of it is left as it is. -/
theorem sortWith_of_isChain {before : α → α → Bool} {rs : List α}
    (h : rs.IsChain fun a b => before b a = false) : sortWith before rs = rs := by
  induction rs using List.reverseRecOn with
  | nil => rfl
  | append_singleton rs r ih =>
    obtain ⟨hrs, -, hr⟩ := List.isChain_append.mp h
    rw [sortWith_concat, ih hrs]
    cases hlast : rs.reverse with
    | nil =>
      rw [List.reverse_eq_nil_iff.mp hlast]
      rfl
    | cons last rest =>
      have hmem : last ∈ rs.getLast? := by
        rw [List.getLast?_eq_head?_reverse, hlast]
        rfl
      rw [insertBack, hr last hmem r rfl, if_neg Bool.false_ne_true, ← hlast, List.reverse_cons,
        List.reverse_reverse]

/-! ## Positions -/

/-- The records of a list in the direction of a comparison, where records that tie stay in the
order of the list. -/
structure SortedStably (d : Direction) (cmp : α → α → Ordering) (rs sorted : List α) : Prop where
  perm : sorted.Perm rs
  ordered : sorted.Pairwise fun a b => d.apply (cmp a b) ≠ .gt
  stable : ∃ placed : List (α × Nat), placed.Perm rs.zipIdx ∧ placed.map Prod.fst = sorted ∧
    placed.Pairwise fun a b => cmp a.1 b.1 = .eq → a.2 < b.2

theorem pairwise_zipIdx (rs : List α) (n : Nat) : (rs.zipIdx n).Pairwise fun a b => a.2 < b.2 := by
  induction rs generalizing n with
  | nil => exact .nil
  | cons r rs ih =>
    refine List.pairwise_cons.mpr ⟨?_, ih (n + 1)⟩
    intro b hb
    exact (List.mem_zipIdx hb).1

/-- The records of a list at some positions, in their order. -/
def selected (keep : α × Nat → Bool) (rs : List α) : List α := (rs.zipIdx.filter keep).map Prod.fst

theorem selected_all (rs : List α) : selected (fun _ => true) rs = rs := by
  rw [selected, List.filter_eq_self.mpr fun _ _ => rfl, List.zipIdx_map_fst]

theorem filter_selected (keep : α × Nat → Bool) (accepts : α → Bool) (rs : List α) :
    (selected keep rs).filter accepts = selected (fun r => keep r && accepts r.1) rs := by
  rw [selected, selected, List.filter_map, List.filter_filter]
  congr 2
  funext r
  exact Bool.and_comm _ _

/-- To filter a list is to select by what the records are. -/
theorem filter_eq_selected (accepts : α → Bool) (rs : List α) :
    rs.filter accepts = selected (fun r => accepts r.1) rs := by
  have h := filter_selected (fun _ => true) accepts rs
  rwa [selected_all] at h

/-- The relation of two records with their positions: they stand in the direction of the
comparison, and if they tie, in the order of their positions. -/
def Precedes (d : Direction) (cmp : α → α → Ordering) (a b : α × Nat) : Prop :=
  (d.apply (cmp a.1 b.1)).isLE = true ∧ (cmp a.1 b.1 = .eq → a.2 < b.2)

theorem apply_eq_iff {d : Direction} {o : Ordering} : d.apply o = .eq ↔ o = .eq := by
  cases d <;> cases o <;> decide

theorem Precedes.trans {S : α → Prop} {cmp : α → α → Ordering} (h : PreordersOn S cmp)
    {d : Direction} {a b c : α × Nat} (ha : S a.1) (hb : S b.1) (hc : S c.1)
    (hab : Precedes d cmp a b) (hbc : Precedes d cmp b c) : Precedes d cmp a c := by
  have hd := h.apply d
  refine ⟨hd.trans ha hb hc hab.1 hbc.1, fun hac => ?_⟩
  obtain ⟨heab, hebc⟩ := hd.eq_of_chain ha hb hc hab.1 hbc.1 (apply_eq_iff.mpr hac)
  exact Nat.lt_trans (hab.2 (apply_eq_iff.mp heab)) (hbc.2 (apply_eq_iff.mp hebc))

/-- Of two records of which the first has the lower position, the second precedes the first
exactly if it is before it. -/
theorem precedes_of_lt {S : α → Prop} {cmp : α → α → Ordering} (h : PreordersOn S cmp)
    {d : Direction} {a b : α × Nat} (ha : S a.1) (hb : S b.1) (hab : a.2 < b.2) :
    if (d.apply (cmp b.1 a.1) == .lt) = true then Precedes d cmp b a else Precedes d cmp a b := by
  split
  · next hlt =>
    rw [beq_iff_eq] at hlt
    refine ⟨by rw [hlt]; rfl, fun heq => ?_⟩
    rw [apply_eq_iff.mpr heq] at hlt
    exact absurd hlt (by decide)
  · next hlt =>
    refine ⟨?_, fun _ => hab⟩
    rw [(h.apply d).swap hb ha]
    cases ho : d.apply (cmp b.1 a.1) <;> simp_all

theorem Precedes.asymm {S : α → Prop} {cmp : α → α → Ordering} (h : PreordersOn S cmp)
    {d : Direction} {a b : α × Nat} (ha : S a.1) (hb : S b.1) (hab : Precedes d cmp a b) :
    ¬ Precedes d cmp b a := by
  intro hba
  have hd := h.apply d
  have htie : d.apply (cmp a.1 b.1) = .eq := by
    have hle := hba.1
    rw [hd.swap ha hb] at hle
    exact Ordering.eq_eq_of_isLE_of_isLE_swap hab.1 hle
  have hcmp := apply_eq_iff.mp htie
  have hswap : cmp b.1 a.1 = .eq := by
    rw [h.swap ha hb, hcmp]
    rfl
  exact Nat.lt_asymm (hab.2 hcmp) (hba.2 hswap)

section Placed

variable {S : α → Prop} {cmp : α → α → Ordering} (h : PreordersOn S cmp) (d : Direction)

include h

/-- Records that come with their positions, in the order of these, are sorted so that each precedes
all that follow it. -/
theorem pairwise_precedes {placed : List (α × Nat)} (hplaced : placed.Pairwise fun a b => a.2 < b.2)
    (hS : ∀ a ∈ placed, S a.1) :
    (sortWith (fun a b => d.apply (cmp a.1 b.1) == .lt) placed).Pairwise (Precedes d cmp) := by
  apply pairwise_sortWith
  · exact hplaced.imp_of_mem fun ha hb hab => precedes_of_lt h (hS _ ha) (hS _ hb) hab
  · exact fun a ha b hb c hc => Precedes.trans h (hS a ha) (hS b hb) (hS c hc)

/-- Two arrangements of the same records in which each precedes all that follow it are the same. -/
theorem eq_of_pairwise_precedes {as bs : List (α × Nat)} (has : as.Pairwise (Precedes d cmp))
    (hbs : bs.Pairwise (Precedes d cmp)) (hperm : as.Perm bs) (hS : ∀ a ∈ as, S a.1) :
    as = bs := by
  refine List.Perm.eq_of_pairwise (fun a b ha hb hab hba => ?_) has hbs hperm
  exact absurd hba (hab.asymm h (hS a ha) (hS b (hperm.mem_iff.mpr hb)))

/-- Sorting some of the records leaves them in the order that they have among all. -/
theorem filter_sortWith {placed : List (α × Nat)}
    (hplaced : placed.Pairwise fun a b => a.2 < b.2) (hS : ∀ a ∈ placed, S a.1)
    (keep : α × Nat → Bool) :
    (sortWith (fun a b => d.apply (cmp a.1 b.1) == .lt) placed).filter keep =
      sortWith (fun a b => d.apply (cmp a.1 b.1) == .lt) (placed.filter keep) := by
  have hkept : ∀ a ∈ placed.filter keep, S a.1 := fun a ha => hS a (List.mem_filter.mp ha).1
  have hall := (pairwise_precedes h d hplaced hS).filter keep
  have hsome := pairwise_precedes h d (hplaced.filter keep) hkept
  have hperm := perm_sortWith (fun a b : α × Nat => d.apply (cmp a.1 b.1) == .lt)
  refine eq_of_pairwise_precedes h d hall hsome
    (((hperm placed).filter keep).trans (hperm (placed.filter keep)).symm) fun a ha => ?_
  exact hS a ((hperm placed).mem_iff.mp (List.mem_filter.mp ha).1)

end Placed

/-- Sorting does not look at positions. -/
theorem map_sortWith_zipIdx (before : α → α → Bool) (rs : List α) :
    (sortWith (fun a b => before a.1 b.1) rs.zipIdx).map Prod.fst = sortWith before rs := by
  rw [map_sortWith Prod.fst before, List.zipIdx_map_fst]

theorem forall_mem_zipIdx {S : α → Prop} {rs : List α} (hrs : ∀ r ∈ rs, S r) :
    ∀ a ∈ rs.zipIdx, S a.1 := by
  intro a ha
  have hmem := List.mem_map_of_mem (f := Prod.fst) ha
  rw [List.zipIdx_map_fst] at hmem
  exact hrs a.1 hmem

/-- Sorting by a comparison that orders the records of the list is stable in both directions. -/
theorem sortedStably_sortWith {S : α → Prop} {cmp : α → α → Ordering} (h : PreordersOn S cmp)
    (d : Direction) {rs : List α} (hrs : ∀ r ∈ rs, S r) :
    SortedStably d cmp rs (sortWith (fun a b => d.apply (cmp a b) == .lt) rs) := by
  let before : α → α → Bool := fun a b => d.apply (cmp a b) == .lt
  have hfst := map_sortWith_zipIdx before rs
  have hplaced := pairwise_precedes h d (pairwise_zipIdx rs 0) (forall_mem_zipIdx hrs)
  refine ⟨perm_sortWith _ _, ?_, _, perm_sortWith _ _, hfst, hplaced.imp And.right⟩
  show (sortWith before rs).Pairwise _
  rw [← hfst, List.pairwise_map]
  exact hplaced.imp fun hab => Ordering.isLE_iff_ne_gt.mp hab.1

end SortOrder

end Winnow
