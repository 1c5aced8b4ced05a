/-
  Enums as sort keys.

  A member that is an enum is read as the word of its discriminant, and sort keys are compared as
  words without a sign. Among the discriminants of one sign that fit in a word this is their order;
  but the word of a negative one is greater than that of any other, so in words they come last
  (`wordOrder_iff_negativeLast`). Discriminants of more than 64 bits are in the order of what is
  left of them in a word.

  `sort_enum_wordOrder`, the main statement: rows that are sorted by an enum, ascending, come out in
  the order of the words, ties in their order. Where discriminants fit in a word, this is their own
  order exactly if no row holds a negative discriminant where another holds one that is not
  negative; `low_after_mid` is a sort of two rows that puts minus one after zero.
-/
import Mathlib.Data.List.Pairwise
import Winnow.Proofs.OwnOrder
import Winnow.Proofs.Sorting

namespace Winnow

/-! ## Words without a sign -/

/-- Two integers are in the order of their words. -/
def WordOrder (m n : Int) : Prop := UInt64.ofInt m ≤ UInt64.ofInt n

/-- Two integers are in an order in which those of one sign are by size, and negative ones after the
others. -/
def NegativeLast (m n : Int) : Prop := if m < 0 ↔ n < 0 then m ≤ n else n < 0

theorem wordOrder_iff_negativeLast {m n : Int}
    (h : (IntegerForm.int64.Admits m ∧ IntegerForm.int64.Admits n) ∨
      IntegerForm.nat64.Admits m ∧ IntegerForm.nat64.Admits n) :
    WordOrder m n ↔ NegativeLast m n := by
  simp only [IntegerForm.int64_admits_iff, IntegerForm.nat64_admits_iff] at h
  rw [WordOrder, UInt64.le_iff_toNat_le, UInt64.ofInt, UInt64.ofInt, UInt64.toNat_ofNat',
    UInt64.toNat_ofNat', NegativeLast]
  split <;> omega

/-- Both integers are negative, or neither is. -/
def SameSign (m n : Int) : Prop := m < 0 ↔ n < 0

/-- Where negative integers come last, integers are in their own order exactly if they have one
sign. -/
theorem NegativeLast.le_iff {m n : Int} (h : NegativeLast m n) : m ≤ n ↔ SameSign m n := by
  unfold NegativeLast at h
  unfold SameSign
  split at h <;> omega

/-! ## Sorting by an enum -/

namespace SortOrder

variable {ι ρ : Type} [Record ρ]

/-- The path names a value of the enum in the row. -/
def HoldsAt (family : Family ι) (i : ι) (path : String) (row : ρ) {e : EnumType}
    (v : e.form.Carrier) : Prop :=
  keyValue family i path row = (ValueType.scalar (.enum e)).toReading v

/-- Whatever values of the enum two rows hold under the path, their discriminants are related. -/
def Discriminants (family : Family ι) (i : ι) (path : String) (e : EnumType)
    (R : Int → Int → Prop) (a b : ρ) : Prop :=
  ∀ v w : e.form.Carrier, HoldsAt family i path a v → HoldsAt family i path b w →
    R (e.form.discriminant v) (e.form.discriminant w)

variable {family : Family ι} {i : ι} {path : String} {e : EnumType} {a b : ρ}
  {v w : e.form.Carrier}

theorem compareAt_of_holdsAt (ha : HoldsAt family i path a v) (hb : HoldsAt family i path b w) :
    compareAt family i path a b = compare (e.form.bits v) (e.form.bits w) := by
  rw [compareAt, ha, hb]
  rfl

theorem HoldsAt.bits_eq (hv : HoldsAt family i path a v) (hw : HoldsAt family i path a w) :
    e.form.bits v = e.form.bits w := by
  have hread := hv.symm.trans hw
  injection hread with hscalar
  injection hscalar

/-- Rows that are sorted by an enum alone are in the order of its words. -/
theorem wordOrder_of_compareBy (h : compareBy family i ⟨path, none, .asc⟩ a b ≠ .gt) :
    Discriminants family i path e WordOrder a b := by
  intro v w ha hb
  rw [compareBy, compareAt_of_holdsAt ha hb] at h
  show e.form.bits v ≤ e.form.bits w
  rwa [ne_eq, Std.compare_eq_gt, UInt64.not_lt] at h

/-- Rows that hold values of an enum, or nulls, are ordered by it up to ties. -/
theorem preordersOn_of_enum {rows : List ρ}
    (hrows : ∀ row ∈ rows, keyValue family i path row = .null ∨
      ∃ v : e.form.Carrier, HoldsAt family i path row v) :
    PreordersOn (· ∈ rows) (compareBy family i ⟨path, none, .asc⟩ : ρ → ρ → Ordering) := by
  have hkeys :=
    (Reading.preordersOn_compareKeys .enum .float).comap (keyValue (ρ := ρ) family i path)
  refine hkeys.mono fun row hrow => ?_
  rcases hrows row hrow with hnull | ⟨v, hv⟩
  · exact Or.inl hnull
  · exact Or.inr (Or.inr ⟨_, hv, rfl, fun n hn => Scalar.noConfusion hn⟩)

/-- A list with negative discriminants last is in the order of discriminants exactly if these have
one sign. -/
theorem pairwise_discriminants_iff (hfits : e.form.FitsWord) {sorted : List ρ}
    (h : sorted.Pairwise (Discriminants family i path e NegativeLast)) :
    sorted.Pairwise (Discriminants family i path e (· ≤ ·)) ↔
      ∀ a ∈ sorted, ∀ b ∈ sorted, Discriminants family i path e SameSign a b := by
  constructor
  · intro hle
    have hsign : sorted.Pairwise (Discriminants family i path e SameSign) :=
      (h.and hle).imp fun hab v w hv hw => (hab.1 v w hv hw).le_iff.mp (hab.2 v w hv hw)
    -- To have one sign is symmetric, and a row holds one value, so it is said of all pairs.
    have hsymm : Std.Symm (Discriminants (ρ := ρ) family i path e SameSign) :=
      ⟨fun a b hab v w hv hw => (hab w v hw hv).symm⟩
    have hself : ∀ a ∈ sorted, Discriminants family i path e SameSign a a := by
      intro a _ v w hv hw
      obtain rfl : v = w := (EnumForm.bits_inj hfits).mp (hv.bits_eq hw)
      exact Iff.rfl
    exact fun a ha b hb => hsign.forall_of_forall hself ha hb
  · intro hsign
    refine h.imp_of_mem fun ha hb hab v w hv hw => ?_
    exact (hab v w hv hw).le_iff.mpr (hsign _ ha _ hb v w hv hw)

/-- **Rows sorted by an enum come out in the order of its words.**

    For an enum or flags, of any width and sign, and rows that hold values of it, or nulls, under
    the path of a sort key: sorted by that key alone, ascending, the rows come out with the values
    in the order of their words, and rows with one word stay in their order. If the discriminants
    fit in a word, those that are not negative come first and those of one sign are by size; this is
    the order of all discriminants exactly if those in the rows have one sign. -/
theorem sort_enum_wordOrder {rows : List ρ} (hpath : NamesScalar family i path)
    (hrows : ∀ row ∈ rows, keyValue family i path row = .null ∨
      ∃ v : e.form.Carrier, HoldsAt family i path row v) :
    ∃ sorted, (⟨path, none, .asc⟩ : SortOrder).sort family i rows = .ok sorted ∧
      sorted.Pairwise (Discriminants family i path e WordOrder) ∧
      (e.form.FitsWord →
        sorted.Pairwise (Discriminants family i path e NegativeLast) ∧
        (sorted.Pairwise (Discriminants family i path e (· ≤ ·)) ↔
          ∀ a ∈ rows, ∀ b ∈ rows, Discriminants family i path e SameSign a b)) ∧
      ∃ placed : List (ρ × Nat), placed.Perm rows.zipIdx ∧ placed.map Prod.fst = sorted ∧
        placed.Pairwise fun a b => ∀ v w : e.form.Carrier, HoldsAt family i path a.1 v →
          HoldsAt family i path b.1 w → e.form.bits v = e.form.bits w → a.2 < b.2 := by
  have hpaths : ∀ p ∈ (⟨path, none, .asc⟩ : SortOrder).paths, NamesScalar family i p := by
    intro p hp
    rw [List.mem_singleton.mp hp]
    exact hpath
  obtain ⟨k, hk⟩ := exists_keys_iff.mpr hpaths
  obtain ⟨hperm, hordered, placed, hplaced, hfst, hstable⟩ :=
    sortedStably_sortWith (preordersOn_of_enum hrows) .asc fun row hrow => hrow
  have hwords := hordered.imp fun hab => wordOrder_of_compareBy (e := e) hab
  refine ⟨_, sort_of_keys hk rows, hwords, fun hfits => ?_, placed, hplaced, hfst, ?_⟩
  · have hlast := hwords.imp fun hab v w hv hw =>
      (wordOrder_iff_negativeLast (hfits.pair v w)).mp (hab v w hv hw)
    refine ⟨hlast, ?_⟩
    rw [pairwise_discriminants_iff hfits hlast]
    simp only [hperm.mem_iff]
  · refine hstable.imp fun {a b} hab v w hv hw hbits => hab ?_
    rw [compareBy, compareAt_of_holdsAt hv hw, hbits]
    exact Std.compare_self

end SortOrder

/-! ## Levels below zero -/

namespace Sample

/-- Levels of which the lowest is below zero. -/
def level : EnumType where
  name := "Level"
  form := .variants {
    named := [("Low", -1), ("Mid", 0), ("High", 1)]
    inRange := Or.inl (by decide)
    distinct := by decide }

def low : level.form.Carrier :=
  (⟨("Low", -1), by decide⟩ : { v : String × Int // v ∈ [("Low", -1), ("Mid", 0), ("High", 1)] })

def mid : level.form.Carrier :=
  (⟨("Mid", 0), by decide⟩ : { v : String × Int // v ∈ [("Low", -1), ("Mid", 0), ("High", 1)] })

def ranked : Family Unit := fun _ => ⟨"Player", [⟨"Level", .scalar .enum, false⟩]⟩

def playerAt (v : level.form.Carrier) : Row :=
  .mk [("Level", (ValueType.scalar (.enum level)).toReading v)]

theorem holdsAt_playerAt (v : level.form.Carrier) :
    SortOrder.HoldsAt ranked () "Level" (playerAt v) v := by
  have hpath : splitSegments (trimChars "Level".toList) "Level" = .ok ["Level"] := rfl
  rw [SortOrder.HoldsAt, SortOrder.keyValue, hpath]
  rfl

theorem namesScalar_level : SortOrder.NamesScalar ranked () "Level" :=
  ⟨["Level"], ⟨⟨rowParameter, ["Level"]⟩, "Player", .scalar .enum, false⟩, .enum, rfl, rfl, rfl⟩

theorem level_fitsWord : level.form.FitsWord :=
  EnumForm.variants_fitsWord_iff.mpr (Or.inl (by decide))

/-- Players at minus one and at zero are sorted in the order of words, and this is not the order of
their levels. -/
theorem sort_enum_wordOrder_players :
    SortOrder.NamesScalar ranked () "Level" ∧
    (∀ row ∈ [playerAt low, playerAt mid], SortOrder.keyValue ranked () "Level" row = .null ∨
      ∃ v : level.form.Carrier, SortOrder.HoldsAt ranked () "Level" row v) ∧
    ∃ sorted, (⟨"Level", none, .asc⟩ : SortOrder).sort ranked () [playerAt low, playerAt mid] =
        .ok sorted ∧
      sorted.Pairwise (SortOrder.Discriminants ranked () "Level" level WordOrder) ∧
      ¬ sorted.Pairwise (SortOrder.Discriminants ranked () "Level" level (· ≤ ·)) := by
  have hrows : ∀ row ∈ [playerAt low, playerAt mid],
      SortOrder.keyValue ranked () "Level" row = .null ∨
        ∃ v : level.form.Carrier, SortOrder.HoldsAt ranked () "Level" row v := by
    intro row hrow
    simp only [List.mem_cons, List.not_mem_nil, or_false] at hrow
    rcases hrow with rfl | rfl
    · exact Or.inr ⟨low, holdsAt_playerAt low⟩
    · exact Or.inr ⟨mid, holdsAt_playerAt mid⟩
  obtain ⟨sorted, hsort, hwords, hfits, -⟩ :=
    SortOrder.sort_enum_wordOrder namesScalar_level hrows
  obtain ⟨-, hsigns⟩ := hfits level_fitsWord
  refine ⟨namesScalar_level, hrows, sorted, hsort, hwords, fun hle => ?_⟩
  have hsame := hsigns.mp hle (playerAt low) (by simp) (playerAt mid) (by simp) low mid
    (holdsAt_playerAt low) (holdsAt_playerAt mid)
  exact absurd (hsame.mp (by decide)) (by decide)

/-- Sorted by their levels, a player at minus one comes after a player at zero. -/
theorem low_after_mid :
    (⟨"Level", none, .asc⟩ : SortOrder).sort ranked () [playerAt low, playerAt mid] =
      .ok [playerAt mid, playerAt low] ∧
    level.form.discriminant low < level.form.discriminant mid :=
  ⟨rfl, by decide⟩

end Sample

end Winnow
