/-
  Sets of characters given by ranges of code points.
-/

namespace Winnow

/-- A set of code points: the inclusive ranges it is made of. -/
abbrev CodeRanges := List (Nat × Nat)

/-- A code point lies in one of the ranges. -/
def CodeRanges.contains (ranges : CodeRanges) (code : Nat) : Bool :=
  ranges.any fun (low, high) => low ≤ code && code ≤ high

/-- The code points of ranges. -/
def CodeRanges.codes (ranges : CodeRanges) : List Nat :=
  ranges.flatMap fun (low, high) => List.range' low (high + 1 - low)

theorem CodeRanges.mem_codes {ranges : CodeRanges} {code : Nat}
    (h : ranges.contains code = true) : code ∈ ranges.codes := by
  obtain ⟨⟨low, high⟩, hmem, hin⟩ := List.any_eq_true.mp h
  simp only [Bool.and_eq_true, decide_eq_true_eq] at hin
  exact List.mem_flatMap.mpr ⟨(low, high), hmem, List.mem_range'_1.mpr (by omega)⟩

end Winnow
