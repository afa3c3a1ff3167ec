/-!
# Ranges of code points

A property of characters is given by a list of closed ranges of code points, lowest first.
`Ranges.has` asks whether a code point lies in one of them.
-/

namespace Showcase.Text

/-- Closed ranges of code points, each a least and a greatest member. -/
abbrev Ranges := List (Nat × Nat)

/-- Whether a code point lies in one of the ranges. -/
def Ranges.has (ranges : Ranges) (n : Nat) : Bool :=
  ranges.any fun range => decide (range.1 ≤ n) && decide (n ≤ range.2)

/-- A code point is in the ranges exactly when some range holds it. -/
theorem Ranges.has_iff {ranges : Ranges} {n : Nat} :
    ranges.has n = true ↔ ∃ range ∈ ranges, range.1 ≤ n ∧ n ≤ range.2 := by
  simp [Ranges.has, List.any_eq_true]

end Showcase.Text
