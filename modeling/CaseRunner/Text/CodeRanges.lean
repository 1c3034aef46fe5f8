/-!
# `CaseRunner.Text.CodeRanges`: sets of characters as ranges of code points

A property of characters that a standard gives by listing is held as the list of its
ranges, both ends included, in ascending order. Membership is the only question asked
of such a list.
-/

set_option autoImplicit false

namespace CaseRunner.Text

/-- A set of code points, as ascending ranges with both ends included. -/
abbrev CodeRanges := List (Nat × Nat)

/-- Whether the character's code point lies in one of the ranges. -/
def CodeRanges.holds (ranges : CodeRanges) (c : Char) : Bool :=
  ranges.any fun range => range.1 ≤ c.toNat && c.toNat ≤ range.2

/-- A character is in the set exactly if some range encloses its code point. -/
theorem CodeRanges.holds_iff (ranges : CodeRanges) (c : Char) :
    ranges.holds c = true ↔ ∃ range ∈ ranges, range.1 ≤ c.toNat ∧ c.toNat ≤ range.2 := by
  simp [CodeRanges.holds]

end CaseRunner.Text
