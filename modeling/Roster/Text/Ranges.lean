/-!
# Ranges of code points

Unicode properties are given as lists of closed ranges of code points.  `Ranges.contains` is the
only question asked of them, and `contains_iff` says what it answers.
-/

namespace Roster.Text

/-- Closed ranges of code points, each given by its first and its last member. -/
abbrev Ranges := List (Nat × Nat)

/-- Whether some range holds the code point of the character. -/
def Ranges.contains (ranges : Ranges) (c : Char) : Bool :=
  ranges.any fun range => range.1 ≤ c.toNat && c.toNat ≤ range.2

theorem Ranges.contains_iff {ranges : Ranges} {c : Char} :
    ranges.contains c = true ↔ ∃ range ∈ ranges, range.1 ≤ c.toNat ∧ c.toNat ≤ range.2 := by
  simp [Ranges.contains]

theorem Ranges.contains_nil (c : Char) : Ranges.contains [] c = false := rfl

end Roster.Text
