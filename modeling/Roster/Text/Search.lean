/-!
# Finding a text inside another

`occursIn` says whether a text is a contiguous part of another, and `occursIn_iff` that it is
right.
-/

namespace Roster.Text

/-- Whether the first text is a contiguous part of the second. -/
def occursIn (part : List Char) : List Char → Bool
  | [] => part.isEmpty
  | c :: cs => part.isPrefixOf (c :: cs) || occursIn part cs

theorem occursIn_iff {part whole : List Char} : occursIn part whole ↔ part <:+: whole := by
  induction whole with
  | nil => cases part <;> simp [occursIn]
  | cons c cs ih => simp [occursIn, ih, List.infix_cons_iff]

/-- The ASCII capitals of a text made small. -/
def lowerAscii (cs : List Char) : List Char := cs.map Char.toLower

example : occursIn ['b', 'c'] ['a', 'b', 'c', 'd'] ∧ ¬ occursIn ['a', 'c'] ['a', 'b', 'c']
    ∧ occursIn [] [] := by decide

end Roster.Text
