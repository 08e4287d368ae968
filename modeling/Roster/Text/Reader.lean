/-!
# Readers

A reader takes a value off the front of a text, or refuses.  The formats of this library are read
by such functions.
-/

namespace Roster.Text

/-- Takes a value off the front of a text and gives it with the rest. -/
abbrev Reader (α : Type) := List Char → Option (α × List Char)

/-- The value of a hexadecimal digit. -/
def hexDigit? (c : Char) : Option Nat :=
  if c.isDigit then some (c.toNat - 48)
  else if 'a' ≤ c ∧ c ≤ 'f' then some (c.toNat - 87)
  else if 'A' ≤ c ∧ c ≤ 'F' then some (c.toNat - 55)
  else none

/-- What is left of a text behind a given start. -/
def dropStart? : List Char → List Char → Option (List Char)
  | [], cs => some cs
  | _ :: _, [] => none
  | w :: ws, c :: cs => if w = c then dropStart? ws cs else none

theorem dropStart?_eq_some_iff {start cs rest : List Char} :
    dropStart? start cs = some rest ↔ cs = start ++ rest := by
  induction start generalizing cs with
  | nil => simp [dropStart?, eq_comm]
  | cons w ws ih =>
      cases cs with
      | nil => simp [dropStart?]
      | cons c cs =>
          by_cases h : w = c
          · simp [dropStart?, h, ih]
          · simp [dropStart?, h, Ne.symm h]

example : hexDigit? 'f' = some 15 ∧ hexDigit? 'A' = some 10 ∧ hexDigit? 'g' = none := by decide

end Roster.Text
