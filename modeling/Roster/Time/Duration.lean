import Roster.Text.Numeral

/-!
# Durations

A duration is a number of seconds and nanoseconds.  `Duration.text` writes it in the largest unit
in which it is not below one, with the fraction that is left and no zeros at its end.
-/

namespace Roster

/-- Seconds and, below a second, nanoseconds. -/
structure Duration where
  /-- Whole seconds. -/
  seconds : Nat
  /-- Nanoseconds beside the seconds. -/
  nanos : Nat
deriving DecidableEq, Repr, Inhabited

namespace Duration

/-- A number of whole seconds. -/
def ofSeconds (n : Nat) : Duration := ⟨n, 0⟩

/-- A number of milliseconds. -/
def ofMillis (n : Nat) : Duration := ⟨n / 1000, n % 1000 * 1000000⟩

/-- The duration in milliseconds, a started one counted whole. -/
def toMillis (d : Duration) : Nat := d.seconds * 1000 + (d.nanos + 999999) / 1000000

/-- The fraction of a unit of `10 ^ width` parts, behind a point, without zeros at its end. -/
def fraction (width parts : Nat) : List Char :=
  let digits := (Text.writePadded width parts).reverse.dropWhile (· == '0')
  if digits.isEmpty then [] else '.' :: digits.reverse

/-- The duration in its largest unit. -/
def text (d : Duration) : String :=
  if 0 < d.seconds then
    String.ofList (Text.writeNat d.seconds ++ fraction 9 d.nanos) ++ "s"
  else if 1000000 ≤ d.nanos then
    String.ofList (Text.writeNat (d.nanos / 1000000) ++ fraction 6 (d.nanos % 1000000)) ++ "ms"
  else if 1000 ≤ d.nanos then
    String.ofList (Text.writeNat (d.nanos / 1000) ++ fraction 3 (d.nanos % 1000)) ++ "µs"
  else
    String.ofList (Text.writeNat d.nanos) ++ "ns"

/-- Milliseconds survive the way through seconds and nanoseconds. -/
theorem toMillis_ofMillis (n : Nat) : (ofMillis n).toMillis = n := by
  simp only [ofMillis, toMillis]
  omega

example : (ofSeconds 5).text = "5s" ∧ (Duration.mk 1 500000000).text = "1.5s" := by decide

example : (ofMillis 300).text = "300ms" ∧ (Duration.mk 0 1500).text = "1.5µs" := by decide

example : (Duration.mk 0 0).text = "0ns" ∧ (Duration.mk 3 1).text = "3.000000001s" := by decide

end Duration

end Roster
