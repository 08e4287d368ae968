import Roster.Time.Duration

/-!
# The clock that waits go by

Waits go by a clock that only moves forward.  Its readings are milliseconds, and it counts seconds
up to a bound.  `Clock.after?` is the reading after a wait, which there is only below the bound.
-/

namespace Roster.Clock

/-- The bound of the seconds that the clock counts. -/
def secondsBound : Nat := 9223372036854775808

/-- The reading after a wait, if the clock gets that far. -/
def after? (now wait : Nat) : Option Nat :=
  if now + wait < secondsBound * 1000 then some (now + wait) else none

/-- A reading after a wait is the sum, and lies below the bound. -/
theorem after?_eq_some_iff {now wait t : Nat} :
    after? now wait = some t ↔ t = now + wait ∧ now + wait < secondsBound * 1000 := by
  unfold after?
  split <;> simp_all [eq_comm]

/-- There is none if the sum is beyond the bound. -/
theorem after?_eq_none_iff {now wait : Nat} :
    after? now wait = none ↔ secondsBound * 1000 ≤ now + wait := by
  unfold after?
  split <;> simp_all

end Roster.Clock
