import Roster.Allocation
import Roster.Incident
import Roster.Session
import Roster.Table

/-!
# Findings

What one pass over the nodes has found: the nodes that the scheduler named, what each node told
that answered, and the failures on the way.
-/

namespace Roster

/-- What one node told. -/
structure NodeFindings where
  /-- Its sessions. -/
  sessions : List Session
  /-- The outputs taken, by the names of the sessions. -/
  captures : Table String String
deriving DecidableEq

/-- What one pass has found. -/
structure Findings where
  /-- The nodes that were named. -/
  nodes : List Allocation
  /-- What each node told that answered. -/
  probed : Table String NodeFindings
  /-- The failures. -/
  incidents : List Incident
  /-- When the pass ended. -/
  completedAt : Instant
deriving DecidableEq

/-- A pass that found no nodes, for the reason given. -/
def Findings.unresolved (incident : Incident) (time : Instant) : Findings :=
  ⟨[], .empty, [incident], time⟩

end Roster
