import Roster.Time.Instant

/-!
# Sessions

What a node tells about a session that runs on it.
-/

namespace Roster

/-- A session as its node reports it. -/
structure Session where
  /-- The name. -/
  name : String
  /-- When it was made, if the node says so. -/
  createdAt : Option Instant
  /-- Whether a terminal is attached to it. -/
  attached : Bool
deriving DecidableEq, Repr

end Roster
