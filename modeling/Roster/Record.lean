import Roster.Identity
import Roster.Json.Basic
import Roster.Time.Rfc3339

/-!
# Records

What is known of a session, whether it runs or is only remembered.  An *entry* is what is filed
under an identity, and a *record* is an entry with its identity.

A record holds *user data* if it has a note or an output that is not empty.  What has none is
forgotten once its session is gone.
-/

namespace Roster

/-- Whether a session runs. -/
inductive Status where
  /-- The last scan found it. -/
  | active
  /-- It is known from an earlier scan, a note or an output. -/
  | stale
deriving DecidableEq, Repr

/-- The status in one word. -/
def Status.word : Status → String
  | active => "active"
  | stale => "stale"

/-- The last output of a session. -/
structure Captured where
  /-- The output. -/
  text : String
  /-- When it was taken. -/
  takenAt : Instant
deriving DecidableEq, Repr

/-- What is filed under an identity. -/
structure Entry where
  /-- When the session was made, if its node said so. -/
  createdAt : Option Instant := none
  /-- Whether a terminal is attached. -/
  attached : Bool := false
  /-- Whether it runs. -/
  status : Status := .stale
  /-- When a scan last found it. -/
  lastSeen : Option Instant := none
  /-- The user's note. -/
  note : Option String := none
  /-- Its last output. -/
  captured : Option Captured := none
deriving DecidableEq, Repr

namespace Entry

/-- The entry of a session that no scan has found yet. -/
def remembered : Entry := {}

/-- Whether the session runs. -/
def isActive (e : Entry) : Bool := e.status == .active

/-- Whether something would be lost with the entry. -/
def hasUserData (e : Entry) : Bool :=
  e.note.any (· != "") || e.captured.any (·.text != "")

/-- The entry of a session that does not run any more. -/
def retired (e : Entry) : Entry := { e with status := .stale, attached := false }

end Entry

/-- An entry with its identity. -/
structure Record extends Entry where
  /-- The session. -/
  identity : Identity
deriving DecidableEq, Repr

namespace Record

/-- The output as a JSON object. -/
def capturedJson (c : Captured) : Json :=
  .object [("text", .string c.text), ("captured_at", .string (Rfc3339.write c.takenAt))]

/-- The record as a JSON object. -/
def toJson (r : Record) : Json :=
  .object [
    ("identity", .object [("node", .string r.identity.node), ("name", .string r.identity.name)]),
    ("created_at", .ofOption (.string ∘ Rfc3339.write) r.createdAt),
    ("attached", .bool r.attached),
    ("status", .string r.status.word),
    ("last_seen", .ofOption (.string ∘ Rfc3339.write) r.lastSeen),
    ("note", .ofOption .string r.note),
    ("snapshot", .ofOption capturedJson r.captured)]

end Record

example : ({ note := some "" } : Entry).hasUserData = false
    ∧ ({ note := some "keep" } : Entry).hasUserData := by decide

end Roster
