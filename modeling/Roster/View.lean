import Roster.Incident
import Roster.Record
import Roster.Text.Blank
import Roster.Text.Lowercase
import Roster.Text.Search

/-!
# Views

A view is the whole inventory at one point in time, ready to be shown: records, nodes, incidents
and the time of the last scan.

`filter` keeps the records whose node, name or note holds a text, whatever the case of letters.
Blanks around the text do not count, and an empty text keeps everything.
-/

namespace Roster

/-- A node, with the time left of it and the number of sessions that run on it. -/
structure NodeSummary where
  /-- The node. -/
  node : String
  /-- The time left, in the scheduler's own words. -/
  timeLeft : Option String
  /-- How many sessions run on it. -/
  activeSessions : Nat
deriving DecidableEq, Repr

/-- The inventory at one point in time. -/
structure View where
  /-- The records, running sessions first. -/
  records : List Record := []
  /-- The nodes of the last scan. -/
  nodes : List NodeSummary := []
  /-- The incidents kept, the oldest first. -/
  incidents : List Incident := []
  /-- When the last scan ended, if there was one. -/
  scannedAt : Option Instant := none
deriving DecidableEq, Repr

namespace View

/-- The record of a session. -/
def get? (v : View) (id : Identity) : Option Record :=
  v.records.find? fun r => r.identity == id

/-- The records of sessions that run. -/
def active (v : View) : List Record := v.records.filter (·.isActive)

/-- The records of sessions that do not run. -/
def stale (v : View) : List Record := v.records.filter (!·.isActive)

/-- The time left of a node. -/
def timeLeft (v : View) (node : String) : Option String :=
  (v.nodes.find? fun n => n.node == node).bind (·.timeLeft)

/-- What a query looks for. -/
def needle (query : String) : String := Text.lower (Text.trim query)

/-- Whether a text holds what is looked for. -/
def holds (needle text : String) : Bool :=
  Text.occursIn needle.toList (Text.lower text).toList

/-- Whether one of the texts of a record holds what is looked for. -/
def matchesNeedle (needle : String) (r : Record) : Bool :=
  holds needle r.identity.node || holds needle r.identity.name || r.note.any (holds needle)

/-- The records that a query asks for, in the order of the view. -/
def filter (v : View) (query : String) : List Record :=
  if needle query = "" then v.records else v.records.filter (matchesNeedle (needle query))

/-- The nodes on which no session runs. -/
def idleNodes (v : View) : List NodeSummary := v.nodes.filter (·.activeSessions == 0)

/-- A node as a JSON object. -/
def nodeJson (n : NodeSummary) : Json :=
  .object [("node", .string n.node), ("time_left", .ofOption .string n.timeLeft),
    ("active_sessions", .number n.activeSessions)]

/-- The view as a JSON object. -/
def toJson (v : View) : Json :=
  .object [("records", .array (v.records.map Record.toJson)),
    ("nodes", .array (v.nodes.map nodeJson)),
    ("errors", .array (v.incidents.map Incident.toJson)),
    ("scanned_at", .ofOption (.string ∘ Rfc3339.write) v.scannedAt)]

end View

end Roster
