import Roster.Findings
import Roster.View

/-!
# The inventory

The inventory files an entry under each identity that runs or that the user has left something
for.  It changes by the findings of scans and by the user's commands, and keeps the latest
incidents, as many as its capacity says.

* `merge` takes in the findings of a scan: what it listed is active and keeps its note and output,
  what it did not list turns stale if it holds user data and is dropped otherwise, and the outputs
  taken are filed.
* `load` files what was saved, as stale.
* `view` is the inventory as it is shown: active records by identity, then stale ones, those last
  seen latest first and those never seen at the end.
* `saved` is the part that lasts: the notes that are not empty, and the outputs.
-/

namespace Roster

/-- The part of the inventory that lasts. -/
structure Saved where
  /-- The notes. -/
  notes : Table Identity String := .empty
  /-- The outputs. -/
  captures : Table Identity Captured := .empty
deriving DecidableEq

/-- What a load brings back. -/
structure Loaded extends Saved where
  /-- What was amiss. -/
  warnings : List String := []
deriving DecidableEq

/-- The sessions known, the nodes of the last scan and the latest incidents. -/
structure Inventory where
  /-- What is filed under each identity. -/
  entries : Table Identity Entry := .empty
  /-- The nodes of the last scan. -/
  nodes : List NodeSummary := []
  /-- The latest incidents, the oldest first. -/
  incidents : List Incident := []
  /-- How many incidents are kept. -/
  capacity : Nat := 200
  /-- When the last scan ended. -/
  scannedAt : Option Instant := none
deriving DecidableEq

namespace Inventory

/-! ## Incidents -/

/-- The last `n` items of a list. -/
def lastItems {α : Type} (n : Nat) (items : List α) : List α := items.drop (items.length - n)

/-- Keeps one more incident, and drops the oldest if there are too many. -/
def addIncident (inv : Inventory) (incident : Incident) : Inventory :=
  { inv with incidents := lastItems inv.capacity (inv.incidents ++ [incident]) }

/-- Keeps more incidents. -/
def addIncidents (inv : Inventory) (incidents : List Incident) : Inventory :=
  incidents.foldl addIncident inv

/-! ## Commands -/

/-- Files a note under an identity. -/
def putNote (entries : Table Identity Entry) (id : Identity) (note : String) :
    Table Identity Entry :=
  entries.insert id { (entries.get? id).getD .remembered with note := some note }

/-- Files an output under an identity. -/
def putCapture (entries : Table Identity Entry) (id : Identity) (c : Captured) :
    Table Identity Entry :=
  entries.insert id { (entries.get? id).getD .remembered with captured := some c }

/-- Files what was saved. -/
def load (inv : Inventory) (saved : Saved) : Inventory :=
  let withNotes := saved.notes.entries.foldl (fun t e => putNote t e.1 e.2) inv.entries
  { inv with
    entries := saved.captures.entries.foldl (fun t e => putCapture t e.1 e.2) withNotes }

/-- Files a note under an identity that is known. -/
def setNote (inv : Inventory) (id : Identity) (note : String) : Option Inventory :=
  (inv.entries.get? id).map fun _ => { inv with entries := putNote inv.entries id note }

/-- Takes the note off an identity, and drops what is stale and holds no user data then. -/
def deleteNote (inv : Inventory) (id : Identity) : Option Inventory :=
  (inv.entries.get? id).map fun e =>
    let bare := { e with note := none }
    if bare.isActive || bare.hasUserData then
      { inv with entries := inv.entries.insert id bare }
    else { inv with entries := inv.entries.erase id }

/-- Files an output under an identity that is known. -/
def setCapture (inv : Inventory) (id : Identity) (c : Captured) : Option Inventory :=
  (inv.entries.get? id).map fun _ => { inv with entries := putCapture inv.entries id c }

/-- Drops an identity. -/
def drop (inv : Inventory) (id : Identity) : Inventory :=
  { inv with entries := inv.entries.erase id }

/-! ## Scans -/

/-- The entries of a scan so far, and those of before that no listing has claimed yet. -/
structure Merging where
  /-- The entries of before that are left. -/
  previous : Table Identity Entry
  /-- The entries of the sessions listed. -/
  next : Table Identity Entry

/-- Takes in one session: it is active, and keeps the note and the output of before. -/
def claim (time : Instant) (node : String) (m : Merging) (s : Session) : Merging :=
  let id : Identity := ⟨node, s.name⟩
  let prior := m.previous.get? id
  { previous := m.previous.erase id
    next := m.next.insert id
      { createdAt := s.createdAt
        attached := s.attached
        status := .active
        lastSeen := some time
        note := prior.bind (·.note)
        captured := prior.bind (·.captured) } }

/-- The sessions that a scan listed, each with its node. -/
def listed (f : Findings) : List (String × Session) :=
  f.probed.entries.flatMap fun e => e.2.sessions.map (e.1, ·)

/-- The outputs that a scan took, each with its identity. -/
def capturesOf (f : Findings) : List (Identity × String) :=
  f.probed.entries.flatMap fun e => e.2.captures.entries.map fun c => (⟨e.1, c.1⟩, c.2)

/-- All sessions that a scan listed, and what is left of before. -/
def claimAll (entries : Table Identity Entry) (f : Findings) : Merging :=
  (listed f).foldl (fun m e => claim f.completedAt e.1 m e.2) ⟨entries, .empty⟩

/-- Adds what is left of before: it is stale, and dropped if it holds no user data. -/
def keepRest (m : Merging) : Table Identity Entry :=
  m.previous.entries.foldl
    (fun t e => if e.2.retired.hasUserData then t.insert e.1 e.2.retired else t) m.next

/-- Files one output, if its identity is known. -/
def fileCapture (time : Instant) (entries : Table Identity Entry) (c : Identity × String) :
    Table Identity Entry :=
  match entries.get? c.1 with
  | none => entries
  | some e => entries.insert c.1 { e with captured := some ⟨c.2, time⟩ }

/-- The entries after a scan, before its outputs are filed. -/
def mergeSessions (entries : Table Identity Entry) (f : Findings) : Table Identity Entry :=
  keepRest (claimAll entries f)

/-- The entries after a scan. -/
def mergeEntries (entries : Table Identity Entry) (f : Findings) : Table Identity Entry :=
  (capturesOf f).foldl (fileCapture f.completedAt) (mergeSessions entries f)

/-- Whether a scan took an output that is filed. -/
def filesCapture (entries : Table Identity Entry) (f : Findings) : Bool :=
  (capturesOf f).any fun c => (mergeSessions entries f).contains c.1

/-- The nodes of a scan, as they are shown. -/
def summaries (f : Findings) : List NodeSummary :=
  f.nodes.map fun a =>
    ⟨a.node, a.timeLeft, ((f.probed.get? a.node).map (·.sessions.length)).getD 0⟩

/-- Takes in the findings of a scan. -/
def merge (inv : Inventory) (f : Findings) : Inventory :=
  addIncidents
    { inv with
      entries := mergeEntries inv.entries f
      nodes := summaries f
      scannedAt := some f.completedAt }
    f.incidents

/-! ## What is shown and what lasts -/

/-- Whether a stale record comes before another: the one seen later, then by identity. -/
def staleOrder (a b : Record) : Bool :=
  ((compare b.lastSeen a.lastSeen).then (compare a.identity b.identity)).isLE

/-- All records, by identity. -/
def records (inv : Inventory) : List Record :=
  inv.entries.entries.map fun e => { e.2 with identity := e.1 }

/-- The inventory as it is shown. -/
def view (inv : Inventory) : View where
  records := inv.records.filter (·.isActive)
    ++ (inv.records.filter (!·.isActive)).mergeSort staleOrder
  nodes := inv.nodes
  incidents := inv.incidents
  scannedAt := inv.scannedAt

/-- The part that lasts. -/
def saved (inv : Inventory) : Saved where
  notes := inv.entries.filterMap fun _ e => e.note.filter (· != "")
  captures := inv.entries.filterMap fun _ e => e.captured

end Inventory

end Roster
