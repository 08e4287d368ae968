import Roster.View

/-!
# Reports

A view as it is printed, line by line.  `inventory` is a table of the records that a query asks
for.  Without a query the nodes on which no session runs follow below.

Columns are filled up to their widths with blanks, counted by characters.  The column of the nodes
has a width as well, but only its heading is filled up: the name of a node ignores the width.
-/

namespace Roster.Report

/-- A text filled up with blanks on its right. -/
def padRight (width : Nat) (s : String) : String :=
  s ++ String.ofList (List.replicate (width - s.length) ' ')

/-- The widths of the columns in front of the notes. -/
structure Widths where
  /-- The time left. -/
  timeLeft : Nat := 12
  /-- The heading of the nodes. -/
  node : Nat := 16
  /-- The session. -/
  session : Nat := 24
  /-- The status. -/
  status : Nat := 10
deriving DecidableEq, Repr

/-- The widths in use. -/
def widths : Widths := {}

/-- The cells of a line, a blank between each and the next. -/
def line (cells : List String) : String := " ".intercalate cells

/-- The heading of the table. -/
def heading : String :=
  line [padRight widths.timeLeft "TIME LEFT", padRight widths.node "NODE",
    padRight widths.session "SESSION", padRight widths.status "STATUS", "NOTES"]

/-- The status of a record, in the table. -/
def statusLabel (r : Record) : String :=
  if r.isActive then if r.attached then "attached" else "active" else "stale"

/-- The row of a record. -/
def row (v : View) (r : Record) : String :=
  line [padRight widths.timeLeft ((v.timeLeft r.identity.node).getD "-"), r.identity.node,
    padRight widths.session r.identity.name, padRight widths.status (statusLabel r),
    r.note.getD ""]

/-- The table of some records, or what is said if there are none. -/
def table (v : View) : List Record → List String
  | [] =>
      if v.nodes.isEmpty then ["No allocated nodes and no remembered sessions."]
      else ["No sessions."]
  | records => heading :: records.map (row v)

/-- The line of a node on which no session runs. -/
def idleLine (n : NodeSummary) : String := line ["", "", n.node, n.timeLeft.getD "-"]

/-- The nodes on which no session runs. -/
def idle (v : View) : List String :=
  match v.idleNodes with
  | [] => []
  | nodes => "" :: "Nodes without sessions:" :: nodes.map idleLine

/-- What a query asks for. -/
def inventory (v : View) (query : String) : List String :=
  table v (v.filter query) ++ if query = "" then idle v else []

/-- The incidents. -/
def incidents : List Incident → List String
  | [] => ["No errors."]
  | es => es.map Incident.text

/-- When the last scan ended and how many incidents there are. -/
def footer (v : View) : List String :=
  match v.scannedAt with
  | none => []
  | some time =>
      ["", "Last scan " ++ String.ofList (Rfc3339.writeClock time) ++ " · "
        ++ String.ofList (Text.writeNat v.incidents.length) ++ " error(s) · Ctrl+C to quit"]

/-- The lines as text, each with its end. -/
def unlines (lines : List String) : String := String.join (lines.map (· ++ "\n"))

/-- What clears a terminal and goes to its first place. -/
def clearScreen : String := "\x1b[2J\x1b[1;1H"

/-- The screen that shows what a query asks for. -/
def screen (v : View) (query : String) : String :=
  clearScreen ++ unlines (inventory v query ++ footer v)

example : inventory {} "" = ["No allocated nodes and no remembered sessions."] := by
  decide +kernel

example : inventory { nodes := [⟨"n1", none, 0⟩] } "" =
    ["No sessions.", "", "Nodes without sessions:", "  n1 -"] := by decide +kernel

end Roster.Report
