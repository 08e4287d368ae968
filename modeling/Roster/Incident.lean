import Roster.Json.Basic
import Roster.Time.Rfc3339

/-!
# Incidents

Failures that the program lives with are kept as incidents, for the user to look at.  On the
screen an incident shows the time of day, what failed, where, and why.
-/

namespace Roster

/-- What failed. -/
inductive IncidentKind where
  /-- Asking the scheduler for nodes. -/
  | scheduler
  /-- Listing the sessions of a node. -/
  | probe
  /-- Taking the output of a session. -/
  | capture
  /-- Loading or saving notes and outputs. -/
  | persistence
  /-- A command of the user. -/
  | command
deriving DecidableEq, Repr

/-- The kind in one word. -/
def IncidentKind.word : IncidentKind → String
  | .scheduler => "scheduler"
  | .probe => "probe"
  | .capture => "capture"
  | .persistence => "persistence"
  | .command => "command"

/-- A failure that is kept for display. -/
structure Incident where
  /-- What failed. -/
  kind : IncidentKind
  /-- The node involved, if there is one. -/
  node : Option String
  /-- When it was noticed. -/
  time : Instant
  /-- Why it failed. -/
  message : String
deriving DecidableEq, Repr

namespace Incident

/-- The incident on one line. -/
def text (e : Incident) : String :=
  let where_ := match e.node with
    | some node => " " ++ node
    | none => ""
  "[" ++ String.ofList (Rfc3339.writeClock e.time) ++ "] " ++ e.kind.word ++ where_ ++ ": "
    ++ e.message

/-- The incident as a JSON object. -/
def toJson (e : Incident) : Json :=
  .object [("kind", .string e.kind.word), ("node", .ofOption .string e.node),
    ("at", .string (Rfc3339.write e.time)), ("message", .string e.message)]

example : (Incident.mk .probe (some "n1") ⟨3661, 0⟩ "gone").text = "[01:01:01] probe n1: gone" := by
  decide +kernel

end Incident

end Roster
