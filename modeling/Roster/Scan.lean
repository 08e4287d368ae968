import Roster.Findings
import Roster.Probe

/-!
# Scans

A scan visits the nodes that the scheduler named.  A visit lists the sessions of its node and, if
outputs are wanted, takes the output of each session, one after the other.  The listing has a
deadline, and all outputs of a node share another one, so that a visit ends within two deadlines
and has one call under way at a time.

At most so many nodes are visited at once.  The nodes are taken in their order, each as soon as
there is room (`visits`).  A node that fails costs an incident and nothing else.

Times are milliseconds from a common start.  Only calls take time.
-/

namespace Roster.Scan

/-- How nodes are scanned. -/
structure Options where
  /-- How many nodes are visited at once; zero counts as one. -/
  maxConcurrent : Nat := 20
  /-- How long a listing may take, and all outputs of a node. -/
  deadline : Duration := .ofSeconds 6
  /-- How many lines of output are taken, if any. -/
  captureLines : Option Nat := none
deriving DecidableEq, Repr

/-- The deadline in milliseconds. -/
def Options.room (o : Options) : Nat := o.deadline.toMillis

/-! ## Calls -/

/-- What a call asks for. -/
inductive Question where
  /-- The sessions. -/
  | list
  /-- The last lines of output of a session. -/
  | capture (session : String) (lines : Nat)
deriving DecidableEq, Repr

/-- A call that was made, under way from its start until before its stop. -/
structure Call where
  /-- The node. -/
  node : String
  /-- What it asked for. -/
  question : Question
  /-- When it started. -/
  start : Nat
  /-- When it was over. -/
  stop : Nat
deriving DecidableEq, Repr

/-- How many of the calls are under way at a moment. -/
def underWay (calls : List Call) (t : Nat) : Nat :=
  calls.countP fun c => c.start ≤ t && t < c.stop

/-- The greatest number of calls under way at one moment.  It is reached when a call starts. -/
def peak (calls : List Call) : Nat := (calls.map fun c => underWay calls c.start).foldl max 0

/-- An answer cut off if it has not come within `room`, with the time that passed. -/
def within {α : Type} (limit : Duration) (room : Nat) (a : Answer α) :
    Except ProbeFault α × Nat :=
  match a.delay with
  | some d => if d ≤ room then (a.result, d) else (.error (.timeout limit), room)
  | none => (.error (.timeout limit), room)

/-! ## Visits -/

/-- The outputs taken on a node. -/
structure Takings where
  /-- The outputs, in the order in which they came. -/
  taken : List (String × String) := []
  /-- The sessions whose output did not come, and why. -/
  failures : List (String × ProbeFault) := []
  /-- The calls made. -/
  calls : List Call := []
  /-- The time passed since the listing. -/
  elapsed : Nat
deriving Repr

/-- Takes the outputs of sessions, from `begin + elapsed` on. -/
def takeAll (probe : Probe) (o : Options) (lines begin : Nat) (node : String) :
    Nat → List Session → Takings
  | elapsed, [] => { elapsed }
  | elapsed, s :: rest =>
      if o.room ≤ elapsed then
        let more := takeAll probe o lines begin node elapsed rest
        { more with failures := (s.name, .timeout o.deadline) :: more.failures }
      else
        let start := begin + elapsed
        let (result, time) :=
          within o.deadline (o.room - elapsed) (probe.capture start ⟨node, s.name⟩ lines)
        let more := takeAll probe o lines begin node (elapsed + time) rest
        let calls := ⟨node, .capture s.name lines, start, start + time⟩ :: more.calls
        match result with
        | .ok text => { more with taken := (s.name, text) :: more.taken, calls }
        | .error fault => { more with failures := (s.name, fault) :: more.failures, calls }

/-- What came of a node. -/
structure Visit where
  /-- The node. -/
  node : String
  /-- When the visit started. -/
  start : Nat
  /-- The sessions listed, or why there are none. -/
  listed : Except ProbeFault (List Session)
  /-- The outputs, in the order in which they came. -/
  taken : List (String × String) := []
  /-- The sessions whose output did not come, and why. -/
  failures : List (String × ProbeFault) := []
  /-- The calls made. -/
  calls : List Call
  /-- When the visit was over. -/
  stop : Nat

/-- Visits a node. -/
def visit (probe : Probe) (o : Options) (start : Nat) (node : String) : Visit :=
  let (listed, time) := within o.deadline o.room (probe.list start node)
  let begin := start + time
  let call : Call := ⟨node, .list, start, begin⟩
  match listed, o.captureLines with
  | .ok sessions, some lines =>
      let t := takeAll probe o lines begin node 0 sessions
      { node, start, listed := .ok sessions, taken := t.taken, failures := t.failures
        calls := call :: t.calls, stop := begin + t.elapsed }
  | listed, _ => { node, start, listed, calls := [call], stop := begin }

/-- The time at which there is room first. -/
def earliest (slots : List Nat) : Nat := slots.min?.getD 0

/-- Visits nodes in their order.  Each slot is free from its time on, and each visit takes the
slot that is free first. -/
def visits (probe : Probe) (o : Options) : List Nat → List String → List Visit
  | _, [] => []
  | slots, node :: rest =>
      let start := earliest slots
      let v := visit probe o start node
      v :: visits probe o (v.stop :: slots.erase start) rest

/-! ## Passes -/

/-- A scan of some nodes. -/
structure Pass where
  /-- The nodes. -/
  nodes : List Allocation
  /-- The visits, in the order of the nodes. -/
  visits : List Visit
  /-- When the last visit was over. -/
  stop : Nat

/-- How many nodes are visited at once. -/
def Options.width (o : Options) : Nat := max o.maxConcurrent 1

/-- Scans nodes, from the time `start` on. -/
def scan (probe : Probe) (o : Options) (start : Nat) (nodes : List Allocation) : Pass :=
  let slots := List.replicate (min o.width nodes.length) start
  let done := visits probe o slots (nodes.map (·.node))
  { nodes, visits := done, stop := (done.map (·.stop)).foldl max start }

/-- The calls made. -/
def Pass.calls (p : Pass) : List Call := p.visits.flatMap (·.calls)

/-- The visits in the order in which they were over. -/
def Pass.completed (p : Pass) : List Visit := p.visits.mergeSort fun v w => v.stop ≤ w.stop

/-! ## What was found

Visits come as they are over, and are put in the order of the nodes then. -/

/-- The place of a node among the nodes, the last one if it is named more than once. -/
def rank (nodes : List Allocation) (node : String) : Nat :=
  nodes.length - (nodes.map (·.node)).reverse.idxOf node

/-- Visits in the order of the nodes.  Visits of one node stay in the order in which they come. -/
def inOrder (nodes : List Allocation) (completed : List Visit) : List Visit :=
  completed.mergeSort fun v w => rank nodes v.node ≤ rank nodes w.node

/-- The incidents of a visit. -/
def incidents (now : Instant) (v : Visit) : List Incident :=
  (match v.listed with
    | .ok _ => []
    | .error fault => [⟨.probe, some v.node, now, fault.message⟩])
    ++ v.failures.map fun f => ⟨.capture, some v.node, now, f.1 ++ ": " ++ f.2.message⟩

/-- What the node of a visit told, if it answered. -/
def told? (v : Visit) : Option (String × NodeFindings) :=
  match v.listed with
  | .ok sessions => some (v.node, ⟨sessions, .ofList v.taken⟩)
  | .error _ => none

/-- What was found, as of the time `now`, by visits that were over in the order given. -/
def gather (nodes : List Allocation) (completed : List Visit) (now : Instant) : Findings where
  nodes := nodes
  probed := .ofList ((inOrder nodes completed).filterMap told?)
  incidents := (inOrder nodes completed).flatMap (incidents now)
  completedAt := now

/-- What a scan found, as of the time `now`. -/
def Pass.findings (p : Pass) (now : Instant) : Findings := gather p.nodes p.completed now

end Roster.Scan
