import Roster.Cycle
import Roster.Keeper
import Roster.Refresh

/-!
# The engine

The engine is all that a user deals with.  It keeps the inventory, refreshes it in the background
and does what the user asks: notes, outputs, and actions on sessions.

Time passes only while something is waited for.  `runTo` lets it pass up to a moment and does what
is due in the background until then: cycles end, and the loop of the refreshing starts others.
What is due at the very moment at which the user's own wait ends comes after what the user does
next.

The engine reads two clocks.  `time` is the one that waits go by, in milliseconds, and `clock`
gives the times that are filed.  No two readings of the latter are the same.
-/

namespace Roster

/-- What can be set of an engine. -/
structure Engine.Options where
  /-- The time from the end of a cycle to the next one. -/
  refreshInterval : Duration := .ofSeconds 30
  /-- How nodes are scanned. -/
  scan : Scan.Options := {}
  /-- How many incidents are kept. -/
  errorCapacity : Nat := 200
  /-- How many lines of output are taken when the user asks. -/
  captureLines : Nat := 10
deriving DecidableEq, Repr

/-- Why a command of the user failed. -/
inductive EngineFault where
  /-- The inventory refused it. -/
  | keeper (fault : KeeperFault)
  /-- The action failed. -/
  | action (fault : ActionFault)
  /-- The node did not answer as it should. -/
  | probe (node : String) (fault : ProbeFault)
deriving DecidableEq, Repr

/-- The fault in words. -/
def EngineFault.message : EngineFault → String
  | keeper fault => fault.message
  | action fault => fault.message
  | probe node fault => fault.messageAt node

/-- An engine. -/
structure Engine (σ : Type) where
  /-- What is set of it. -/
  options : Engine.Options
  /-- What it calls. -/
  services : Services
  /-- Where notes and outputs last. -/
  gateway : Gateway σ
  /-- The inventory. -/
  keeper : Keeper σ
  /-- The refreshing. -/
  refresh : Refresh
  /-- The cycle under way. -/
  cycle : Option Cycle := none
  /-- The time that has passed. -/
  time : Nat
  /-- The next reading of the clock for times that are filed. -/
  clock : Instant
  /-- How often the scheduler was asked. -/
  resolutions : Nat := 0
  /-- The calls of the cycles that are over and of the user, the oldest first. -/
  pastCalls : List Scan.Call := []
  /-- The actions tried, the oldest first. -/
  actions : List Action := []

namespace Engine

variable {σ : Type}

/-! ## The inventory -/

/-- What is shown. -/
def view (e : Engine σ) : View := e.keeper.view

/-- The incidents that are shown. -/
def incidents (e : Engine σ) : List Incident := e.view.incidents

/-- Performs an operation on the inventory, at the next reading of the clock. -/
def perform (e : Engine σ) (op : Instant → Operation) : Except KeeperFault Unit × Engine σ :=
  let (result, keeper) := e.keeper.perform e.gateway e.clock (op e.clock)
  (result, { e with keeper, clock := e.clock.next })

/-- Performs an operation that cannot be refused. -/
def note (e : Engine σ) (op : Instant → Operation) : Engine σ := (e.perform op).2

/-- Keeps an incident. -/
def report (e : Engine σ) (kind : IncidentKind) (node : Option String) (message : String) :
    Engine σ :=
  e.note fun now => .addIncident ⟨kind, node, now, message⟩

/-! ## Cycles in the background -/

/-- The cycle that starts now. -/
def newCycle (e : Engine σ) : Cycle :=
  ⟨e.options.scan, e.time, e.services.resolution, e.services.probe⟩

/-- Starts a cycle. -/
def startCycle (e : Engine σ) : Engine σ :=
  { e with cycle := some e.newCycle, resolutions := e.resolutions + 1 }

/-- Ends a cycle: what it found goes into the inventory.  One that breaks off leaves nothing, and
the loop ends with it. -/
def finishCycle (e : Engine σ) (c : Cycle) : Engine σ :=
  let ended := { e with cycle := none, time := c.stop }
  if c.breaksOff then
    { ended with
      pastCalls := e.pastCalls ++ c.callsBeforeBreak
      refresh := e.refresh.step c.stop .abort }
  else
    let merged := { ended with pastCalls := e.pastCalls ++ c.calls }.note fun now =>
      .merge (c.findings now)
    { merged with refresh := merged.refresh.step c.stop .finish }

/-- Gives up a cycle, of which only the calls up to a moment were made. -/
def dropCycle (e : Engine σ) (c : Cycle) (last : Nat) : Engine σ :=
  { e with
    cycle := none
    pastCalls := e.pastCalls ++ c.calls.filter fun call => call.start ≤ last
    refresh := e.refresh.step e.time .abort }

/-- The loop goes on by one step, at the moment given. -/
def turn (e : Engine σ) (moment : Nat) : Engine σ :=
  let event : Refresh.Event := match e.refresh.phase with
    | .chosen _ => .begin
    | _ => .look
  let next := { e with time := moment, refresh := e.refresh.step moment event }
  match next.refresh.phase with
  | .running _ => next.startCycle
  | _ => next

/-- The next thing that happens in the background, if one is due by the moment `limit`. -/
def next? (e : Engine σ) (limit : Nat) : Option (Engine σ) :=
  match e.cycle with
  | some c => if c.stop ≤ limit then some (e.finishCycle c) else none
  | none =>
      match e.refresh.due? e.time with
      | some moment => if moment ≤ limit then some (e.turn moment) else none
      | none => none

/-- Does what is due by the moment `limit`, at most `fuel` steps of it. -/
def runDue (limit : Nat) : Nat → Engine σ → Engine σ
  | 0, e => e
  | fuel + 1, e =>
      match e.next? limit with
      | some next => runDue limit fuel next
      | none => e

/-- Enough steps for all that may be due by a moment.  A cycle takes four steps, and the tick after
it is due a millisecond later at the earliest. -/
def enough (e : Engine σ) (limit : Nat) : Nat := 4 * (limit - e.time) + 16

/-- Lets time pass up to a moment. -/
def runTo (e : Engine σ) (limit : Nat) : Engine σ :=
  let last := runDue limit (e.enough limit) e
  { last with time := max last.time limit }

/-- Does what is due by now. -/
def settle (e : Engine σ) : Engine σ := e.runTo e.time

/-- Waits for an answer that takes some time.  What is due at its end has not been done yet. -/
def await (e : Engine σ) (delay : Nat) : Engine σ :=
  match delay with
  | 0 => e
  | d + 1 => { e.runTo (e.time + d) with time := e.time + d + 1 }

/-- Lets time pass until nothing runs. -/
def drain (e : Engine σ) : Engine σ :=
  let settled := e.settle
  match settled.cycle with
  | some c => (settled.runTo c.stop).settle
  | none => settled

/-- The calls made so far, the oldest first. -/
def calls (e : Engine σ) : List Scan.Call :=
  match e.cycle with
  | some c => e.pastCalls ++ c.calls.filter fun call => call.start ≤ e.time
  | none => e.pastCalls

/-! ## Start and stop -/

/-- An engine that has loaded what lasts but has not scanned. -/
def load (options : Options) (services : Services) (gateway : Gateway σ) (state : σ) (time : Nat)
    (clock : Instant) : Engine σ :=
  let inventory : Inventory := { capacity := options.errorCapacity }
  let bare : Engine σ :=
    { options, services, gateway, time, clock
      keeper := { inventory, state }
      refresh := .spawn time options.refreshInterval.toMillis }
  bare.note fun _ => .load

/-- Starts an engine: it loads what lasts and runs a first cycle, and from then on refreshes in the
background.  The loop of the refreshing has not looked around yet when the engine is there.  If the
first cycle breaks off, the engine is left as it was then, and is of no use. -/
def start (options : Options) (services : Services) (gateway : Gateway σ) (state : σ) (time : Nat)
    (clock : Instant) : Except (Engine σ) (Engine σ) :=
  let first := (load options services gateway state time clock).startCycle
  let scanned := first.finishCycle first.newCycle
  if first.newCycle.breaksOff then .error scanned
  else .ok { scanned with refresh := .spawn scanned.time options.refreshInterval.toMillis }

/-- Stops the refreshing.  A cycle under way has the time `grace` to end, and is given up if it has
not ended before. -/
def halt (e : Engine σ) (grace : Nat) : Engine σ :=
  let asked := { e with refresh := (e.refresh.step e.time .stop).step e.time .cancel }
  match asked.cycle with
  | none => asked.settle
  | some c =>
      if c.stop < e.time + grace then asked.runTo c.stop
      else
        { asked.dropCycle c (e.time + (grace - 1)) with time := e.time + grace }

/-- Stops the engine, and saves once more. -/
def stop (e : Engine σ) (grace : Nat) : Except KeeperFault Unit × Engine σ :=
  (e.halt grace).perform fun _ => .flush

/-! ## Commands -/

/-- Asks for a cycle. -/
def force (e : Engine σ) : Refresh.Request × Engine σ :=
  (e.refresh.request, { e with refresh := e.refresh.step e.time .force })

/-- From now on other services are called.  What was asked already is answered by the old ones. -/
def setServices (e : Engine σ) (services : Services) : Engine σ :=
  { e with
    services
    cycle := e.cycle.map fun c => { c with probe := c.probe.switch services.probe e.time } }

/-- Whether a session is shown as running. -/
def shows (e : Engine σ) (id : Identity) : Bool := (e.view.get? id).any (·.isActive)

/-- Whether an action needs a session that runs, and which. -/
def subject? : Action → Option Identity
  | .kill id | .attach id => some id
  | .create .. | .shell _ => none

/-- Whether a refresh follows an action.  What the user did at a terminal is not known, so it
always follows that. -/
def refreshesAfter (a : Action) (d : Deed) : Bool := a.isInteractive || d.result.toBool

/-- Does an action and sees to what follows from it: a refresh, and an incident if it failed. -/
def carryOut (e : Engine σ) (a : Action) : Except ActionFault Unit × Engine σ :=
  let deed := e.services.act a
  let done := { e.await deed.delay with actions := e.actions ++ [a] }
  let asked := if refreshesAfter a deed then done.force.2 else done
  match deed.result with
  | .ok () => (.ok (), asked)
  | .error fault => (.error fault, asked.report .command fault.node? fault.message)

/-- Does an action, unless it is for a session that does not run. -/
def act (e : Engine σ) (a : Action) : Except ActionFault Unit × Engine σ :=
  match subject? a with
  | none => e.carryOut a
  | some id => if e.shows id then e.carryOut a else (.error (.offline id), e)

/-- Files the output of a session, or the reason why there is none. -/
def fileOutput (e : Engine σ) (id : Identity) :
    Except ProbeFault String → Except EngineFault String × Engine σ
  | .ok text =>
      let (result, filed) := e.perform fun now => .setCapture id ⟨text, now⟩
      (match result with
        | .ok () => .ok text
        | .error fault => .error (.keeper fault), filed)
  | .error fault =>
      (.error (.probe id.node fault),
        e.report .capture (some id.node) (id.name ++ ": " ++ fault.message))

/-- Takes the output of a session that runs, and files it. -/
def capture (e : Engine σ) (id : Identity) : Except EngineFault String × Engine σ :=
  if e.shows id then
    let o := e.options.scan
    let answer := e.services.probe.capture e.time id e.options.captureLines
    let (result, delay) := Scan.within o.deadline o.room answer
    let call : Scan.Call :=
      ⟨id.node, .capture id.name e.options.captureLines, e.time, e.time + delay⟩
    ({ e with pastCalls := e.pastCalls ++ [call] }.await delay).fileOutput id result
  else (.error (.action (.offline id)), e)

end Engine

end Roster
