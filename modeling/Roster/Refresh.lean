import Roster.Time.Clock

/-!
# Refreshing

The inventory is refreshed by cycles, one interval after the end of the cycle before or when the
user asks.  One loop runs them, so they never overlap.  The loop waits for one of three things, of
which the first in this order counts: the cancellation, a request, the next tick.  Then it looks
whether it was stopped, and if not, it runs a cycle.

Requests reach the loop by a bell.  A bell that rings wakes the loop if it waits and was not woken
yet.  Otherwise the ring is kept, one at most, and the loop hears it when it comes back.  A loop
that was woken leaves a ring that was kept.

`Refresh.step` is what one event does to all this.  An event that does not fit the phase of the
loop does nothing.  Times are milliseconds.
-/

namespace Roster

namespace Refresh

/-- What is said of the refreshing. -/
inductive Status where
  /-- No cycle runs. -/
  | idle
  /-- A cycle runs. -/
  | scanning
  /-- No cycle will start any more. -/
  | stopped
deriving DecidableEq, Repr

/-- What a request comes to. -/
inductive Request where
  /-- A cycle will start at once. -/
  | scheduled
  /-- The request is one with an earlier one, or waits for the end of the cycle that runs. -/
  | coalesced
  /-- No cycle will start. -/
  | ignored
deriving DecidableEq, Repr

/-- Why a cycle starts. -/
inductive Cause where
  /-- The bell rang. -/
  | bell
  /-- The tick was due. -/
  | tick
deriving DecidableEq, Repr

/-- How far the loop is. -/
inductive Phase where
  /-- It is about to wait. -/
  | arriving
  /-- It waits, and perhaps a ring has woken it. -/
  | waiting (woken : Bool)
  /-- It has seen a cause, but has not looked yet whether it was stopped. -/
  | chosen (cause : Cause)
  /-- It runs a cycle. -/
  | running (cause : Cause)
  /-- It is over. -/
  | finished
deriving DecidableEq, Repr

/-- Something that happens to the refreshing. -/
inductive Event where
  /-- A cycle is asked for. -/
  | force
  /-- The loop looks around. -/
  | look
  /-- The loop starts the cycle that it has a cause for. -/
  | begin
  /-- The cycle ends. -/
  | finish
  /-- No cycle shall start any more. -/
  | stop
  /-- The loop shall end. -/
  | cancel
  /-- The loop is ended at the point where it is. -/
  | abort
deriving DecidableEq, Repr

end Refresh

/-- The refreshing of an inventory. -/
structure Refresh where
  /-- The time from the end of a cycle to the next tick. -/
  interval : Nat
  /-- When the next tick is due. -/
  nextTick : Nat
  /-- What is said of it. -/
  status : Refresh.Status := .idle
  /-- Whether a cycle was asked for since the last one started. -/
  pending : Bool := false
  /-- Whether a ring is kept. -/
  kept : Bool := false
  /-- Whether the loop shall end. -/
  cancelled : Bool := false
  /-- How far the loop is. -/
  phase : Refresh.Phase := .arriving
  /-- How many cycles have ended. -/
  cycles : Nat := 0
deriving DecidableEq, Repr

namespace Refresh

/-- Sets the next tick and goes back to the wait.  A tick that the clock does not reach ends the
loop. -/
def rearm (now : Nat) (r : Refresh) : Refresh :=
  match Clock.after? now r.interval with
  | some nextTick => { r with nextTick, phase := .arriving }
  | none => { r with phase := .finished }

/-- A refreshing whose first tick is one interval from now.  An interval of no length cannot be
kept, and the loop ends before its first wait. -/
def spawn (now interval : Nat) : Refresh :=
  let r : Refresh := { interval, nextTick := now }
  if interval = 0 then { r with phase := .finished } else r.rearm now

/-- What a request comes to. -/
def request (r : Refresh) : Request :=
  if r.status = .stopped then .ignored
  else if r.status = .scanning || r.pending then .coalesced
  else .scheduled

/-- Rings the bell. -/
def ring (r : Refresh) : Refresh :=
  match r.phase with
  | .waiting false => { r with phase := .waiting true }
  | _ => { r with kept := true }

/-- Takes in a request. -/
def force (r : Refresh) : Refresh :=
  if r.request = .ignored then r else { r with pending := true }.ring

/-- The end of the loop. -/
def close (r : Refresh) : Refresh := { r with phase := .finished, status := .stopped }

/-- The loop looks around while it waits or is about to.  If it leaves unheard what has woken it,
the ring is kept. -/
def look (now : Nat) (r : Refresh) : Refresh :=
  match r.phase with
  | .arriving =>
      if r.cancelled then r.close
      else if r.kept then { r with kept := false, phase := .chosen .bell }
      else if r.nextTick ≤ now then { r with phase := .chosen .tick }
      else { r with phase := .waiting false }
  | .waiting woken =>
      if r.cancelled then { r with kept := r.kept || woken }.close
      else if woken then { r with phase := .chosen .bell }
      else if r.nextTick ≤ now then { r with phase := .chosen .tick }
      else r
  | _ => r

/-- The loop starts the cycle that it has a cause for, unless it was stopped. -/
def begin (r : Refresh) : Refresh :=
  match r.phase with
  | .chosen cause =>
      if r.status = .stopped then r.close
      else { r with status := .scanning, pending := false, phase := .running cause }
  | _ => r

/-- The cycle ends, and the next tick is one interval from now. -/
def finish (now : Nat) (r : Refresh) : Refresh :=
  match r.phase with
  | .running _ =>
      rearm now
        { r with
          cycles := r.cycles + 1
          status := if r.status = .scanning then .idle else r.status }
  | _ => r

/-- What an event does. -/
def step (now : Nat) (r : Refresh) : Event → Refresh
  | .force => r.force
  | .look => r.look now
  | .begin => r.begin
  | .finish => r.finish now
  | .stop => { r with status := .stopped }
  | .cancel => { r with cancelled := true }
  | .abort => { r with phase := .finished }

/-- What a run of events does, each at its time. -/
def run (r : Refresh) (events : List (Nat × Event)) : Refresh :=
  events.foldl (fun r e => r.step e.1 e.2) r

/-- When the loop goes on without anything happening first, if it does. -/
def due? (now : Nat) (r : Refresh) : Option Nat :=
  match r.phase with
  | .arriving | .chosen _ => some now
  | .waiting woken => some (if r.cancelled || woken then now else max now r.nextTick)
  | .running _ | .finished => none

/-- Two requests while the loop waits: one wakes it, the other is kept. -/
example :
    let r := (spawn 0 1000).run [(0, .look), (5, .force), (5, .force), (5, .look), (5, .begin)]
    r.phase = .running .bell ∧ r.kept ∧ !r.pending ∧ r.status = .scanning := by decide +kernel

/-- A tick comes one interval after the end of a cycle. -/
example :
    let r := (spawn 0 1000).run
      [(0, .look), (5, .force), (5, .look), (5, .begin), (300, .finish), (1299, .look)]
    r.phase = .waiting false ∧ (r.step 1300 .look).phase = .chosen .tick := by decide +kernel

end Refresh

end Roster
