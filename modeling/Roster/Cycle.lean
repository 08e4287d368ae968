import Roster.Scan
import Roster.Services
import Roster.Time.Clock

/-!
# Cycles

A cycle asks the scheduler for the nodes and scans them.  It is known from its start how it goes
(`pass?`), when it ends (`stop`) and what it finds (`findings`).

A scheduler that fails does not stop the cycle: it finds no nodes, and one incident says why.

The deadline of a node's outputs is reckoned from the end of its listing.  If it lies beyond the
clock, the cycle breaks off at the end of that listing (`breaksOff`).  The calls that were made by
then are those of the visits that have begun (`begun`): a visit that breaks the cycle off makes room
for no other.
-/

namespace Roster

/-- A cycle under way. -/
structure Cycle where
  /-- How nodes are scanned. -/
  options : Scan.Options
  /-- When it started. -/
  start : Nat
  /-- What the scheduler answers. -/
  resolution : Resolution
  /-- The way to ask nodes. -/
  probe : Probe

namespace Cycle

/-- When the scheduler has answered. -/
def resolvedAt (c : Cycle) : Nat := c.start + c.resolution.delay

/-- The scan, if there are nodes to scan. -/
def pass? (c : Cycle) : Option Scan.Pass :=
  c.resolution.result.toOption.map (Scan.scan c.probe c.options c.resolvedAt)

/-- When the cycle ends. -/
def stop (c : Cycle) : Nat :=
  match c.pass? with
  | some pass => pass.stop
  | none => c.resolvedAt

/-- The calls that the cycle makes. -/
def calls (c : Cycle) : List Scan.Call :=
  match c.pass? with
  | some pass => pass.calls
  | none => []

/-- What the cycle finds, as of the time `now`. -/
def findings (c : Cycle) (now : Instant) : Findings :=
  match c.resolution.result with
  | .error fault => .unresolved ⟨.scheduler, none, now, fault.message⟩ now
  | .ok nodes => (Scan.scan c.probe c.options c.resolvedAt nodes).findings now

/-! ## Cycles that break off -/

/-- Whether outputs are wanted of a visited node, and their deadline lies beyond the clock. -/
def overruns (o : Scan.Options) (v : Scan.Visit) : Bool :=
  o.captureLines.isSome && v.listed.toBool &&
    v.calls.head?.any fun call => (Clock.after? call.stop o.room).isNone

/-- Whether the deadline of a node's outputs lies beyond the clock.  Such a cycle breaks off. -/
def breaksOff (c : Cycle) : Bool :=
  match c.pass? with
  | none => false
  | some pass => pass.visits.any (overruns c.options)

/-- Visits nodes in their order, as `Scan.visits` does, but a visit whose deadline lies beyond the
clock does not give its slot back. -/
def begun (probe : Probe) (o : Scan.Options) : List Nat → List String → List Scan.Visit
  | [], _ | _, [] => []
  | slots, node :: rest =>
      let start := Scan.earliest slots
      let v := Scan.visit probe o start node
      v :: begun probe o
        (if overruns o v then slots.erase start else v.stop :: slots.erase start) rest

/-- The calls of some visits up to the first listing whose deadline lies beyond the clock.  What
comes at the same moment as that listing comes before it. -/
def callsUntilOverrun (o : Scan.Options) (visits : List Scan.Visit) : List Scan.Call :=
  let calls := visits.flatMap fun v => if overruns o v then v.calls.take 1 else v.calls
  match ((visits.filter (overruns o)).flatMap (·.calls.take 1)).map (·.stop) |>.min? with
  | none => calls
  | some last => calls.filter fun call => call.start ≤ last

/-- The calls of a cycle that breaks off. -/
def callsBeforeBreak (c : Cycle) : List Scan.Call :=
  match c.resolution.result with
  | .error _ => []
  | .ok nodes =>
      let slots := List.replicate (min c.options.width nodes.length) c.resolvedAt
      callsUntilOverrun c.options (begun c.probe c.options slots (nodes.map (·.node)))

/-- Where no deadline lies beyond the clock, all visits begin. -/
theorem begun_eq_visits {probe : Probe} {o : Scan.Options} {slots : List Nat} {nodes : List String}
    (hroom : nodes ≠ [] → slots ≠ [])
    (hfit : ∀ v ∈ Scan.visits probe o slots nodes, overruns o v = false) :
    begun probe o slots nodes = Scan.visits probe o slots nodes := by
  induction nodes generalizing slots with
  | nil => cases slots <;> rfl
  | cons node rest ih =>
      have hfirst := hfit _ List.mem_cons_self
      have hrest := ih (fun _ => List.cons_ne_nil _ _) fun v hv =>
        hfit v (List.mem_cons_of_mem _ hv)
      cases slots with
      | nil => exact absurd rfl (hroom (List.cons_ne_nil node rest))
      | cons slot others =>
          simp only [begun, Scan.visits, hfirst, hrest, Bool.false_eq_true, if_false]

/-- Where no deadline lies beyond the clock, all calls are made. -/
theorem callsUntilOverrun_eq {o : Scan.Options} {visits : List Scan.Visit}
    (hfit : ∀ v ∈ visits, overruns o v = false) :
    callsUntilOverrun o visits = visits.flatMap (·.calls) := by
  have hnone : visits.filter (overruns o) = [] :=
    List.filter_eq_nil_iff.2 fun v hv => Bool.eq_false_iff.1 (hfit v hv)
  have hcalls : visits.map (fun v => if overruns o v then v.calls.take 1 else v.calls) =
      visits.map (·.calls) :=
    List.map_congr_left fun v hv => by rw [hfit v hv, if_neg Bool.false_ne_true]
  simp only [callsUntilOverrun, hnone, List.flatMap_nil, List.map_nil, List.min?_nil]
  rw [List.flatMap_def, List.flatMap_def, hcalls]

/-- A cycle that does not break off makes all its calls. -/
theorem callsBeforeBreak_eq_calls {c : Cycle} (h : c.breaksOff = false) :
    c.callsBeforeBreak = c.calls := by
  unfold breaksOff pass? at h
  unfold callsBeforeBreak calls pass?
  cases hresult : c.resolution.result with
  | error fault => rfl
  | ok nodes =>
      simp only [hresult, Except.toOption, Option.map_some, List.any_eq_false] at h
      have hfit : ∀ v ∈ (Scan.scan c.probe c.options c.resolvedAt nodes).visits,
          overruns c.options v = false := fun v hv => Bool.eq_false_iff.2 (h v hv)
      have hroom : nodes.map (·.node) ≠ [] →
          List.replicate (min c.options.width nodes.length) c.resolvedAt ≠ [] := by
        intro hsome
        have hnodes : 0 < nodes.length := by simpa using List.length_pos_iff.2 hsome
        rw [← List.length_pos_iff, List.length_replicate]
        unfold Scan.Options.width
        omega
      have hbegun := begun_eq_visits hroom hfit
      simp only [hbegun, Except.toOption, Option.map_some]
      exact callsUntilOverrun_eq hfit

/-- One node at a time: the listing of the first fails, that of the second breaks the cycle off, and
the third is not called. -/
example :
    let c : Cycle :=
      { options := ⟨1, .ofSeconds Clock.secondsBound, some 10⟩, start := 0
        resolution := ⟨0, .ok [⟨"n1", none⟩, ⟨"n2", none⟩, ⟨"n3", none⟩]⟩
        probe :=
          { list := fun _ node =>
              ⟨some 0, if node = "n1" then .error (.connect "") else .ok [⟨"train", none, false⟩]⟩
            capture := fun _ _ _ => ⟨some 0, .ok ""⟩ } }
    c.breaksOff ∧ c.callsBeforeBreak = [⟨"n1", .list, 0, 0⟩, ⟨"n2", .list, 0, 0⟩] := by
  decide +kernel

end Cycle

end Roster
