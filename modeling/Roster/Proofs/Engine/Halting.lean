import Roster.Engine
import Roster.Proofs.Refresh.Stopping

/-!
# Halting an engine

An engine is *halted* if its refreshing was stopped and no cycle is under way (`Halted`).  Time that
passes then brings no cycle, and nothing is merged (`runTo_of_halted`).

`halt` stops the refreshing.  A cycle under way that is over within the grace is merged as if nothing
had happened; otherwise it is given up and never merged (`halt_of_over`, `halt_of_not_over`).

`stop_is_final` puts this together with what the stop means for the loop, whatever its events are.
-/

namespace Roster

namespace Engine

variable {σ : Type} {e e' : Engine σ}

/-! ## Time that passes -/

/-- The refreshing was stopped, and no cycle is under way. -/
structure Halted (e : Engine σ) : Prop where
  /-- The refreshing was stopped. -/
  status : e.refresh.status = .stopped
  /-- No cycle is under way. -/
  cycle : e.cycle = none

/-- Nothing was merged, and no cycle was started or ended. -/
structure Still (e e' : Engine σ) : Prop where
  /-- The inventory is the same, and so is what lasts of it. -/
  keeper : e'.keeper = e.keeper
  /-- No cycle was started. -/
  resolutions : e'.resolutions = e.resolutions
  /-- No cycle has ended. -/
  cycles : e'.refresh.cycles = e.refresh.cycles

theorem Still.refl (e : Engine σ) : e.Still e := ⟨rfl, rfl, rfl⟩

theorem Still.trans {e'' : Engine σ} (h : e.Still e') (h' : e'.Still e'') : e.Still e'' :=
  ⟨h'.keeper.trans h.keeper, h'.resolutions.trans h.resolutions, h'.cycles.trans h.cycles⟩

/-- The loop goes on by a look or by the start of a cycle. -/
theorem turn_eq (e : Engine σ) (moment : Nat) :
    ∃ event : Refresh.Event, (event = .begin ∨ event = .look) ∧
      e.turn moment =
        let next := { e with time := moment, refresh := e.refresh.step moment event }
        match next.refresh.phase with
        | .running _ => next.startCycle
        | _ => next := by
  unfold turn
  cases e.refresh.phase with
  | chosen _ => exact ⟨.begin, Or.inl rfl, rfl⟩
  | arriving => exact ⟨.look, Or.inr rfl, rfl⟩
  | waiting _ => exact ⟨.look, Or.inr rfl, rfl⟩
  | running _ => exact ⟨.look, Or.inr rfl, rfl⟩
  | finished => exact ⟨.look, Or.inr rfl, rfl⟩

/-- A loop that was stopped goes on without starting a cycle. -/
theorem turn_of_halted (h : e.Halted) (hidle : e.refresh.phase.cycle? = none) (moment : Nat) :
    (e.turn moment).Halted ∧ e.Still (e.turn moment) := by
  obtain ⟨event, hevent, hturn⟩ := e.turn_eq moment
  have hended : e.refresh.ended? event = none := by
    rcases hevent with rfl | rfl <;> rfl
  have hstays : event.givesUp = false := by
    rcases hevent with rfl | rfl <;> rfl
  have hcycle := Refresh.cycle?_step_of_stopped h.status moment event
  rw [hended, hstays, hidle] at hcycle
  have hcount := Refresh.cycles_step moment e.refresh event
  rw [hended] at hcount
  rw [hturn]
  dsimp only
  split
  next cause hp =>
    rw [hp] at hcycle
    cases hcycle
  next =>
    exact ⟨⟨Refresh.status_step_of_stopped h.status moment event, h.cycle⟩, rfl, rfl, hcount⟩

theorem next_of_halted (h : e.Halted) {limit : Nat} (hnext : e.next? limit = some e') :
    e'.Halted ∧ e.Still e' := by
  unfold next? at hnext
  rw [h.cycle] at hnext
  dsimp only at hnext
  split at hnext
  next moment hdue =>
    split at hnext
    next =>
      cases hnext
      refine turn_of_halted h ?_ moment
      -- while a cycle is under way, the loop does not go on
      cases hp : e.refresh.phase with
      | running _ => simp [Refresh.due?, hp] at hdue
      | arriving => rfl
      | waiting _ => rfl
      | chosen _ => rfl
      | finished => rfl
    next => cases hnext
  next => cases hnext

theorem runDue_of_halted (h : e.Halted) (limit fuel : Nat) :
    (runDue limit fuel e).Halted ∧ e.Still (runDue limit fuel e) := by
  induction fuel generalizing e with
  | zero => exact ⟨h, .refl e⟩
  | succ fuel ih =>
      unfold runDue
      split
      next e' hnext =>
        obtain ⟨hhalted, hstill⟩ := next_of_halted h hnext
        obtain ⟨hhalted', hstill'⟩ := ih hhalted
        exact ⟨hhalted', hstill.trans hstill'⟩
      next => exact ⟨h, .refl e⟩

/-- Whatever time passes, a halted engine stays halted, and nothing is merged. -/
theorem runTo_of_halted (h : e.Halted) (limit : Nat) :
    (e.runTo limit).Halted ∧ e.Still (e.runTo limit) := by
  obtain ⟨hhalted, hstill⟩ := runDue_of_halted h limit (e.enough limit)
  exact ⟨⟨hhalted.status, hhalted.cycle⟩, hstill.keeper, hstill.resolutions, hstill.cycles⟩

/-- What is due first happens first. -/
theorem runTo_of_next {limit : Nat} (h : e.next? limit = some e') :
    ∃ fuel, e.runTo limit =
      { runDue limit fuel e' with time := max (runDue limit fuel e').time limit } := by
  refine ⟨4 * (limit - e.time) + 15, ?_⟩
  have hdue : runDue limit (e.enough limit) e =
      runDue limit (4 * (limit - e.time) + 15) e' := by
    show runDue limit (4 * (limit - e.time) + 15 + 1) e = _
    rw [runDue, h]
  rw [runTo, hdue]

/-! ## Halting -/

/-- An engine of which it was asked to stop. -/
def asked (e : Engine σ) : Engine σ :=
  { e with refresh := (e.refresh.step e.time .stop).step e.time .cancel }

/-- The end of a cycle leaves the refreshing stopped. -/
theorem finishCycle_of_asked (e : Engine σ) (c : Cycle) :
    (e.asked.finishCycle c).Halted
      ∧ (e.asked.finishCycle c).keeper = (e.finishCycle c).keeper
      ∧ (e.asked.finishCycle c).resolutions = e.resolutions
      ∧ (e.asked.finishCycle c).refresh.cycles ≤ e.refresh.cycles + 1 := by
  have hstop : e.asked.refresh.status = .stopped := rfl
  have hcount : ∀ event : Refresh.Event,
      (e.asked.refresh.step c.stop event).cycles ≤ e.refresh.cycles + 1 := by
    intro event
    rw [Refresh.cycles_step]
    have hone : (e.asked.refresh.ended? event).toList.length ≤ 1 := by
      cases e.asked.refresh.ended? event <;> simp
    exact Nat.add_le_add_left hone _
  unfold finishCycle
  dsimp only
  split
  next =>
    exact ⟨⟨Refresh.status_step_of_stopped hstop c.stop .abort, rfl⟩, rfl, rfl, hcount .abort⟩
  next =>
    exact ⟨⟨Refresh.status_step_of_stopped hstop c.stop .finish, rfl⟩, rfl, rfl, hcount .finish⟩

theorem halt_of_none (h : e.cycle = none) (grace : Nat) : e.halt grace = e.asked.settle := by
  simp only [halt, h, asked]

theorem halt_of_some {c : Cycle} (h : e.cycle = some c) (grace : Nat) :
    e.halt grace =
      if c.stop < e.time + grace then e.asked.runTo c.stop
      else { e.asked.dropCycle c (e.time + (grace - 1)) with time := e.time + grace } := by
  simp only [halt, h, asked]

/-- The cycle under way, if it is over within the grace. -/
def overWithin (e : Engine σ) (grace : Nat) : Option Cycle :=
  e.cycle.filter fun c => c.stop < e.time + grace

/-- A cycle that is over within the grace is merged. -/
theorem halt_of_over {c : Cycle} {grace : Nat} (h : e.overWithin grace = some c) :
    (e.halt grace).Halted ∧ (e.halt grace).resolutions = e.resolutions
      ∧ (e.halt grace).keeper = (e.finishCycle c).keeper
      ∧ (e.halt grace).refresh.cycles ≤ e.refresh.cycles + 1 := by
  obtain ⟨hc, hover⟩ := Option.filter_eq_some_iff.1 h
  obtain ⟨hended, hkeeper, hresolutions, hcount⟩ := e.finishCycle_of_asked c
  -- the end of the cycle is due first, and nothing that is due later starts another one
  have hdue : e.asked.next? c.stop = some (e.asked.finishCycle c) := by
    simp [next?, asked, hc]
  obtain ⟨fuel, hrun⟩ := runTo_of_next hdue
  obtain ⟨hhalted, hstill⟩ := runDue_of_halted hended c.stop fuel
  rw [halt_of_some hc, if_pos (of_decide_eq_true hover), hrun]
  exact ⟨⟨hhalted.status, hhalted.cycle⟩, hstill.resolutions.trans hresolutions,
    hstill.keeper.trans hkeeper, Nat.le_trans (Nat.le_of_eq hstill.cycles) hcount⟩

/-- Without a cycle that is over within the grace, nothing is merged. -/
theorem halt_of_not_over {grace : Nat} (h : e.overWithin grace = none) :
    (e.halt grace).Halted ∧ e.Still (e.halt grace) := by
  cases hc : e.cycle with
  | none =>
      rw [halt_of_none hc]
      have hasked : e.asked.Halted := ⟨rfl, hc⟩
      obtain ⟨hhalted, hstill⟩ := runTo_of_halted hasked e.time
      exact ⟨hhalted, hstill.keeper, hstill.resolutions, hstill.cycles⟩
  | some c =>
      have hlate : ¬ c.stop < e.time + grace := by
        simpa [overWithin, hc, Option.filter] using h
      rw [halt_of_some hc, if_neg hlate]
      exact ⟨⟨rfl, rfl⟩, rfl, rfl, rfl⟩

/-! ## The stop -/

open Refresh in
/-- The stop of a refreshing is final, whatever events come before it and after it, in any order.

* Up to the stop, the refreshing is said to scan from the start of a cycle to its end, and is idle
  otherwise: the starts so far outnumber the ends by one, or they are as many.  While it is said to
  scan, no event starts a cycle.
* After the stop it stays stopped, no cycle starts, and a request is ignored and changes nothing.  The
  count of cycles grows only by the cycle that was under way at the stop, if that one is over before
  the loop is ended where it is.
* An engine that is halted, whatever state it is in, merges the cycle under way if it is over within
  the grace.  If the grace runs out, it merges nothing.  It does not merge later either, whatever time
  passes, and no cycle starts. -/
theorem stop_is_final (start interval : Nat) (events rest : List (Nat × Refresh.Event))
    (e : Engine σ) (grace limit : Nat) :
    let r := (spawn start interval).run events
    (r.status ≠ .stopped →
      ((spawn start interval).starts events).length =
        ((spawn start interval).endings events).length + if r.status = .scanning then 1 else 0)
    ∧ (r.status = .scanning → ∀ event, r.started? event = none)
    ∧ (r.status = .stopped →
        (r.run rest).status = .stopped
        ∧ r.starts rest = []
        ∧ (r.run rest).request = .ignored
        ∧ (∀ now, (r.run rest).step now .force = r.run rest)
        ∧ r.endings rest = (if overFirst rest then r.phase.cycle?.toList else [])
        ∧ (r.run rest).cycles = r.cycles + (r.endings rest).length)
    ∧ (∀ c, e.overWithin grace = some c →
        (e.halt grace).keeper = (e.finishCycle c).keeper
        ∧ (e.halt grace).resolutions = e.resolutions
        ∧ (e.halt grace).refresh.cycles ≤ e.refresh.cycles + 1)
    ∧ (e.overWithin grace = none → e.Still (e.halt grace))
    ∧ (e.halt grace).Halted
    ∧ ((e.halt grace).runTo limit).Halted
    ∧ (e.halt grace).Still ((e.halt grace).runTo limit) := by
  intro r
  have hinStep : InStep r :=
    run_induction (fun now _ event h => h.step now event) (inStep_spawn start interval) events
  have hhalted : (e.halt grace).Halted := by
    cases hover : e.overWithin grace with
    | some c => exact (halt_of_over hover).1
    | none => exact (halt_of_not_over hover).1
  refine ⟨?_, ?_, ?_, ?_, fun hnone => (halt_of_not_over hnone).2, hhalted,
    runTo_of_halted hhalted limit⟩
  · intro hs
    have hcount := length_starts (inStep_spawn start interval) hs
    have hfresh : (spawn start interval).scanning = 0 := by
      unfold scanning
      rw [status_spawn]
      rfl
    rw [hfresh] at hcount
    exact hcount
  · intro hs event
    exact started?_of_scanning hinStep hs event
  · intro hs
    have hstopped := status_run_of_stopped hs rest
    exact ⟨hstopped, starts_of_stopped hs rest, request_of_stopped hstopped,
      force_of_stopped hstopped, endings_of_stopped hs rest, cycles_run r rest⟩
  · intro c hover
    obtain ⟨-, hresolutions, hkeeper, hcount⟩ := halt_of_over hover
    exact ⟨hkeeper, hresolutions, hcount⟩

end Engine

end Roster
