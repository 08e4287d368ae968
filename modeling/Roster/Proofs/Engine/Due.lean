import Roster.Proofs.Engine.Courses
import Roster.Proofs.Refresh.Due
import Roster.Proofs.Refresh.Pace

/-!
# What is due

An engine does what is due step by step, and `runTo` gives it a number of steps for it.  That number
is enough: each step lowers what is *owed* (`Refresh.owed_turn`, `Refresh.owed_finish`), which is at
most what `enough` allows.  So when time has passed up to a moment, nothing is left that was due by
then (`Ready.runDue`), and a cycle that is still under way is over later.  Nothing happens to the
loop late either: time that passes is a prompt run of it (`Ready.runTo_prompt`).

With this the ways of an engine are courses: its start (`ready_start`), time that passes
(`Ready.runTo`), an answer that is waited for (`Ready.await`), and an output that the user asks for,
which is filed when it comes (`Ready.capture`).
-/

namespace Roster

variable {σ : Type}

/-! ## Steps that an engine takes -/

namespace Engine

variable {e e' : Engine σ} {limit : Nat}

/-- The loop runs or is over, and a cycle that is under way is not overdue. -/
structure Ready (e : Engine σ) : Prop where
  /-- The loop goes on, or is over. -/
  ticks : e.refresh.Ticks
  /-- The loop runs the cycle under way, which is not over. -/
  underWay : ∀ c ∈ e.cycle, (∃ cause, e.refresh.phase = .running cause) ∧ e.time ≤ c.stop

/-- How many steps may be due up to a moment. -/
def owed (limit : Nat) (e : Engine σ) : Nat := 4 * (limit - e.time) + e.refresh.owed e.time

theorem owed_le_enough (limit : Nat) (e : Engine σ) : e.owed limit ≤ e.enough limit := by
  have hloop := e.refresh.owed_le e.time
  unfold owed enough
  omega

theorem turn_time (e : Engine σ) (moment : Nat) : (e.turn moment).time = moment := by
  simp only [turn]
  split <;> rfl

theorem turn_refresh (e : Engine σ) (moment : Nat) :
    (e.turn moment).refresh = e.refresh.step moment e.refresh.nextEvent := by
  simp only [turn]
  split <;> rfl

/-- A step of the loop is a pass of time, and the start of a cycle if it starts one. -/
theorem reaches_turn {moment : Nat} (hidle : e.cycle = none) (htime : e.time ≤ moment) :
    e.Reaches [] (e.turn moment)
      ∧ ∀ c ∈ (e.turn moment).cycle, (∃ cause, (e.turn moment).refresh.phase = .running cause)
        ∧ moment ≤ c.stop := by
  let next : Engine σ :=
    { e with time := moment, refresh := e.refresh.step moment e.refresh.nextEvent }
  have hpass : e.Reaches [] next := by
    refine Reaches.refl.quiet (.pass rfl rfl htime fun c hc => ?_)
    rw [hidle] at hc
    cases hc
  simp only [turn]
  split
  next cause hrunning =>
    refine ⟨hpass.quiet (.start hidle), fun c hc => ⟨⟨cause, hrunning⟩, ?_⟩⟩
    cases hc
    exact next.newCycle.start_le_stop
  next =>
    refine ⟨hpass, fun c hc => ?_⟩
    rw [hidle] at hc
    cases hc

/-- A cycle that ends is filed, unless it breaks off. -/
theorem reaches_finishCycle {c : Cycle} (hc : e.cycle = some c) (hdue : e.time ≤ c.stop) :
    (∃ hist, e.Reaches hist (e.finishCycle c)) ∧ (e.finishCycle c).time = c.stop
      ∧ (e.finishCycle c).cycle = none
      ∧ ((e.finishCycle c).refresh = e.refresh.step c.stop .abort
        ∨ (e.finishCycle c).refresh = e.refresh.step c.stop .finish) := by
  cases hbreaks : c.breaksOff with
  | true =>
      have hlost : (e.finishCycle c).keeper = e.keeper ∧ (e.finishCycle c).time = c.stop
          ∧ (e.finishCycle c).cycle = none
          ∧ (e.finishCycle c).refresh = e.refresh.step c.stop .abort := by
        simp only [finishCycle, hbreaks, if_true, and_self]
      obtain ⟨hkeeper, htime, hcycle, hrefresh⟩ := hlost
      exact ⟨⟨_, Reaches.refl.quiet (.giveUp hkeeper hcycle (htime ▸ hdue))⟩, htime, hcycle,
        Or.inl hrefresh⟩
  | false =>
      refine ⟨⟨_, Reaches.refl.tail (.finish hc hbreaks)⟩, ?_⟩
      simp only [finishCycle, hbreaks, Bool.false_eq_true, if_false]
      exact ⟨rfl, rfl, Or.inr rfl⟩

/-- The end of the cycle under way leaves less owed. -/
theorem Ready.finishCycle (h : e.Ready) {c : Cycle} (hc : e.cycle = some c) :
    (∃ hist, e.Reaches hist (e.finishCycle c)) ∧ (e.finishCycle c).Ready
      ∧ (e.finishCycle c).time = c.stop ∧ (e.finishCycle c).owed limit < e.owed limit := by
  obtain ⟨⟨cause, hrunning⟩, htime⟩ := h.underWay c hc
  obtain ⟨hcourse, hstop, hnone, hrefresh⟩ := reaches_finishCycle hc htime
  have hticks : (e.finishCycle c).refresh.Ticks := by
    rcases hrefresh with hrefresh | hrefresh
    · exact hrefresh ▸ h.ticks.step c.stop .abort
    · exact hrefresh ▸ h.ticks.step c.stop .finish
  have hless : (e.finishCycle c).refresh.owed c.stop < e.refresh.owed e.time := by
    rcases hrefresh with hrefresh | hrefresh
    · rw [hrefresh, Refresh.owed_of_finished rfl, Refresh.owed_of_running hrunning]
      omega
    · rw [hrefresh]
      exact Refresh.owed_finish hrunning h.ticks e.time c.stop
  refine ⟨hcourse, ⟨hticks, fun c' hc' => ?_⟩, hstop, ?_⟩
  · rw [hnone] at hc'
    cases hc'
  · unfold owed
    rw [hstop]
    omega

/-- A step of the loop leaves less owed. -/
theorem Ready.turn (h : e.Ready) (hidle : e.cycle = none) {moment : Nat}
    (hdue : e.refresh.due? e.time = some moment) (hlimit : moment ≤ limit) :
    (∃ hist, e.Reaches hist (e.turn moment)) ∧ (e.turn moment).Ready
      ∧ (e.turn moment).owed limit < e.owed limit := by
  obtain ⟨hcourse, hunderWay⟩ := reaches_turn hidle (Refresh.le_of_due? hdue)
  refine ⟨⟨_, hcourse⟩, ⟨?_, ?_⟩, ?_⟩
  · rw [turn_refresh]
    exact h.ticks.step _ _
  · rw [turn_time]
    exact hunderWay
  · unfold owed
    rw [turn_time, turn_refresh]
    exact Refresh.owed_turn hdue hlimit

/-- What is due next is a course, and leaves less owed. -/
theorem Ready.next (h : e.Ready) (hnext : e.next? limit = some e') :
    (∃ hist, e.Reaches hist e') ∧ e'.Ready ∧ e'.time ≤ limit
      ∧ e'.owed limit < e.owed limit := by
  unfold next? at hnext
  cases hc : e.cycle with
  | some c =>
      simp only [hc, Option.ite_none_right_eq_some, Option.some.injEq] at hnext
      obtain ⟨hdue, rfl⟩ := hnext
      obtain ⟨hcourse, hready, hstop, hless⟩ := h.finishCycle hc
      exact ⟨hcourse, hready, hstop ▸ hdue, hless⟩
  | none =>
      simp only [hc] at hnext
      cases hdue : e.refresh.due? e.time with
      | none =>
          rw [hdue] at hnext
          cases hnext
      | some moment =>
          simp only [hdue, Option.ite_none_right_eq_some, Option.some.injEq] at hnext
          obtain ⟨hlimit, rfl⟩ := hnext
          obtain ⟨hcourse, hready, hless⟩ := h.turn hc hdue hlimit
          exact ⟨hcourse, hready, (turn_time e moment).symm ▸ hlimit, hless⟩

/-- What is due next happens to the loop when it is due. -/
theorem Ready.next_prompt (h : e.Ready) (hnext : e.next? limit = some e') :
    ∃ event, e.time ≤ e'.time ∧ (∀ moment ∈ e.refresh.due? e.time, e'.time ≤ moment)
      ∧ e'.refresh = e.refresh.step e'.time event := by
  unfold next? at hnext
  cases hc : e.cycle with
  | some c =>
      simp only [hc, Option.ite_none_right_eq_some, Option.some.injEq] at hnext
      obtain ⟨-, rfl⟩ := hnext
      obtain ⟨⟨cause, hrunning⟩, htime⟩ := h.underWay c hc
      obtain ⟨-, hstop, -, hrefresh⟩ := reaches_finishCycle hc htime
      rw [hstop]
      have hdue : ∀ moment ∈ e.refresh.due? e.time, c.stop ≤ moment := by
        simp [Refresh.due?, hrunning]
      rcases hrefresh with hrefresh | hrefresh
      · exact ⟨.abort, htime, hdue, hrefresh⟩
      · exact ⟨.finish, htime, hdue, hrefresh⟩
  | none =>
      simp only [hc] at hnext
      cases hdue : e.refresh.due? e.time with
      | none =>
          rw [hdue] at hnext
          cases hnext
      | some moment =>
          simp only [hdue, Option.ite_none_right_eq_some, Option.some.injEq] at hnext
          obtain ⟨-, rfl⟩ := hnext
          rw [turn_time, turn_refresh]
          refine ⟨e.refresh.nextEvent, Refresh.le_of_due? hdue, ?_, rfl⟩
          simp

/-- If nothing is due by a moment, the loop does not go on before it. -/
theorem Ready.le_of_next_eq_none (h : e.Ready) (hnone : e.next? limit = none) :
    ∀ moment ∈ e.refresh.due? e.time, limit ≤ moment := by
  intro moment hdue
  unfold next? at hnone
  cases hc : e.cycle with
  | some c =>
      obtain ⟨⟨cause, hrunning⟩, -⟩ := h.underWay c hc
      simp [Refresh.due?, hrunning] at hdue
  | none =>
      rw [Option.mem_def] at hdue
      simp only [hc, hdue, ite_eq_right_iff, reduceCtorEq, imp_false] at hnone
      omega

/-- With as many steps as are owed, nothing is left that is due. -/
theorem Ready.runDue {fuel : Nat} (h : e.Ready) (hfuel : e.owed limit ≤ fuel) :
    (∃ hist, e.Reaches hist (Engine.runDue limit fuel e)) ∧ (Engine.runDue limit fuel e).Ready
      ∧ (Engine.runDue limit fuel e).time ≤ max e.time limit
      ∧ (Engine.runDue limit fuel e).next? limit = none := by
  induction fuel generalizing e with
  | zero =>
      refine ⟨⟨[], .refl⟩, h, Nat.le_max_left .., ?_⟩
      cases hnext : e.next? limit with
      | none => exact hnext
      | some e' =>
          obtain ⟨-, -, -, hless⟩ := h.next hnext
          omega
  | succ fuel ih =>
      unfold Engine.runDue
      cases hnext : e.next? limit with
      | none => exact ⟨⟨[], .refl⟩, h, Nat.le_max_left .., hnext⟩
      | some e' =>
          dsimp only
          obtain ⟨⟨hist, hcourse⟩, hready, htime, hless⟩ := h.next hnext
          obtain ⟨⟨more, hcourse'⟩, hready', htime', hnone⟩ := ih hready (by omega)
          exact ⟨⟨hist ++ more, hcourse.trans hcourse'⟩, hready', by omega, hnone⟩

/-! ## The ways of an engine -/

/-- Time that passes is a course.  A cycle that is still under way is over later. -/
theorem Ready.runTo (h : e.Ready) (limit : Nat) :
    (∃ hist, e.Reaches hist (e.runTo limit)) ∧ (e.runTo limit).Ready
      ∧ (e.runTo limit).time ≤ max e.time limit
      ∧ ∀ c ∈ (e.runTo limit).cycle, limit < c.stop := by
  obtain ⟨⟨hist, hcourse⟩, hready, htime, hnone⟩ := h.runDue (owed_le_enough limit e)
  have hlater : ∀ c ∈ (Engine.runDue limit (e.enough limit) e).cycle, limit < c.stop := by
    intro c hc
    unfold next? at hnone
    rw [hc] at hnone
    simpa using hnone
  have hdue : ∀ c ∈ (e.runTo limit).cycle, (e.runTo limit).time ≤ c.stop := fun c hc =>
    Nat.max_le.2 ⟨(hready.underWay c hc).2, Nat.le_of_lt (hlater c hc)⟩
  refine ⟨⟨hist, hcourse.quiet (.pass rfl rfl (Nat.le_max_left ..) hdue)⟩,
    ⟨hready.ticks, fun c hc => ⟨(hready.underWay c hc).1, hdue c hc⟩⟩, ?_, hlater⟩
  exact Nat.max_le.2 ⟨htime, Nat.le_max_right ..⟩

/-- What the engine does is a prompt run of the loop. -/
theorem Ready.runDue_prompt (h : e.Ready) (limit fuel : Nat) :
    ∃ events, e.refresh.Prompt e.time events
      ∧ (Engine.runDue limit fuel e).refresh = e.refresh.run events
      ∧ (Engine.runDue limit fuel e).time = Refresh.clockAfter e.time events := by
  induction fuel generalizing e with
  | zero => exact ⟨[], True.intro, rfl, rfl⟩
  | succ fuel ih =>
      unfold Engine.runDue
      cases hnext : e.next? limit with
      | none => exact ⟨[], True.intro, rfl, rfl⟩
      | some e' =>
          dsimp only
          obtain ⟨events, hprompt, hrefresh, htime⟩ := ih (h.next hnext).2.1
          obtain ⟨event, hclock, hdue, hstep⟩ := h.next_prompt hnext
          rw [hstep] at hprompt hrefresh
          exact ⟨(e'.time, event) :: events, ⟨hclock, hdue, hprompt⟩, hrefresh, htime⟩

/-- The loop keeps to the clock of the engine: time that passes is a prompt run of the loop, and so
it is with what happens to the loop next. -/
theorem Ready.runTo_prompt (h : e.Ready) {limit : Nat} (hlimit : e.time ≤ limit) :
    ∃ events, (e.runTo limit).refresh = e.refresh.run events
      ∧ ∀ event, e.refresh.Prompt e.time (events ++ [(limit, event)]) := by
  obtain ⟨events, hprompt, hrefresh, htime⟩ := h.runDue_prompt limit (e.enough limit)
  obtain ⟨-, hready, hpast, hnone⟩ := h.runDue (owed_le_enough limit e)
  refine ⟨events, hrefresh, fun event =>
    Refresh.prompt_append.2 ⟨hprompt, ?_, ?_, True.intro⟩⟩
  · rw [← htime]
    exact Nat.le_trans hpast (Nat.max_le.2 ⟨hlimit, Nat.le_refl limit⟩)
  · rw [← htime, ← hrefresh]
    exact hready.le_of_next_eq_none hnone

/-- An answer that is waited for comes when it is due. -/
theorem Ready.await (h : e.Ready) (delay : Nat) :
    (∃ hist, e.Reaches hist (e.await delay)) ∧ (e.await delay).Ready
      ∧ (e.await delay).time = e.time + delay := by
  cases delay with
  | zero => exact ⟨⟨[], .refl⟩, h, rfl⟩
  | succ d =>
      obtain ⟨⟨hist, hcourse⟩, hready, htime, hlater⟩ := h.runTo (e.time + d)
      have hdue : ∀ c ∈ (e.runTo (e.time + d)).cycle, e.time + d + 1 ≤ c.stop := hlater
      refine ⟨⟨hist, hcourse.quiet (.pass rfl rfl ?_ hdue)⟩,
        ⟨hready.ticks, fun c hc => ⟨(hready.underWay c hc).1, hdue c hc⟩⟩, rfl⟩
      show (e.runTo (e.time + d)).time ≤ e.time + d + 1
      omega

/-- An engine that has started is ready, and has come there by a course from what was loaded.  Its
loop is as it was spawned. -/
theorem ready_start {options : Options} {services : Services} {gateway : Gateway σ} {state : σ}
    {time : Nat} {clock : Instant} (h : start options services gateway state time clock = .ok e) :
    (∃ hist, (load options services gateway state time clock).Reaches hist e) ∧ e.Ready
      ∧ e.refresh = .spawn e.time options.refreshInterval.toMillis := by
  let first := (load options services gateway state time clock).startCycle
  let scanned := first.finishCycle first.newCycle
  let spawned : Engine σ :=
    { scanned with refresh := .spawn scanned.time options.refreshInterval.toMillis }
  have hfirst : (load options services gateway state time clock).Reaches [] first :=
    Reaches.refl.quiet (.start rfl)
  obtain ⟨⟨hist, hcourse⟩, -, hidle, -⟩ :=
    reaches_finishCycle (e := first) (c := first.newCycle) rfl first.newCycle.start_le_stop
  have hnone : ∀ c ∈ spawned.cycle, (∃ cause, spawned.refresh.phase = .running cause)
      ∧ spawned.time ≤ c.stop := by
    intro c hc
    have hnew : scanned.cycle = some c := hc
    rw [hidle] at hnew
    cases hnew
  have hspawned : scanned.Reaches [] spawned :=
    Reaches.refl.quiet (.pass rfl rfl (Nat.le_refl _) fun c hc => (hnone c hc).2)
  have hstarted : spawned = e := by
    unfold start at h
    dsimp only at h
    split at h
    next => cases h
    next => exact Except.ok.inj h
  rw [← hstarted]
  exact ⟨⟨_, (hfirst.trans hcourse).trans hspawned⟩, ⟨Refresh.ticks_spawn .., hnone⟩, rfl⟩

/-- What the probe answers to a call that the user makes now, and after what time. -/
def answerNow (e : Engine σ) (id : Identity) : Except ProbeFault String × Nat :=
  Scan.within e.options.scan.deadline e.options.scan.room
    (e.services.probe.capture e.time id e.options.captureLines)

/-- An output that the user asks for is filed when it comes. -/
theorem Ready.capture (h : e.Ready) {id : Identity} (hshows : e.shows id = true) {text : String}
    (hanswer : (e.answerNow id).1 = .ok text) :
    ∃ hist, e.Reaches (hist ++ [.asked id (e.time + (e.answerNow id).2) text]) (e.capture id).2
      ∧ (e.capture id).2.Ready := by
  let call : Scan.Call :=
    ⟨id.node, .capture id.name e.options.captureLines, e.time, e.time + (e.answerNow id).2⟩
  let called : Engine σ := { e with pastCalls := e.pastCalls ++ [call] }
  have hcalled : e.Reaches [] called :=
    Reaches.refl.quiet (.pass rfl rfl (Nat.le_refl _) fun c hc => (h.underWay c hc).2)
  have hready : called.Ready := ⟨h.ticks, h.underWay⟩
  obtain ⟨⟨hist, hcourse⟩, hready', htime⟩ := hready.await (e.answerNow id).2
  have hcapture : (e.capture id).2 =
      ((called.await (e.answerNow id).2).fileOutput id (.ok text)).2 := by
    rw [Engine.capture, if_pos hshows]
    show ((called.await (e.answerNow id).2).fileOutput id (e.answerNow id).1).2 = _
    rw [hanswer]
  have hmove := Move.answer (e := called.await (e.answerNow id).2) id text
  rw [htime] at hmove
  rw [hcapture]
  refine ⟨hist, (hcalled.trans hcourse).tail hmove, hready'.ticks, hready'.underWay⟩

end Engine

end Roster
