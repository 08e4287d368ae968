import Roster.Proofs.Refresh.Due
import Roster.Proofs.Refresh.Requests
import Roster.Proofs.Refresh.Stopping

/-!
# The pace of the ticks

A run is *prompt* if the clock never passes a moment at which the loop goes on by itself
(`Prompt`).  Cycles may take any time, and requests may come at any time.

In a prompt run the ticks keep their distance from all cycles.  The next tick is one interval after
the spawn or the end of the last cycle (`OnTime`), so a tick that falls due while a cycle runs, or
for which a cycle by request came first, is not made up for.  `pace_of_ticks` says that a cycle
started by a tick follows a whole interval in which no cycle ran and no request came, and that the
loop does start one when such an interval is over.
-/

namespace Roster

namespace Refresh

/-! ## Prompt runs -/

/-- The events of a run follow each other in time, and none comes after the moment at which the loop
would have gone on by itself. -/
def Prompt : Nat → Refresh → List (Nat × Event) → Prop
  | _, _, [] => True
  | clock, r, (now, e) :: rest =>
      clock ≤ now ∧ (∀ moment ∈ r.due? clock, now ≤ moment) ∧ Prompt now (r.step now e) rest

instance : ∀ clock r events, Decidable (Prompt clock r events)
  | _, _, [] => .isTrue True.intro
  | _, r, (now, e) :: rest =>
      have : Decidable (Prompt now (r.step now e) rest) := instDecidablePrompt _ _ rest
      inferInstanceAs (Decidable (_ ∧ _ ∧ _))

/-- The time of the last event of a run, or the time before if there is none. -/
def clockAfter : Nat → List (Nat × Event) → Nat
  | clock, [] => clock
  | _, (now, _) :: rest => clockAfter now rest

/-- When the last cycle of a run ended, or the time `since` if none did. -/
def quietSince : Nat → Refresh → List (Nat × Event) → Nat
  | since, _, [] => since
  | since, r, (now, e) :: rest =>
      quietSince (if (r.ended? e).isSome then now else since) (r.step now e) rest

variable {r : Refresh} {clock since now t : Nat} {e : Event} {late : Prop}

theorem prompt_append {before after : List (Nat × Event)} :
    r.Prompt clock (before ++ after) ↔
      r.Prompt clock before ∧ (r.run before).Prompt (clockAfter clock before) after := by
  induction before generalizing clock r with
  | nil => simp [Prompt, clockAfter, run]
  | cons event rest ih =>
      obtain ⟨now, e⟩ := event
      rw [List.cons_append, Prompt, Prompt, ih, run_cons, clockAfter, and_assoc, and_assoc]

theorem clockAfter_append {before after : List (Nat × Event)} :
    clockAfter clock (before ++ after) = clockAfter (clockAfter clock before) after := by
  induction before generalizing clock with
  | nil => rfl
  | cons event rest ih => exact ih

theorem quietSince_append {before after : List (Nat × Event)} :
    r.quietSince since (before ++ after) =
      (r.run before).quietSince (r.quietSince since before) after := by
  induction before generalizing since r with
  | nil => rfl
  | cons event rest ih =>
      obtain ⟨now, e⟩ := event
      rw [List.cons_append, quietSince, quietSince, ih, run_cons]

/-! ## Ticks keep their distance -/

/-- While no cycle is under way, no event ends one. -/
theorem ended?_of_idle (h : r.phase.cycle? = none) (e : Event) : r.ended? e = none := by
  cases e with
  | finish => exact h
  | force => rfl
  | look => rfl
  | begin => rfl
  | stop => rfl
  | cancel => rfl
  | abort => rfl

/-- While no cycle is under way, the next tick stays where it is. -/
theorem nextTick_of_idle (h : r.phase.cycle? = none) (now : Nat) (e : Event) :
    (r.step now e).nextTick = r.nextTick := by
  cases e with
  | force =>
      simp only [step, force, ring]
      repeat' split
      all_goals rfl
  | look =>
      simp only [step, look]
      repeat' split
      all_goals rfl
  | begin =>
      simp only [step, begin]
      repeat' split
      all_goals rfl
  | finish =>
      simp only [step, finish]
      split
      next cause hp =>
        rw [hp] at h
        cases h
      next => rfl
  | stop => rfl
  | cancel => rfl
  | abort => rfl

/-- A tick that the loop takes is due. -/
theorem due_of_tick (hprior : r.phase ≠ .chosen .tick)
    (h : (r.step now e).phase = .chosen .tick) : r.nextTick ≤ now := by
  cases e with
  | look =>
      simp only [step, look] at h
      grind [close]
  | force => grind [step, force, ring]
  | begin => grind [step, begin, close]
  | finish => grind [step, finish, rearm]
  | stop => exact absurd h hprior
  | cancel => exact absurd h hprior
  | abort => cases h

/-- The loop comes back from a cycle with its end, and the next tick is one interval ahead then. -/
theorem back_of_arriving {cause : Cause} (hprior : r.phase = .running cause)
    (h : (r.step now e).phase = .arriving) :
    (r.ended? e).isSome ∧ (r.step now e).nextTick = now + r.interval := by
  have hquiet : (r.step now e).phase ≠ r.phase := by
    rw [h, hprior]
    exact nofun
  cases e with
  | finish =>
      simp only [step, finish, rearm, hprior, ended?, Phase.cycle?] at h ⊢
      split at h
      next nextTick hnext =>
        exact ⟨rfl, (Clock.after?_eq_some_iff.1 hnext).1⟩
      next => cases h
  | force =>
      refine absurd ?_ hquiet
      simp only [step, force, ring, hprior]
      split <;> simp [hprior]
  | look => exact absurd (by simp only [step, look, hprior]) hquiet
  | begin => exact absurd (by simp only [step, begin, hprior]) hquiet
  | stop => exact absurd rfl hquiet
  | cancel => exact absurd rfl hquiet
  | abort => cases h

/-- The loop has not passed its tick, which is one interval after the time `since`. -/
def OnTime (since clock : Nat) (r : Refresh) : Prop :=
  match r.phase with
  | .arriving => clock < r.nextTick ∧ r.nextTick = since + r.interval
  | .waiting _ => clock ≤ r.nextTick ∧ r.nextTick = since + r.interval
  | .chosen .tick => clock = r.nextTick ∧ r.nextTick = since + r.interval
  | .chosen .bell | .running _ | .finished => True

/-- Time passes until the loop goes on at the latest. -/
theorem OnTime.later (h : r.OnTime since clock) (hclock : clock ≤ now)
    (hdue : ∀ moment ∈ r.due? clock, now ≤ moment) : r.OnTime since now := by
  unfold OnTime due? at *
  split at h
  next hp =>
    simp only [hp, Option.mem_some_iff, forall_eq'] at hdue ⊢
    omega
  next hp =>
    simp only [hp, Option.mem_some_iff, forall_eq'] at hdue ⊢
    split at hdue <;> omega
  next hp =>
    simp only [hp, Option.mem_some_iff, forall_eq'] at hdue ⊢
    omega
  next => trivial
  next => trivial
  next => trivial

/-- What does not move the loop leaves it on time. -/
theorem OnTime.congr {r' : Refresh} {since' : Nat} (h : r.OnTime since now)
    (hphase : r'.phase = r.phase) (hinterval : r'.interval = r.interval)
    (hidle : r.phase.cycle? = none → since' = since ∧ r'.nextTick = r.nextTick) :
    r'.OnTime since' now := by
  unfold OnTime at h ⊢
  rw [hphase, hinterval]
  cases hp : r.phase with
  | running _ => trivial
  | finished => trivial
  | arriving =>
      obtain ⟨rfl, hnext⟩ := hidle (by rw [hp]; rfl)
      simpa only [hp, hnext] using h
  | waiting _ =>
      obtain ⟨rfl, hnext⟩ := hidle (by rw [hp]; rfl)
      simpa only [hp, hnext] using h
  | chosen cause =>
      obtain ⟨rfl, hnext⟩ := hidle (by rw [hp]; rfl)
      cases cause with
      | bell => trivial
      | tick => simpa only [hp, hnext] using h

theorem OnTime.step (h : r.OnTime since now) (hticks : r.Ticks) (e : Event) :
    (r.step now e).OnTime (if (r.ended? e).isSome then now else since) now := by
  have hinterval := interval_step now r e
  have hidle (hp : r.phase.cycle? = none) :
      (if (r.ended? e).isSome then now else since) = since
        ∧ (r.step now e).nextTick = r.nextTick := by
    rw [ended?_of_idle hp]
    exact ⟨rfl, nextTick_of_idle hp now e⟩
  have htick (hp : r.phase ≠ .chosen .tick) (hp' : (r.step now e).phase = .chosen .tick) :
      r.nextTick ≤ now := due_of_tick hp hp'
  have hback (cause : Cause) (hp : r.phase = .running cause)
      (hp' : (r.step now e).phase = .arriving) :
      (if (r.ended? e).isSome then now else since) = now
        ∧ (r.step now e).nextTick = now + r.interval := by
    obtain ⟨hended, hnext⟩ := back_of_arriving hp hp'
    rw [if_pos hended]
    exact ⟨rfl, hnext⟩
  have hm := r.step_move now e
  generalize (if (r.ended? e).isSome then now else since) = since' at *
  generalize r.step now e = r', r.started? e = start, r.asks e = asked at *
  cases hm with
  | stay hphase _ _ => exact h.congr hphase hinterval hidle
  | keep _ hphase _ _ => exact h.congr hphase hinterval hidle
  | close hphase _ => simp only [OnTime, hphase]
  | wake hprior hphase _ _ =>
      obtain ⟨rfl, hnext⟩ := hidle (by rw [hprior]; rfl)
      simpa only [OnTime, hprior, hphase, hnext, hinterval] using h
  | hear _ _ hphase _ _ => simp only [OnTime, hphase]
  | miss hprior _ hphase _ _ =>
      obtain ⟨rfl, hnext⟩ := hidle (by rw [hprior]; rfl)
      simp only [OnTime, hprior] at h
      rcases hphase with hphase | hphase
      · simp only [OnTime, hphase, hnext, hinterval]
        exact ⟨Nat.le_of_lt h.1, h.2⟩
      · -- the tick is ahead, so it is not taken
        have hdue := htick (by rw [hprior]; exact nofun) hphase
        omega
  | leave woken hprior hphase _ _ =>
      obtain ⟨rfl, hnext⟩ := hidle (by rw [hprior]; rfl)
      cases woken with
      | true => simp only [OnTime, hphase, if_true]
      | false =>
          have hdue := htick (by rw [hprior]; exact nofun) hphase
          simp only [OnTime, hprior] at h
          simp only [OnTime, hphase, hnext, hinterval]
          exact ⟨Nat.le_antisymm h.1 hdue, h.2⟩
  | start cause _ hphase _ _ => simp only [OnTime, hphase]
  | back cause hprior hphase _ _ =>
      obtain ⟨rfl, hnext⟩ := hback cause hprior hphase
      have hpositive : 0 < r.interval := hticks.resolve_right (by rw [hprior]; exact nofun)
      simp only [OnTime, hphase, hnext, hinterval]
      exact ⟨Nat.lt_add_of_pos_right hpositive, True.intro⟩

theorem OnTime.run {events : List (Nat × Event)} (h : r.OnTime since clock) (hticks : r.Ticks)
    (hprompt : r.Prompt clock events) :
    (r.run events).OnTime (r.quietSince since events) (clockAfter clock events) := by
  induction events generalizing r since clock with
  | nil => exact h
  | cons event rest ih =>
      obtain ⟨now, e⟩ := event
      obtain ⟨hclock, hdue, hrest⟩ := hprompt
      exact ih ((h.later hclock hdue).step hticks e) (hticks.step now e) hrest

theorem onTime_spawn (start interval : Nat) : (spawn start interval).OnTime start start := by
  rcases spawn_cases start interval with ⟨hpos, -, h⟩ | ⟨-, h⟩
  · rw [h]
    exact ⟨Nat.lt_add_of_pos_right hpos, rfl⟩
  · rw [h]
    trivial

theorem interval_run_spawn (start interval : Nat) (events : List (Nat × Event)) :
    ((spawn start interval).run events).interval = interval := by
  refine run_induction (P := fun r => r.interval = interval) ?_ ?_ events
  · intro now r e h
    exact (interval_step now r e).trans h
  · rcases spawn_cases start interval with ⟨-, -, h⟩ | ⟨-, h⟩ <;> rw [h]

theorem le_quietSince {events : List (Nat × Event)} (hprompt : r.Prompt clock events)
    (h : since ≤ clock) : since ≤ r.quietSince since events := by
  induction events generalizing r since clock with
  | nil => exact Nat.le_refl since
  | cons event rest ih =>
      obtain ⟨now, e⟩ := event
      obtain ⟨hclock, -, hrest⟩ := hprompt
      unfold quietSince
      split
      next => exact Nat.le_trans (Nat.le_trans h hclock) (ih hrest (Nat.le_refl now))
      next => exact ih hrest (Nat.le_trans h hclock)

/-! ## Requests come before ticks -/

/-- A request of the time `t` came before the time `since`, or its ring keeps the loop from taking a
tick, unless it was `late`. -/
def Answered (late : Prop) (t since clock : Nat) (r : Refresh) : Prop :=
  t ≤ since ∨
    match r.phase with
    | .arriving => r.kept = true
    | .waiting woken => woken = true
    | .chosen cause => cause = .bell ∨ (late ∧ t = clock)
    | .running _ | .finished => True

theorem Answered.later (h : r.Answered late t since clock) (hclock : clock ≤ now)
    (hdue : ∀ moment ∈ r.due? clock, now ≤ moment) : r.Answered late t since now := by
  refine h.imp_right fun h => ?_
  cases hp : r.phase with
  | chosen cause =>
      -- the loop goes on at once
      simp only [due?, hp, Option.mem_some_iff, forall_eq'] at hdue
      rw [Nat.le_antisymm hdue hclock]
      simpa only [hp] using h
  | arriving => simpa only [hp] using h
  | waiting _ => simpa only [hp] using h
  | running _ => trivial
  | finished => trivial

theorem Answered.step (h : r.Answered late t since now) (ht : t ≤ now) (e : Event) :
    (r.step now e).Answered late t (if (r.ended? e).isSome then now else since) now := by
  unfold Answered at h ⊢
  rcases h with hbefore | h
  · left
    split
    next => exact ht
    next => exact hbefore
  · have hback (cause : Cause) (hp : r.phase = .running cause)
        (hp' : (r.step now e).phase = .arriving) :
        (if (r.ended? e).isSome then now else since) = now :=
      if_pos (back_of_arriving hp hp').1
    have hm := r.step_move now e
    generalize (if (r.ended? e).isSome then now else since) = since' at *
    generalize r.step now e = r', r.started? e = start, r.asks e = asked at *
    cases hm with
    | stay hphase hkept _ =>
        right
        simpa only [hphase, hkept] using h
    | keep _ hphase hkept _ =>
        right
        rw [hphase]
        cases hp : r.phase with
        | arriving => exact hkept
        | waiting _ => simpa only [hp] using h
        | chosen _ => simpa only [hp] using h
        | running _ => trivial
        | finished => trivial
    | close hphase _ => right; simp only [hphase]
    | wake _ hphase _ _ => right; simp only [hphase]
    | hear _ _ hphase _ _ => right; simp only [hphase, true_or]
    | miss hprior hmissed _ _ _ => simp [hprior, hmissed] at h
    | leave woken hprior hphase _ _ =>
        right
        simp only [hprior] at h
        simp only [hphase, h, if_true, true_or]
    | start cause _ hphase _ _ => right; simp only [hphase]
    | back cause hprior hphase _ _ =>
        left
        rw [hback cause hprior hphase]
        exact ht

theorem Answered.run {events : List (Nat × Event)} (h : r.Answered late t since clock)
    (ht : t ≤ clock) (hprompt : r.Prompt clock events) :
    (r.run events).Answered late t (r.quietSince since events) (clockAfter clock events) := by
  induction events generalizing r since clock with
  | nil => exact h
  | cons event rest ih =>
      obtain ⟨now, e⟩ := event
      obtain ⟨hclock, hdue, hrest⟩ := hprompt
      have hnow := Nat.le_trans ht hclock
      exact ih ((h.later hclock hdue).step hnow e) hnow hrest

/-- A request is late if the loop takes the tick already. -/
theorem answered_of_request (h : r.request ≠ .ignored) (since : Nat) :
    (r.step t .force).Answered (r.phase = .chosen .tick) t since t := by
  right
  have hm := r.step_move t .force
  rw [asks_eq_true_iff.2 ⟨rfl, h⟩] at hm
  generalize r.step t .force = r', r.started? .force = start at hm
  cases hm with
  | wake _ hphase _ _ => simp only [hphase]
  | keep hprior hphase hkept _ =>
      rw [hphase]
      cases hp : r.phase with
      | arriving => exact hkept
      | waiting woken =>
          cases woken with
          | true => rfl
          | false => exact absurd hp hprior
      | chosen cause =>
          cases cause with
          | bell => exact Or.inl rfl
          | tick => exact Or.inr ⟨rfl, rfl⟩
      | running _ => trivial
      | finished => trivial

/-! ## The distance of the ticks -/

variable {start interval : Nat} {events : List (Nat × Event)}

/-- A cycle that is started by a tick starts when the tick is due. -/
theorem OnTime.eq_of_start (h : r.OnTime since clock) (hstart : r.started? .begin = some .tick)
    (hprompt : r.Prompt clock [(now, .begin)]) : now = clock ∧ now = since + r.interval := by
  obtain ⟨hclock, hdue, -⟩ := hprompt
  have hphase : r.phase = .chosen .tick := (start_eq hstart now).1
  simp only [OnTime, hphase] at h
  simp only [due?, hphase, Option.mem_some_iff, forall_eq'] at hdue
  omega

/-- A loop that waits for its tick starts a cycle when it is due. -/
theorem OnTime.start_of_waiting (h : r.OnTime since clock) (hphase : r.phase = .waiting false)
    (hcancelled : r.cancelled = false) (hstatus : r.status ≠ .stopped) {due : Nat}
    (heq : due = since + r.interval) :
    r.Prompt clock [(due, .look), (due, .begin)]
      ∧ (r.look due).started? .begin = some .tick := by
  simp only [OnTime, hphase] at h
  have hlook : r.look due = { r with phase := .chosen .tick } := by
    simp only [look, hphase, hcancelled, Bool.false_eq_true, if_false]
    rw [if_pos (by omega)]
  constructor
  · refine ⟨by omega, ?_, Nat.le_refl due, ?_, True.intro⟩
    · simp only [due?, hphase, hcancelled, Bool.or_self, Bool.false_eq_true, if_false,
        Option.mem_some_iff, forall_eq']
      omega
    · show ∀ moment ∈ (r.look due).due? due, due ≤ moment
      simp [hlook, due?]
  · rw [hlook, started?]
    exact if_neg hstatus

/-- The end of a cycle is not after the end of the last cycle. -/
theorem le_quietSince_of_end {before after : List (Nat × Event)}
    (hprompt : r.Prompt clock (before ++ (t, .finish) :: after))
    (hended : (r.run before).ended? .finish ≠ none) :
    t ≤ r.quietSince since (before ++ (t, .finish) :: after) := by
  obtain ⟨-, -, -, hafter⟩ := prompt_append.1 hprompt
  rw [quietSince_append, quietSince, if_pos (Option.isSome_iff_ne_none.2 hended)]
  exact le_quietSince hafter (Nat.le_refl t)

/-- A request before a cycle that is started by a tick came before the end of the last cycle, or
was late. -/
theorem request_before_tick {before after : List (Nat × Event)}
    (hprompt : r.Prompt clock (before ++ (t, .force) :: after))
    (hrequest : (r.run before).request ≠ .ignored)
    (htick : (r.run (before ++ (t, .force) :: after)).phase = .chosen .tick) :
    t ≤ r.quietSince since (before ++ (t, .force) :: after)
      ∨ ((r.run before).phase = .chosen .tick
        ∧ t = clockAfter clock (before ++ (t, .force) :: after)) := by
  obtain ⟨-, -, -, hafter⟩ := prompt_append.1 hprompt
  have h := (answered_of_request hrequest (r.quietSince since before)).run (Nat.le_refl t) hafter
  rw [run_append, run_cons] at htick
  rw [quietSince_append, clockAfter_append]
  simp only [Answered, htick, reduceCtorEq, false_or] at h
  exact h

/-- In a prompt run a cycle that is started by a tick starts one interval after the spawn or the end
of the last cycle.  In that interval no cycle was under way and no request came, but for one at its
very end that came when the loop took the tick already.  And a loop that waits for its tick does
start a cycle then, if nothing else happens. -/
theorem pace_of_ticks (start interval : Nat) (events : List (Nat × Event))
    (hprompt : (spawn start interval).Prompt start events) :
    let last := (spawn start interval).run events
    let due := (spawn start interval).quietSince start events + interval
    (∀ now, (spawn start interval).Prompt start (events ++ [(now, .begin)]) →
      last.started? .begin = some .tick →
      now = due
      ∧ (∀ before t after, events = before ++ (t, .finish) :: after →
        ((spawn start interval).run before).ended? .finish ≠ none → t + interval ≤ now)
      ∧ ∀ before t after, events = before ++ (t, .force) :: after →
        ((spawn start interval).run before).request ≠ .ignored →
        t + interval ≤ now
          ∨ (t = now ∧ ((spawn start interval).run before).phase = .chosen .tick))
    ∧ (last.phase = .waiting false → last.cancelled = false → last.status ≠ .stopped →
      (spawn start interval).Prompt start (events ++ [(due, .look), (due, .begin)])
      ∧ (last.look due).started? .begin = some .tick) := by
  intro last due
  have honTime : last.OnTime ((spawn start interval).quietSince start events)
      (clockAfter start events) :=
    (onTime_spawn start interval).run (ticks_spawn start interval) hprompt
  have hdue : due = (spawn start interval).quietSince start events + last.interval := by
    rw [interval_run_spawn start interval events]
  constructor
  · intro now hbegin htick
    obtain ⟨hclock, hnow⟩ := honTime.eq_of_start htick (prompt_append.1 hbegin).2
    rw [← hdue] at hnow
    refine ⟨hnow, ?_, ?_⟩
    · rintro before t after rfl hended
      rw [hnow]
      exact Nat.add_le_add_right (le_quietSince_of_end hprompt hended) interval
    · rintro before t after rfl hrequest
      rcases request_before_tick hprompt hrequest (start_eq htick now).1 with hbefore | ⟨hlate, ht⟩
      · rw [hnow]
        exact Or.inl (Nat.add_le_add_right hbefore interval)
      · exact Or.inr ⟨ht.trans hclock.symm, hlate⟩
  · intro hphase hcancelled hstatus
    obtain ⟨hlast, hstart⟩ := honTime.start_of_waiting hphase hcancelled hstatus hdue
    exact ⟨prompt_append.2 ⟨hprompt, hlast⟩, hstart⟩

/-- A request comes first at the instant of a tick, and its cycle runs over two more ticks.  The
next tick is one interval after the end of the cycle. -/
theorem pace_of_ticks_after_long_cycle :
    let events : List (Nat × Event) :=
      [(0, .look), (1000, .force), (1000, .look), (1000, .begin), (3500, .finish), (3500, .look),
        (4500, .look)]
    (spawn 0 1000).Prompt 0 (events ++ [(4500, .begin)])
    ∧ ((spawn 0 1000).run events).started? .begin = some .tick
    ∧ 4500 = (spawn 0 1000).quietSince 0 events + 1000 := by
  intro events
  have hbegin : (spawn 0 1000).Prompt 0 (events ++ [(4500, .begin)]) := by decide
  have htick : ((spawn 0 1000).run events).started? .begin = some .tick := by decide
  exact ⟨hbegin, htick,
    ((pace_of_ticks 0 1000 events (prompt_append.1 hbegin).1).1 4500 hbegin htick).1⟩

end Refresh

end Roster
