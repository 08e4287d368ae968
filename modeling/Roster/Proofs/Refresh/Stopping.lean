import Roster.Proofs.Refresh.Moves

/-!
# Cycles under way, and the stop

A cycle is *under way* from the event that starts it to the event that ends it.  What an event does
to this and to what is said of the refreshing is one of five turns (`Turn`, `step_turn`).

*Before the stop.*  What is said agrees with the loop (`InStep`): it is said to scan just while a
cycle is under way, so the starts of a run outnumber the ends by one then, and otherwise they are
as many (`length_starts`).  No cycle starts while another one is under way (`started?_of_scanning`).

*After the stop.*  The stop is final: no event starts a cycle, and a request changes nothing
(`started?_of_stopped`, `force_of_stopped`).  Only the cycle that was under way at the stop can still
end, and it does so if it is over before it is given up (`endings_of_stopped`).
-/

namespace Roster

namespace Refresh

/-! ## Cycles that end -/

/-- The cause of the cycle that is under way, if one is. -/
def Phase.cycle? : Phase → Option Cause
  | .running cause => some cause
  | .arriving | .waiting _ | .chosen _ | .finished => none

/-- The loop is between two cycles. -/
def Phase.between : Phase → Bool
  | .arriving | .waiting _ | .chosen _ => true
  | .running _ | .finished => false

theorem Phase.between_of_cycle? {phase : Phase} {cause : Cause}
    (h : phase.cycle? = some cause) : phase.between = false := by
  cases phase with
  | running _ => rfl
  | finished => rfl
  | arriving => cases h
  | waiting _ => cases h
  | chosen _ => cases h

/-- The cause of the cycle that an event ends, if it ends one.  A cycle that is given up does not
end. -/
def ended? (r : Refresh) : Event → Option Cause
  | .finish => r.phase.cycle?
  | _ => none

/-- The causes of the cycles that end in a run. -/
def endings : Refresh → List (Nat × Event) → List Cause
  | _, [] => []
  | r, (now, e) :: rest => (r.ended? e).toList ++ endings (r.step now e) rest

/-- Whether an event gives up the cycle under way. -/
def Event.givesUp : Event → Bool
  | .abort => true
  | _ => false

/-- What a step does to the cycle under way, to what is said of the refreshing and to the count of
cycles, with the causes of the cycle that it starts and of the one that it ends, and whether it gives
one up. -/
inductive Turn (r r' : Refresh) : Option Cause → Option Cause → Bool → Prop where
  /-- The loop goes on as it was. -/
  | pass : r'.status = r.status → r'.phase.cycle? = r.phase.cycle? →
      r'.phase.between = r.phase.between → r'.cycles = r.cycles → Turn r r' none none false
  /-- No cycle will start any more. -/
  | stop : r'.status = .stopped → r'.phase.cycle? = r.phase.cycle? → r'.cycles = r.cycles →
      Turn r r' none none false
  /-- The loop is ended where it is. -/
  | abort : r'.status = r.status → r'.phase = .finished → r'.cycles = r.cycles →
      Turn r r' none none true
  /-- A cycle starts. -/
  | start (cause : Cause) : r.status ≠ .stopped → r.phase.between = true → r'.status = .scanning →
      r'.phase.cycle? = some cause → r'.cycles = r.cycles → Turn r r' (some cause) none false
  /-- A cycle ends. -/
  | back (cause : Cause) : r.phase.cycle? = some cause →
      r'.status = (if r.status = .scanning then .idle else r.status) → r'.phase.cycle? = none →
      r'.cycles = r.cycles + 1 → Turn r r' none (some cause) false

theorem force_turn (r : Refresh) : Turn r r.force none none false := by
  unfold force
  split
  next => exact .pass rfl rfl rfl rfl
  next =>
    unfold ring
    split
    next hp => exact .pass rfl (by rw [hp]; rfl) (by rw [hp]; rfl) rfl
    next => exact .pass rfl rfl rfl rfl

theorem look_turn (now : Nat) (r : Refresh) : Turn r (r.look now) none none false := by
  unfold look
  split
  next hp =>
    split
    next => exact .stop rfl (by rw [hp]; rfl) rfl
    next =>
      split
      next => exact .pass rfl (by rw [hp]; rfl) (by rw [hp]; rfl) rfl
      next => split <;> exact .pass rfl (by rw [hp]; rfl) (by rw [hp]; rfl) rfl
  next woken hp =>
    split
    next => exact .stop rfl (by rw [hp]; rfl) rfl
    next =>
      split
      next => exact .pass rfl (by rw [hp]; rfl) (by rw [hp]; rfl) rfl
      next =>
        split
        next => exact .pass rfl (by rw [hp]; rfl) (by rw [hp]; rfl) rfl
        next => exact .pass rfl rfl rfl rfl
  next => exact .pass rfl rfl rfl rfl

theorem begin_turn (r : Refresh) : Turn r r.begin (r.started? .begin) none false := by
  simp only [begin, started?]
  cases hp : r.phase with
  | chosen cause =>
      dsimp only
      split
      next => exact .stop rfl (by rw [hp]; rfl) rfl
      next hs => exact .start cause hs (by rw [hp]; rfl) rfl rfl rfl
  | arriving => exact .pass rfl rfl rfl rfl
  | waiting _ => exact .pass rfl rfl rfl rfl
  | running _ => exact .pass rfl rfl rfl rfl
  | finished => exact .pass rfl rfl rfl rfl

theorem finish_turn (now : Nat) (r : Refresh) :
    Turn r (r.finish now) none (r.ended? .finish) false := by
  simp only [finish, ended?]
  cases hp : r.phase with
  | running cause =>
      simp only [rearm]
      split
      next => exact .back cause (by rw [hp]; rfl) rfl rfl rfl
      next => exact .back cause (by rw [hp]; rfl) rfl rfl rfl
  | arriving => exact .pass rfl rfl rfl rfl
  | waiting _ => exact .pass rfl rfl rfl rfl
  | chosen _ => exact .pass rfl rfl rfl rfl
  | finished => exact .pass rfl rfl rfl rfl

/-- What an event can do. -/
theorem step_turn (now : Nat) (r : Refresh) (e : Event) :
    Turn r (r.step now e) (r.started? e) (r.ended? e) e.givesUp := by
  cases e with
  | force => exact r.force_turn
  | look => exact r.look_turn now
  | begin => exact r.begin_turn
  | finish => exact r.finish_turn now
  | stop => exact .stop rfl rfl rfl
  | cancel => exact .pass rfl rfl rfl rfl
  | abort => exact .abort rfl rfl rfl

variable {r : Refresh} {now : Nat} {e : Event}

theorem cycles_step (now : Nat) (r : Refresh) (e : Event) :
    (r.step now e).cycles = r.cycles + (r.ended? e).toList.length := by
  have ht := r.step_turn now e
  generalize r.started? e = started, r.ended? e = ended, e.givesUp = gone at ht
  cases ht with
  | pass _ _ _ hcycles => exact hcycles
  | stop _ _ hcycles => exact hcycles
  | abort _ _ hcycles => exact hcycles
  | start _ _ _ _ _ hcycles => exact hcycles
  | back _ _ _ _ hcycles => exact hcycles

/-- The count of cycles counts those that ended. -/
theorem cycles_run (r : Refresh) (events : List (Nat × Event)) :
    (r.run events).cycles = r.cycles + (r.endings events).length := by
  induction events generalizing r with
  | nil => rfl
  | cons event rest ih =>
      obtain ⟨now, e⟩ := event
      rw [run_cons, ih, cycles_step, endings, List.length_append, Nat.add_assoc]

/-! ## The stop is final -/

/-- A cycle starts only between two cycles, and only before the stop. -/
theorem started?_spec {cause : Cause} (h : r.started? e = some cause) :
    r.status ≠ .stopped ∧ r.phase.between = true := by
  have ht := r.step_turn 0 e
  rw [h] at ht
  generalize r.ended? e = ended, e.givesUp = gone at ht
  cases ht with
  | start _ hnot hbetween _ _ _ => exact ⟨hnot, hbetween⟩

theorem started?_of_stopped (hs : r.status = .stopped) (e : Event) : r.started? e = none := by
  cases h : r.started? e with
  | none => rfl
  | some cause => exact absurd hs (started?_spec h).1

theorem status_step_of_stopped (hs : r.status = .stopped) (now : Nat) (e : Event) :
    (r.step now e).status = .stopped := by
  have ht := r.step_turn now e
  generalize r.step now e = r', r.started? e = started, r.ended? e = ended, e.givesUp = gone at ht
  cases ht with
  | pass hstatus _ _ _ => exact hstatus.trans hs
  | stop hstatus _ _ => exact hstatus
  | abort hstatus _ _ => exact hstatus.trans hs
  | start _ hnot _ _ _ _ => exact absurd hs hnot
  | back _ _ hstatus _ _ =>
      rw [hstatus, hs]
      rfl

theorem status_run_of_stopped (hs : r.status = .stopped) (events : List (Nat × Event)) :
    (r.run events).status = .stopped :=
  run_induction (P := fun r => r.status = .stopped)
    (fun now _ e h => status_step_of_stopped h now e) hs events

/-! ## Before the stop -/

/-- Until the stop, what is said of the refreshing agrees with the loop. -/
structure InStep (r : Refresh) : Prop where
  /-- While it is said to scan, the loop is not between two cycles. -/
  between_of_scanning : r.status = .scanning → r.phase.between = false
  /-- While it is said to be idle, no cycle is under way. -/
  cycle?_of_idle : r.status = .idle → r.phase.cycle? = none

theorem InStep.step (h : InStep r) (now : Nat) (e : Event) : InStep (r.step now e) := by
  have ht := r.step_turn now e
  generalize r.step now e = r', r.started? e = started, r.ended? e = ended, e.givesUp = gone at ht
  cases ht with
  | pass hstatus hcycle hbetween _ =>
      constructor
      · rw [hstatus, hbetween]
        exact h.between_of_scanning
      · rw [hstatus, hcycle]
        exact h.cycle?_of_idle
  | stop hstatus _ _ =>
      constructor
      · rw [hstatus]
        exact nofun
      · rw [hstatus]
        exact nofun
  | abort _ hphase _ =>
      constructor
      · intro _
        rw [hphase]
        rfl
      · intro _
        rw [hphase]
        rfl
  | start cause _ _ hstatus hcycle _ =>
      constructor
      · intro _
        exact Phase.between_of_cycle? hcycle
      · rw [hstatus]
        exact nofun
  | back cause hcycle hstatus hover _ =>
      constructor
      · -- a cycle that ends leaves nothing that is said to scan
        rw [hstatus]
        split
        next => exact nofun
        next hnot => exact fun hs => absurd hs hnot
      · intro _
        exact hover

theorem status_spawn (now interval : Nat) : (spawn now interval).status = .idle := by
  rcases spawn_cases now interval with ⟨-, -, h⟩ | ⟨-, h⟩ <;> rw [h]

theorem inStep_spawn (now interval : Nat) : InStep (spawn now interval) := by
  constructor
  · rw [status_spawn]
    exact nofun
  · intro _
    rcases spawn_cases now interval with ⟨-, -, h⟩ | ⟨-, h⟩ <;> rw [h] <;> rfl

/-- No cycle starts while one is said to be under way. -/
theorem started?_of_scanning (h : InStep r) (hs : r.status = .scanning) (e : Event) :
    r.started? e = none := by
  cases hstart : r.started? e with
  | none => rfl
  | some cause =>
      have hbetween := (started?_spec hstart).2
      rw [h.between_of_scanning hs] at hbetween
      cases hbetween

/-- One cycle is under way while the refreshing is said to scan, and otherwise none is. -/
def scanning (r : Refresh) : Nat := if r.status = .scanning then 1 else 0

theorem scanning_step (h : InStep r) (hs : (r.step now e).status ≠ .stopped) :
    (r.started? e).toList.length + r.scanning =
      (r.ended? e).toList.length + (r.step now e).scanning := by
  have ht := r.step_turn now e
  generalize r.step now e = r', r.started? e = started, r.ended? e = ended, e.givesUp = gone at ht hs
  unfold scanning
  cases ht with
  | pass hstatus _ _ _ => rw [hstatus]
  | stop hstatus _ _ => exact absurd hstatus hs
  | abort hstatus _ _ => rw [hstatus]
  | start _ _ hprior hstatus _ _ =>
      have hidle : r.status ≠ .scanning := by
        intro hscan
        rw [h.between_of_scanning hscan] at hprior
        cases hprior
      simp [hstatus, hidle]
  | back _ hprior hstatus _ _ =>
      cases hr : r.status with
      | scanning => simp [hstatus, hr]
      | stopped => simp [hstatus, hr] at hs
      | idle =>
          rw [h.cycle?_of_idle hr] at hprior
          cases hprior

/-- Up to the stop, the starts of a run outnumber the ends by one while the refreshing is said to
scan, and otherwise they are as many. -/
theorem length_starts (h : InStep r) {events : List (Nat × Event)}
    (hs : (r.run events).status ≠ .stopped) :
    (r.starts events).length + r.scanning =
      (r.endings events).length + (r.run events).scanning := by
  induction events generalizing r with
  | nil => rfl
  | cons event rest ih =>
      obtain ⟨now, e⟩ := event
      have hnext : (r.step now e).status ≠ .stopped := fun hstop =>
        hs (status_run_of_stopped hstop rest)
      have hfirst := scanning_step h hnext
      have hrest := ih (h.step now e) hs
      rw [starts, endings, run_cons, List.length_append, List.length_append]
      omega

/-! ## After the stop -/

/-- After the stop a request is ignored. -/
theorem request_of_stopped (hs : r.status = .stopped) : r.request = .ignored := by
  unfold request
  rw [if_pos hs]

/-- A request that is ignored changes nothing. -/
theorem force_of_stopped (hs : r.status = .stopped) (now : Nat) : r.step now .force = r := by
  show r.force = r
  unfold force
  rw [if_pos (request_of_stopped hs)]

theorem starts_of_stopped (hs : r.status = .stopped) (events : List (Nat × Event)) :
    r.starts events = [] := by
  induction events generalizing r with
  | nil => rfl
  | cons event rest ih =>
      obtain ⟨now, e⟩ := event
      exact starts_cons_eq_nil_iff.2
        ⟨started?_of_stopped hs e, ih (status_step_of_stopped hs now e)⟩

/-- After the stop a cycle stays under way until it ends or is given up. -/
theorem cycle?_step_of_stopped (hs : r.status = .stopped) (now : Nat) (e : Event) :
    (r.step now e).phase.cycle? =
      if (r.ended? e).isSome || e.givesUp then none else r.phase.cycle? := by
  have ht := r.step_turn now e
  generalize r.step now e = r', r.started? e = started, r.ended? e = ended, e.givesUp = gone at ht ⊢
  cases ht with
  | pass _ hcycle _ _ => exact hcycle
  | stop _ hcycle _ => exact hcycle
  | abort _ hphase _ => rw [hphase]; rfl
  | start _ hnot _ _ _ _ => exact absurd hs hnot
  | back _ _ _ hover _ => exact hover

/-- Whether a cycle under way is over before it would be given up. -/
def overFirst : List (Nat × Event) → Bool
  | [] => false
  | (_, .finish) :: _ => true
  | (_, .abort) :: _ => false
  | _ :: rest => overFirst rest

theorem endings_of_stopped (hs : r.status = .stopped) (events : List (Nat × Event)) :
    r.endings events = if overFirst events then r.phase.cycle?.toList else [] := by
  induction events generalizing r with
  | nil => rfl
  | cons event rest ih =>
      obtain ⟨now, e⟩ := event
      have hrest := ih (status_step_of_stopped hs now e)
      rw [cycle?_step_of_stopped hs] at hrest
      cases e with
      | finish =>
          cases hc : r.phase.cycle? <;> simp [endings, overFirst, hrest, ended?, hc, Event.givesUp]
      | abort => simp [endings, overFirst, hrest, ended?, Event.givesUp]
      | force => exact hrest
      | look => exact hrest
      | begin => exact hrest
      | stop => exact hrest
      | cancel => exact hrest

end Refresh

end Roster
