import Roster.Refresh

/-!
# Runs of the refreshing

A refreshing starts in one of two states (`spawn_cases`).  What an event does to the loop and to its
bell is one of nine moves (`Move`, `step_move`), and that is all that the proofs on requests need of
`step`.

A run *starts* a cycle when the loop begins one for which it has a cause (`started?`, `starts`).
A request is *unserved* if no start has followed it (`Unserved`).  Since a request is marked as
pending until a cycle starts, an unserved one is still marked at the end of the run
(`pending_of_unserved`).
-/

namespace Roster

namespace Refresh

/-! ## The start -/

/-- A refreshing starts on its way to the wait, or is over if its first tick cannot be set. -/
theorem spawn_cases (now interval : Nat) :
    (0 < interval ∧ now + interval < Clock.secondsBound * 1000 ∧
        spawn now interval = { interval, nextTick := now + interval }) ∨
      ((interval = 0 ∨ Clock.secondsBound * 1000 ≤ now + interval) ∧
        spawn now interval = { interval, nextTick := now, phase := .finished }) := by
  unfold spawn
  by_cases hzero : interval = 0
  · exact Or.inr ⟨Or.inl hzero, if_pos hzero⟩
  · rw [if_neg hzero, rearm]
    cases hnext : Clock.after? now interval with
    | none => exact Or.inr ⟨Or.inr (Clock.after?_eq_none_iff.1 hnext), rfl⟩
    | some nextTick =>
        obtain ⟨rfl, hlt⟩ := Clock.after?_eq_some_iff.1 hnext
        exact Or.inl ⟨Nat.pos_of_ne_zero hzero, hlt, rfl⟩

/-! ## Moves -/

/-- The cause of the cycle that an event starts, if it starts one. -/
def started? (r : Refresh) : Event → Option Cause
  | .begin =>
      match r.phase with
      | .chosen cause => if r.status = .stopped then none else some cause
      | _ => none
  | _ => none

/-- Whether an event is a request that is not ignored. -/
def asks (r : Refresh) (e : Event) : Bool := e = .force && r.request ≠ .ignored

/-- What a step does to the phase of the loop, to the ring that is kept and to the mark of a
request, with the cause of the cycle that it starts and whether it is a request. -/
inductive Move (r r' : Refresh) : Option Cause → Bool → Prop where
  /-- Nothing is changed. -/
  | stay : r'.phase = r.phase → r'.kept = r.kept → r'.pending = r.pending → Move r r' none false
  /-- The loop ends. -/
  | close : r'.phase = .finished → r'.pending = r.pending → Move r r' none false
  /-- A request wakes the loop. -/
  | wake : r.phase = .waiting false → r'.phase = .waiting true → r'.kept = r.kept →
      r'.pending = true → Move r r' none true
  /-- The ring of a request is kept. -/
  | keep : r.phase ≠ .waiting false → r'.phase = r.phase → r'.kept = true →
      r'.pending = true → Move r r' none true
  /-- The loop hears the ring that was kept. -/
  | hear : r.phase = .arriving → r.kept = true → r'.phase = .chosen .bell → r'.kept = false →
      r'.pending = r.pending → Move r r' none false
  /-- The loop hears nothing, and waits or sees that the tick is due. -/
  | miss : r.phase = .arriving → r.kept = false →
      r'.phase = .waiting false ∨ r'.phase = .chosen .tick → r'.kept = false →
      r'.pending = r.pending → Move r r' none false
  /-- The loop stops waiting, since it was woken or the tick is due. -/
  | leave (woken : Bool) : r.phase = .waiting woken →
      r'.phase = .chosen (if woken then .bell else .tick) → r'.kept = r.kept →
      r'.pending = r.pending → Move r r' none false
  /-- A cycle starts. -/
  | start (cause : Cause) : r.phase = .chosen cause → r'.phase = .running cause →
      r'.kept = r.kept → r'.pending = false → Move r r' (some cause) false
  /-- A cycle ends. -/
  | back (cause : Cause) : r.phase = .running cause → r'.phase = .arriving → r'.kept = r.kept →
      r'.pending = r.pending → Move r r' none false

theorem force_move (r : Refresh) : Move r r.force none (r.asks .force) := by
  unfold force asks
  by_cases hi : r.request = .ignored
  · rw [if_pos hi]
    simp only [hi, ne_eq, not_true_eq_false, decide_false, Bool.and_false]
    exact .stay rfl rfl rfl
  · rw [if_neg hi]
    simp only [hi, ne_eq, not_false_eq_true, decide_true, Bool.and_true]
    unfold ring
    split
    next hp => exact .wake hp rfl rfl rfl
    next hp => exact .keep hp rfl rfl rfl

theorem look_move (now : Nat) (r : Refresh) : Move r (r.look now) none false := by
  unfold look
  split
  next hp =>
    by_cases hc : r.cancelled = true
    · rw [if_pos hc]
      exact .close rfl rfl
    · rw [if_neg hc]
      cases hk : r.kept with
      | true => exact .hear hp hk rfl rfl rfl
      | false =>
          simp only [Bool.false_eq_true, if_false]
          split
          next => exact .miss hp hk (Or.inr rfl) rfl rfl
          next => exact .miss hp hk (Or.inl rfl) rfl rfl
  next woken hp =>
    by_cases hc : r.cancelled = true
    · rw [if_pos hc]
      exact .close rfl rfl
    · rw [if_neg hc]
      cases woken with
      | true => exact .leave true hp rfl rfl rfl
      | false =>
          simp only [Bool.false_eq_true, if_false]
          split
          next => exact .leave false hp rfl rfl rfl
          next => exact .stay rfl rfl rfl
  next => exact .stay rfl rfl rfl

theorem begin_move (r : Refresh) : Move r r.begin (r.started? .begin) false := by
  simp only [begin, started?]
  cases hp : r.phase with
  | chosen cause =>
      dsimp only
      split
      next => exact .close rfl rfl
      next => exact .start cause hp rfl rfl rfl
  | arriving => exact .stay rfl rfl rfl
  | waiting _ => exact .stay rfl rfl rfl
  | running _ => exact .stay rfl rfl rfl
  | finished => exact .stay rfl rfl rfl

theorem finish_move (now : Nat) (r : Refresh) : Move r (r.finish now) none false := by
  unfold finish
  split
  next cause hp =>
    unfold rearm
    split
    next => exact .back cause hp rfl rfl rfl
    next => exact .close rfl rfl
  next => exact .stay rfl rfl rfl

/-- What an event can do. -/
theorem step_move (now : Nat) (r : Refresh) (e : Event) :
    Move r (r.step now e) (r.started? e) (r.asks e) := by
  cases e with
  | force => exact r.force_move
  | look => exact r.look_move now
  | begin => exact r.begin_move
  | finish => exact r.finish_move now
  | stop => exact .stay rfl rfl rfl
  | cancel => exact .stay rfl rfl rfl
  | abort => exact .close rfl rfl

/-! ## Runs -/

/-- The causes of the cycles that are started in a run. -/
def starts : Refresh → List (Nat × Event) → List Cause
  | _, [] => []
  | r, (now, e) :: rest => (r.started? e).toList ++ starts (r.step now e) rest

theorem run_cons (r : Refresh) (now : Nat) (e : Event) (rest : List (Nat × Event)) :
    r.run ((now, e) :: rest) = (r.step now e).run rest := rfl

theorem run_append (r : Refresh) (events rest : List (Nat × Event)) :
    r.run (events ++ rest) = (r.run events).run rest := List.foldl_append

theorem starts_cons_eq_nil_iff {r : Refresh} {now : Nat} {e : Event}
    {rest : List (Nat × Event)} :
    r.starts ((now, e) :: rest) = [] ↔ r.started? e = none ∧ (r.step now e).starts rest = [] := by
  rw [starts, List.append_eq_nil_iff, Option.toList_eq_nil_iff]

/-- What each step of a run keeps, the run keeps. -/
theorem run_induction {P : Refresh → Prop} (hstep : ∀ now r e, P r → P (r.step now e))
    {r : Refresh} (hr : P r) (events : List (Nat × Event)) : P (r.run events) := by
  induction events generalizing r with
  | nil => exact hr
  | cons e rest ih => exact ih (hstep e.1 r e.2 hr)

/-! ## Requests -/

/-- The run has a request that was not ignored, and that found the loop in a phase of the kind. -/
def Asked (kind : Phase → Bool) (r : Refresh) (events : List (Nat × Event)) : Prop :=
  ∃ before now after, events = before ++ (now, .force) :: after
    ∧ (r.run before).request ≠ .ignored ∧ kind (r.run before).phase = true

/-- The run has such a request that no start of a cycle has followed. -/
def Unserved (kind : Phase → Bool) (r : Refresh) (events : List (Nat × Event)) : Prop :=
  ∃ before now after, events = before ++ (now, .force) :: after
    ∧ (r.run before).request ≠ .ignored ∧ kind (r.run before).phase = true
    ∧ (r.run (before ++ [(now, .force)])).starts after = []

variable {kind : Phase → Bool} {r : Refresh} {now : Nat} {e : Event} {rest : List (Nat × Event)}

theorem asks_eq_true_iff : r.asks e = true ↔ e = .force ∧ r.request ≠ .ignored := by
  simp [asks]

theorem not_asked_nil : ¬ r.Asked kind [] := by
  rintro ⟨before, now, after, h, -⟩
  exact absurd h.symm (by simp)

theorem not_unserved_nil : ¬ r.Unserved kind [] := by
  rintro ⟨before, now, after, h, -⟩
  exact absurd h.symm (by simp)

theorem asked_cons :
    r.Asked kind ((now, e) :: rest) ↔
      (r.asks e = true ∧ kind r.phase = true) ∨ (r.step now e).Asked kind rest := by
  constructor
  · rintro ⟨before, now', after, h, hr, hk⟩
    cases before with
    | nil =>
        cases h
        exact Or.inl ⟨asks_eq_true_iff.2 ⟨rfl, hr⟩, hk⟩
    | cons e' before =>
        cases h
        exact Or.inr ⟨before, now', after, rfl, hr, hk⟩
  · rintro (⟨ha, hk⟩ | ⟨before, now', after, rfl, hr, hk⟩)
    · obtain ⟨rfl, hr⟩ := asks_eq_true_iff.1 ha
      exact ⟨[], now, rest, rfl, hr, hk⟩
    · exact ⟨(now, e) :: before, now', after, rfl, hr, hk⟩

theorem unserved_cons :
    r.Unserved kind ((now, e) :: rest) ↔
      (r.asks e = true ∧ kind r.phase = true ∧ (r.step now e).starts rest = [])
        ∨ (r.step now e).Unserved kind rest := by
  constructor
  · rintro ⟨before, now', after, h, hr, hk, hs⟩
    cases before with
    | nil =>
        cases h
        exact Or.inl ⟨asks_eq_true_iff.2 ⟨rfl, hr⟩, hk, hs⟩
    | cons e' before =>
        cases h
        exact Or.inr ⟨before, now', after, rfl, hr, hk, hs⟩
  · rintro (⟨ha, hk, hs⟩ | ⟨before, now', after, rfl, hr, hk, hs⟩)
    · obtain ⟨rfl, hr⟩ := asks_eq_true_iff.1 ha
      exact ⟨[], now, rest, rfl, hr, hk, hs⟩
    · exact ⟨(now, e) :: before, now', after, rfl, hr, hk, hs⟩

/-- A request is marked as pending. -/
theorem pending_of_asks (h : r.asks e = true) : (r.step now e).pending = true := by
  have hm := r.step_move now e
  rw [h] at hm
  generalize r.started? e = start at hm
  cases hm with
  | wake _ _ _ hpending => exact hpending
  | keep _ _ _ hpending => exact hpending

/-- The mark stays until a cycle starts. -/
theorem pending_of_starts (h : r.pending = true) (hs : r.starts rest = []) :
    (r.run rest).pending = true := by
  induction rest generalizing r with
  | nil => exact h
  | cons event rest ih =>
      obtain ⟨now, e⟩ := event
      obtain ⟨hstart, hs⟩ := starts_cons_eq_nil_iff.1 hs
      refine ih ?_ hs
      have hm := r.step_move now e
      rw [hstart] at hm
      generalize r.asks e = asked at hm
      cases hm with
      | wake _ _ _ hpending => exact hpending
      | keep _ _ _ hpending => exact hpending
      | stay _ _ hpending => exact hpending.trans h
      | close _ hpending => exact hpending.trans h
      | hear _ _ _ _ hpending => exact hpending.trans h
      | miss _ _ _ _ hpending => exact hpending.trans h
      | leave _ _ _ _ hpending => exact hpending.trans h
      | back _ _ _ _ hpending => exact hpending.trans h

/-- A request that no start has followed is still marked. -/
theorem pending_of_unserved (h : r.Unserved kind rest) : (r.run rest).pending = true := by
  obtain ⟨before, now, after, rfl, hr, -, hs⟩ := h
  have hp : (r.run (before ++ [(now, .force)])).pending = true := by
    rw [run_append]
    show ((r.run before).step now .force).pending = true
    exact pending_of_asks (asks_eq_true_iff.2 ⟨rfl, hr⟩)
  have hlast := pending_of_starts hp hs
  rw [← run_append, List.append_assoc] at hlast
  exact hlast

end Refresh

end Roster
