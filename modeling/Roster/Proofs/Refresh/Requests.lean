import Roster.Proofs.Refresh.Moves

/-!
# What becomes of requests

*No request is lost.*  While a request is pending, the bell holds the loop up: its ring is kept,
has woken the loop or was heard (`Heard`).  So when the loop waits and was not woken, nothing is
pending, and a start has followed every request (`served_of_waiting`).

*What a bell is rung for.*  A request that finds the loop awake, after it stopped waiting and
before its cycle starts, comes too late for the ring to be heard with the others.  The ring is kept
over the start, though the cycle serves the request.  `start_of_bell_iff` says that a cycle is
started by the bell just when a request came in time since the start before, or too late for that
start.  So the requests between two starts cause at most one cycle unless one of them comes late,
and `bell_without_request` is a run in which two requests cause two.
-/

namespace Roster

namespace Refresh

/-! ## No request is lost -/

/-- What the bell holds while the loop waits or a request is pending. -/
structure Heard (r : Refresh) : Prop where
  /-- A loop that waits and was not woken has heard all rings. -/
  kept_of_waiting : r.phase = .waiting false → r.kept = false
  /-- While a request is pending, the loop is going to hear a ring, has heard it, or is over. -/
  ring_of_pending : r.pending = true → r.kept = true ∨ r.phase = .waiting true
    ∨ r.phase = .chosen .bell ∨ r.phase = .finished

theorem Heard.step {r : Refresh} (h : Heard r) (now : Nat) (e : Event) :
    Heard (r.step now e) := by
  have hm := r.step_move now e
  generalize r.step now e = r', r.started? e = start, r.asks e = asked at hm
  cases hm with
  | stay hphase hkept hpending =>
      constructor
      · rw [hphase, hkept]
        exact h.kept_of_waiting
      · rw [hphase, hkept, hpending]
        exact h.ring_of_pending
  | close hphase _ =>
      constructor
      · rw [hphase]
        exact nofun
      · intro _
        exact Or.inr (Or.inr (Or.inr hphase))
  | wake _ hphase _ _ =>
      constructor
      · rw [hphase]
        exact nofun
      · intro _
        exact Or.inr (Or.inl hphase)
  | keep hprior hphase hkept _ =>
      constructor
      · rw [hphase]
        intro hw
        exact absurd hw hprior
      · intro _
        exact Or.inl hkept
  | hear _ _ hphase _ _ =>
      constructor
      · rw [hphase]
        exact nofun
      · intro _
        exact Or.inr (Or.inr (Or.inl hphase))
  | miss hprior hmissed _ hkept hpending =>
      constructor
      · intro _
        exact hkept
      · -- nothing is pending, as no ring is on its way
        rw [hpending]
        intro hp
        have hr := h.ring_of_pending hp
        simp [hprior, hmissed] at hr
  | leave woken hprior hphase hkept hpending =>
      constructor
      · rw [hphase]
        exact nofun
      · rw [hpending, hkept, hphase]
        intro hp
        cases woken with
        | true => exact Or.inr (Or.inr (Or.inl rfl))
        | false =>
            have hr := h.ring_of_pending hp
            simp [hprior, h.kept_of_waiting hprior] at hr
  | start cause _ hphase _ hpending =>
      constructor
      · rw [hphase]
        exact nofun
      · rw [hpending]
        exact nofun
  | back cause hprior hphase hkept hpending =>
      constructor
      · rw [hphase]
        exact nofun
      · rw [hpending, hkept]
        intro hp
        have hr := h.ring_of_pending hp
        simp only [hprior, reduceCtorEq, or_false] at hr
        exact Or.inl hr

/-- The state that a refreshing starts in. -/
theorem spawn_eq (now interval : Nat) :
    (spawn now interval).kept = false ∧ (spawn now interval).pending = false
      ∧ ((spawn now interval).phase = .arriving ∨ (spawn now interval).phase = .finished) := by
  rcases spawn_cases now interval with ⟨-, -, h⟩ | ⟨-, h⟩
  · rw [h]
    exact ⟨rfl, rfl, Or.inl rfl⟩
  · rw [h]
    exact ⟨rfl, rfl, Or.inr rfl⟩

theorem heard_spawn (now interval : Nat) : Heard (spawn now interval) := by
  obtain ⟨hkept, hpending, -⟩ := spawn_eq now interval
  constructor
  · intro _
    exact hkept
  · rw [hpending]
    exact nofun

/-- Whenever the loop waits and was not woken, no ring is kept, nothing is pending, and a cycle has
started after every request that was not ignored. -/
theorem served_of_waiting (start interval : Nat) (events : List (Nat × Event))
    (hwaiting : ((spawn start interval).run events).phase = .waiting false) :
    ((spawn start interval).run events).kept = false
    ∧ ((spawn start interval).run events).pending = false
    ∧ ∀ before now after, events = before ++ (now, .force) :: after →
      ((spawn start interval).run before).request ≠ .ignored →
      ((spawn start interval).run (before ++ [(now, .force)])).starts after ≠ [] := by
  have hheard : Heard ((spawn start interval).run events) :=
    run_induction (fun now _ e h => h.step now e) (heard_spawn start interval) events
  have hkept := hheard.kept_of_waiting hwaiting
  have hpending : ((spawn start interval).run events).pending = false := by
    cases hp : ((spawn start interval).run events).pending with
    | false => rfl
    | true =>
        have hr := hheard.ring_of_pending hp
        simp [hkept, hwaiting] at hr
  refine ⟨hkept, hpending, ?_⟩
  intro before now after hevents hrequest hstarts
  have hunserved : (spawn start interval).Unserved (fun _ => true) events :=
    ⟨before, now, after, hevents, hrequest, rfl, hstarts⟩
  rw [pending_of_unserved hunserved] at hpending
  cases hpending

/-- A request that is made after the loop has woken and before its cycle starts is served by that
cycle, and the ring that is kept starts another one. -/
theorem served_of_waiting_after_two :
    let before : List (Nat × Event) := [(0, .look), (5, .force), (5, .look)]
    let after : List (Nat × Event) :=
      [(6, .begin), (9, .finish), (9, .look), (9, .begin), (12, .finish), (12, .look)]
    let last := (spawn 0 1000).run (before ++ (5, .force) :: after)
    last.phase = .waiting false ∧ last.kept = false ∧ last.pending = false
    ∧ ((spawn 0 1000).run (before ++ [(5, .force)])).starts after ≠ [] := by
  intro before after last
  have hwaiting : last.phase = .waiting false := by decide
  obtain ⟨hkept, hpending, hserved⟩ := served_of_waiting 0 1000 _ hwaiting
  exact ⟨hwaiting, hkept, hpending, hserved before 5 after rfl (by decide)⟩

/-! ## What a bell is rung for -/

/-- The loop hears a ring with the next look, or is woken by it. -/
def Phase.inTime : Phase → Bool
  | .arriving | .waiting false | .running _ => true
  | .waiting true | .chosen _ | .finished => false

/-- The loop is awake already, and its cycle has not started yet. -/
def Phase.tooLate : Phase → Bool
  | .waiting true | .chosen _ => true
  | .arriving | .waiting false | .running _ | .finished => false

/-- Where a ring is kept over the next start if a request came too late for it. -/
def KeptIf (late : Prop) (r : Refresh) : Prop :=
  match r.phase with
  | .arriving | .running _ => ¬ late
  | .waiting _ | .chosen _ => r.kept = true ↔ late
  | .finished => True

/-- Where the bell starts the next cycle if a ring is due. -/
def HeardIf (due : Prop) (r : Refresh) : Prop :=
  match r.phase with
  | .arriving | .running _ => r.kept = true ↔ due
  | .waiting woken => woken = true ↔ due
  | .chosen cause => cause = .bell ↔ due
  | .finished => True

theorem KeptIf.step {late : Prop} {r : Refresh} (h : KeptIf late r) (now : Nat) (e : Event) :
    KeptIf (r.started? e = none ∧ (late ∨ (r.asks e = true ∧ r.phase.tooLate = true)))
      (r.step now e) := by
  have hm := r.step_move now e
  generalize r.step now e = r', r.started? e = start, r.asks e = asked at hm ⊢
  unfold KeptIf at h ⊢
  cases hm with
  | stay hphase hkept _ =>
      rw [hphase, hkept]
      simpa using h
  | close hphase _ => simp [hphase]
  | wake hprior hphase hkept _ =>
      rw [hprior] at h
      simpa [hphase, hkept, hprior, Phase.tooLate] using h
  | keep hprior hphase hkept _ =>
      rw [hphase]
      cases hp : r.phase with
      | arriving => simpa [hp, Phase.tooLate] using h
      | running _ => simpa [hp, Phase.tooLate] using h
      | chosen _ => simp [hkept, Phase.tooLate]
      | finished => simp
      | waiting woken =>
          cases woken with
          | true => simp [hkept, Phase.tooLate]
          | false => exact absurd hp hprior
  | hear hprior _ hphase hkept _ =>
      rw [hprior] at h
      simpa [hphase, hkept] using h
  | miss hprior _ hphase hkept _ =>
      rw [hprior] at h
      rcases hphase with hphase | hphase <;> simpa [hphase, hkept] using h
  | leave woken hprior hphase hkept _ =>
      rw [hprior] at h
      simpa [hphase, hkept] using h
  | start cause _ hphase _ _ => simp [hphase]
  | back cause hprior hphase _ _ =>
      rw [hprior] at h
      simpa [hphase] using h

theorem HeardIf.step {due : Prop} {r : Refresh} (h : HeardIf due r) (now : Nat) {e : Event}
    (hstart : r.started? e = none) :
    HeardIf (due ∨ (r.asks e = true ∧ r.phase.inTime = true)) (r.step now e) := by
  have hm := r.step_move now e
  rw [hstart] at hm
  generalize r.step now e = r', r.asks e = asked at hm ⊢
  unfold HeardIf at h ⊢
  cases hm with
  | stay hphase hkept _ =>
      rw [hphase, hkept]
      simpa using h
  | close hphase _ => simp [hphase]
  | wake hprior hphase _ _ => simp [hphase, hprior, Phase.inTime]
  | keep hprior hphase hkept _ =>
      rw [hphase]
      cases hp : r.phase with
      | arriving => simp [hkept, Phase.inTime]
      | running _ => simp [hkept, Phase.inTime]
      | chosen _ => simpa [hp, Phase.inTime] using h
      | finished => simp
      | waiting woken =>
          cases woken with
          | true => simpa [hp, Phase.inTime] using h
          | false => exact absurd hp hprior
  | hear hprior hrung hphase _ _ =>
      rw [hprior] at h
      simpa [hphase, hrung] using h
  | miss hprior hmissed hphase _ _ =>
      rw [hprior] at h
      rcases hphase with hphase | hphase <;> simpa [hphase, hmissed] using h
  | leave woken hprior hphase _ _ =>
      rw [hprior] at h
      cases woken <;> simpa [hphase] using h
  | back cause hprior hphase hkept _ =>
      rw [hprior] at h
      simpa [hphase, hkept] using h

/-- Over a run, a ring is kept over the next start if a request came too late for it since the
start before. -/
theorem KeptIf.run {late : Prop} {r : Refresh} (h : KeptIf late r)
    (events : List (Nat × Event)) :
    KeptIf ((late ∧ r.starts events = []) ∨ r.Unserved Phase.tooLate events) (r.run events) := by
  induction events generalizing r late with
  | nil =>
      have hl : ((late ∧ r.starts [] = []) ∨ r.Unserved Phase.tooLate []) ↔ late := by
        simp [starts, not_unserved_nil]
      rw [propext hl]
      exact h
  | cons event rest ih =>
      obtain ⟨now, e⟩ := event
      have hs := ih (h.step now e)
      have hl : (((r.started? e = none ∧ (late ∨ (r.asks e = true ∧ r.phase.tooLate = true)))
          ∧ (r.step now e).starts rest = []) ∨ (r.step now e).Unserved Phase.tooLate rest) ↔
          ((late ∧ r.starts ((now, e) :: rest) = [])
            ∨ r.Unserved Phase.tooLate ((now, e) :: rest)) := by
        rw [starts_cons_eq_nil_iff, unserved_cons]
        have hquiet : r.asks e = true → r.started? e = none := by
          intro ha
          obtain ⟨rfl, -⟩ := asks_eq_true_iff.1 ha
          rfl
        grind
      rw [← propext hl]
      exact hs

/-- Over a run without starts, a ring is due if it was so before or a request came in time. -/
theorem HeardIf.run {due : Prop} {r : Refresh} (h : HeardIf due r)
    {events : List (Nat × Event)} (hs : r.starts events = []) :
    HeardIf (due ∨ r.Asked Phase.inTime events) (r.run events) := by
  induction events generalizing r due with
  | nil =>
      have hd : (due ∨ r.Asked Phase.inTime []) ↔ due := by simp [not_asked_nil]
      rw [propext hd]
      exact h
  | cons event rest ih =>
      obtain ⟨now, e⟩ := event
      obtain ⟨hstart, hs⟩ := starts_cons_eq_nil_iff.1 hs
      have hrest := ih (h.step now hstart) hs
      rw [propext asked_cons, ← or_assoc]
      exact hrest

theorem keptIf_spawn (now interval : Nat) : KeptIf False (spawn now interval) := by
  obtain ⟨-, -, hphase⟩ := spawn_eq now interval
  unfold KeptIf
  rcases hphase with hphase | hphase <;> simp [hphase]

/-- What a start leaves. -/
theorem start_eq {r : Refresh} {cause : Cause} (h : r.started? .begin = some cause) (now : Nat) :
    r.phase = .chosen cause ∧ (r.step now .begin).phase = .running cause
      ∧ (r.step now .begin).kept = r.kept := by
  have hm := r.step_move now .begin
  rw [h] at hm
  generalize r.asks .begin = asked at hm
  cases hm with
  | start _ hprior hphase hkept _ => exact ⟨hprior, hphase, hkept⟩

/-- A cycle is started by the bell if and only if a request came in time since the start before, or
one came too late for the start before. -/
theorem start_of_bell_iff (start interval : Nat) (events since : List (Nat × Event)) (now : Nat)
    (earlier cause : Cause)
    (hearlier : ((spawn start interval).run events).started? .begin = some earlier)
    (hsince : (((spawn start interval).run events).step now .begin).starts since = [])
    (hcause : ((((spawn start interval).run events).step now .begin).run since).started? .begin =
      some cause) :
    cause = .bell ↔
      (((spawn start interval).run events).step now .begin).Asked Phase.inTime since
        ∨ (spawn start interval).Unserved Phase.tooLate events := by
  have hkept := (keptIf_spawn start interval).run events
  obtain ⟨hchosen, hrunning, hsame⟩ := start_eq hearlier now
  have hdue : HeardIf ((spawn start interval).Unserved Phase.tooLate events)
      (((spawn start interval).run events).step now .begin) := by
    unfold KeptIf at hkept
    unfold HeardIf
    rw [hchosen] at hkept
    rw [hrunning, hsame]
    simpa using hkept
  have hheard := hdue.run hsince
  obtain ⟨hnext, -, -⟩ := start_eq hcause now
  unfold HeardIf at hheard
  rw [hnext] at hheard
  exact hheard.trans or_comm

/-- Two requests while the loop waits: the bell starts a second cycle, since the second request
came too late for the first. -/
theorem start_of_bell_iff_after_two :
    let events : List (Nat × Event) := [(0, .look), (5, .force), (5, .force), (5, .look)]
    let since : List (Nat × Event) := [(9, .finish), (9, .look)]
    let running := ((spawn 0 1000).run events).step 5 .begin
    (running.run since).started? .begin = some .bell
    ∧ (running.Asked Phase.inTime since ∨ (spawn 0 1000).Unserved Phase.tooLate events) := by
  intro events since running
  have hcause : (running.run since).started? .begin = some .bell := by decide
  have h := start_of_bell_iff 0 1000 events since 5 .bell .bell (by decide) (by decide) hcause
  exact ⟨hcause, h.1 rfl⟩

/-- It is not so that the bell starts a cycle only if a request came since the start before. -/
theorem bell_without_request :
    ¬ ∀ (start interval : Nat) (events since : List (Nat × Event)) (now : Nat) (earlier : Cause),
      ((spawn start interval).run events).started? .begin = some earlier →
      (((spawn start interval).run events).step now .begin).starts since = [] →
      ((((spawn start interval).run events).step now .begin).run since).started? .begin =
        some .bell →
      ∃ time, (time, Event.force) ∈ since := by
  intro h
  obtain ⟨time, ht⟩ := h 0 1000 [(0, .look), (5, .force), (5, .force), (5, .look)]
    [(9, .finish), (9, .look)] 5 .bell (by decide) (by decide) (by decide)
  simp at ht

end Refresh

end Roster
