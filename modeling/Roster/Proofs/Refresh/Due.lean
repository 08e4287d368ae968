import Roster.Proofs.Refresh.Moves

/-!
# What the loop owes

Without time passing the loop takes a few steps at most before it waits or runs a cycle: those that
it *owes* (`owed`).  Each step lowers what is owed (`owed_turn`, `owed_finish`), since a tick is some
time ahead when a cycle has ended.  For this the interval must not be nothing, which `spawn` sees to
(`Ticks`).
-/

namespace Roster

namespace Refresh

/-- What the loop does next. -/
def nextEvent (r : Refresh) : Event :=
  match r.phase with
  | .chosen _ => .begin
  | _ => .look

/-- A loop that is over, or whose ticks are some time apart. -/
def Ticks (r : Refresh) : Prop := 0 < r.interval ∨ r.phase = .finished

/-- How many steps a ring that is kept gives rise to. -/
def owedRing (r : Refresh) : Nat := if r.kept then 4 else 0

/-- How many steps the loop may still take without time passing.  While it waits for a tick that is
not due it takes none, and a cycle takes four. -/
def owed (now : Nat) (r : Refresh) : Nat :=
  match r.phase with
  | .arriving => if r.kept then 5 else if r.nextTick ≤ now then 4 else 1
  | .waiting woken => (if r.cancelled || woken || r.nextTick ≤ now then 4 else 0) + r.owedRing
  | .chosen _ => 3 + r.owedRing
  | .running _ => 2 + r.owedRing
  | .finished => 0

variable {r : Refresh} {now moment limit : Nat}

theorem owed_le (now : Nat) (r : Refresh) : r.owed now ≤ 8 := by
  have hring : r.owedRing ≤ 4 := by
    unfold owedRing
    split <;> omega
  unfold owed
  split
  next =>
    split
    next => omega
    next => split <;> omega
  next => split <;> omega
  next => omega
  next => omega
  next => omega

theorem owed_of_finished (h : r.phase = .finished) : r.owed now = 0 := by
  rw [owed, h]

theorem owed_of_chosen {cause : Cause} (h : r.phase = .chosen cause) :
    r.owed now = 3 + r.owedRing := by
  rw [owed, h]

theorem owed_of_running {cause : Cause} (h : r.phase = .running cause) :
    r.owed now = 2 + r.owedRing := by
  rw [owed, h]

theorem owed_of_arriving (h : r.phase = .arriving) :
    r.owed now = if r.kept then 5 else if r.nextTick ≤ now then 4 else 1 := by
  rw [owed, h]

theorem owed_of_waiting {woken : Bool} (h : r.phase = .waiting woken) :
    r.owed now =
      (if r.cancelled || woken || r.nextTick ≤ now then 4 else 0) + r.owedRing := by
  rw [owed, h]

/-- A loop that is about to wait takes a step less after it has looked. -/
theorem owed_look_of_arriving (h : r.phase = .arriving) : (r.look now).owed now < r.owed now := by
  rw [owed_of_arriving h]
  simp only [look, h]
  by_cases hcancelled : r.cancelled
  · rw [if_pos hcancelled, owed_of_finished rfl]
    split
    next => omega
    next => split <;> omega
  · rw [if_neg hcancelled]
    by_cases hkept : r.kept
    · rw [if_pos hkept, if_pos hkept, owed_of_chosen rfl]
      show 3 + 0 < 5
      omega
    · have hring : r.owedRing = 0 := if_neg hkept
      rw [if_neg hkept, if_neg hkept]
      by_cases htick : r.nextTick ≤ now
      · rw [if_pos htick, if_pos htick, owed_of_chosen rfl]
        show 3 + r.owedRing < 4
        omega
      · rw [if_neg htick, if_neg htick, owed_of_waiting rfl]
        show (if r.cancelled || false || r.nextTick ≤ now then 4 else 0) + r.owedRing < 1
        simp [hcancelled, htick, hring]

/-- A loop that waits takes a step less after it has looked, or its tick was some time ahead. -/
theorem owed_look_of_waiting {woken : Bool} (h : r.phase = .waiting woken)
    (hdue : r.due? now = some moment) (hlimit : moment ≤ limit) :
    4 * (limit - moment) + (r.look moment).owed moment < 4 * (limit - now) + r.owed now := by
  simp only [due?, h, Option.some.injEq] at hdue
  rw [owed_of_waiting h]
  simp only [look, h]
  by_cases hcancelled : r.cancelled
  · simp only [hcancelled, Bool.true_or, if_true] at hdue ⊢
    rw [← hdue, owed_of_finished rfl]
    omega
  · rw [if_neg hcancelled]
    by_cases hwoken : woken
    · simp only [hwoken, Bool.or_true, Bool.true_or, if_true] at hdue ⊢
      rw [← hdue, owed_of_chosen rfl]
      show 4 * (limit - now) + (3 + r.owedRing) < 4 * (limit - now) + (4 + r.owedRing)
      omega
    · simp only [hcancelled, hwoken, Bool.or_self, Bool.false_or, Bool.false_eq_true, if_false,
        decide_eq_true_eq] at hdue ⊢
      have htick : r.nextTick ≤ moment := hdue ▸ Nat.le_max_right ..
      rw [if_pos htick, owed_of_chosen rfl]
      show 4 * (limit - moment) + (3 + r.owedRing) < _
      split <;> omega

theorem owed_begin {cause : Cause} (h : r.phase = .chosen cause) :
    r.begin.owed now < r.owed now := by
  rw [owed_of_chosen h]
  simp only [begin, h]
  split
  next =>
    rw [owed_of_finished rfl]
    omega
  next =>
    rw [owed_of_running rfl]
    show 2 + r.owedRing < 3 + r.owedRing
    omega

/-- A step of the loop lowers what is owed.  The wait for a tick takes time, and so may be followed
by a cycle. -/
theorem owed_turn (hdue : r.due? now = some moment) (hlimit : moment ≤ limit) :
    4 * (limit - moment) + (r.step moment r.nextEvent).owed moment <
      4 * (limit - now) + r.owed now := by
  cases hp : r.phase with
  | arriving =>
      obtain rfl : now = moment := by simpa [due?, hp] using hdue
      simp only [nextEvent, hp, step]
      exact Nat.add_lt_add_left (owed_look_of_arriving hp) _
  | waiting woken =>
      simp only [nextEvent, hp, step]
      exact owed_look_of_waiting hp hdue hlimit
  | chosen cause =>
      obtain rfl : now = moment := by simpa [due?, hp] using hdue
      simp only [nextEvent, hp, step]
      exact Nat.add_lt_add_left (owed_begin hp) _
  | running cause => simp [due?, hp] at hdue
  | finished => simp [due?, hp] at hdue

theorem interval_step (now : Nat) (r : Refresh) (e : Event) :
    (r.step now e).interval = r.interval := by
  cases e with
  | force =>
      simp only [step, force, ring]
      repeat' split
      all_goals rfl
  | look =>
      simp only [step, look]
      repeat' split
      all_goals rfl
  | begin =>
      simp only [step, begin]
      repeat' split
      all_goals rfl
  | finish =>
      simp only [step, finish, rearm]
      repeat' split
      all_goals rfl
  | stop => rfl
  | cancel => rfl
  | abort => rfl

theorem le_of_due? (hdue : r.due? now = some moment) : now ≤ moment := by
  unfold due? at hdue
  split at hdue
  next => exact Nat.le_of_eq (Option.some.inj hdue)
  next => exact Nat.le_of_eq (Option.some.inj hdue)
  next =>
    obtain rfl := Option.some.inj hdue
    split
    next => exact Nat.le_refl now
    next => exact Nat.le_max_left ..
  next => cases hdue
  next => cases hdue

/-- A loop that is over stays so. -/
theorem finished_step (h : r.phase = .finished) (now : Nat) (e : Event) :
    (r.step now e).phase = .finished := by
  cases e with
  | force =>
      simp only [step, force, ring, h]
      split
      next => exact h
      next => rfl
  | look => simp only [step, look, h]
  | begin => simp only [step, begin, h]
  | finish => simp only [step, finish, h]
  | stop => exact h
  | cancel => exact h
  | abort => rfl

theorem Ticks.step (h : r.Ticks) (now : Nat) (e : Event) : (r.step now e).Ticks := by
  rcases h with hinterval | hfinished
  · left
    rwa [interval_step]
  · right
    exact finished_step hfinished now e

theorem ticks_spawn (now interval : Nat) : (spawn now interval).Ticks := by
  rcases spawn_cases now interval with ⟨hpos, -, h⟩ | ⟨-, h⟩
  · rw [h]
    exact Or.inl hpos
  · rw [h]
    exact Or.inr rfl

/-- The end of a cycle lowers what is owed, since the next tick is some time ahead. -/
theorem owed_finish {cause : Cause} (h : r.phase = .running cause) (hticks : r.Ticks)
    (start now : Nat) : (r.finish now).owed now < r.owed start := by
  have hinterval : 0 < r.interval := hticks.resolve_right (by rw [h]; exact Phase.noConfusion)
  rw [owed_of_running h]
  simp only [finish, h, rearm]
  split
  next nextTick hnext =>
    have htick : ¬ nextTick ≤ now := by
      have hafter := (Clock.after?_eq_some_iff.1 hnext).1
      omega
    rw [owed_of_arriving rfl]
    show (if r.kept then 5 else if nextTick ≤ now then 4 else 1) < 2 + r.owedRing
    rw [if_neg htick, owedRing]
    split <;> omega
  next =>
    rw [owed_of_finished rfl]
    omega

end Refresh

end Roster
