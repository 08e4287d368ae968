import Roster.Proofs.Keeper.Operations

/-!
# Runs of a keeper

A run performs operations one after the other.  Its steps say which of the saves are made to fail,
so that a run stands for one pattern of failures, and each pattern has its run.

*Gateways.*  A gateway is *faithful* if it holds what was saved last: a save that goes well takes
the place of what was held, one that fails leaves it, and a load brings it back
(`Gateway.Faithful`).  It is *steady* if its saves go well by themselves, so that those fail that
the steps of a run make fail, and no others (`Gateway.Steady`).

*Steps.*  `get?_step`, `view_step`, `state_step` and `answer_step` say what a step does to the
entries, the view and the gateway, and what the user hears.  `held_step` is what it does to the
part that lasts, and `run_induction` carries what each step keeps over a whole run.
-/

namespace Roster

variable {σ : Type}

/-! ## Gateways -/

namespace Gateway

/-- The gateway while saves meet a fault, if there is one. -/
def failing (g : Gateway σ) : Option StateFault → Gateway σ
  | none => g
  | some fault => { g with save := fun _ state => (.error fault, state) }

/-- The gateway holds what was saved last. -/
structure Faithful (g : Gateway σ) (held : σ → Saved) : Prop where
  /-- A save that goes well takes the place of what was held. -/
  held_of_ok : ∀ {saved state}, (g.save saved state).1 = .ok () →
    held (g.save saved state).2 = saved
  /-- A save that fails leaves what was held. -/
  held_of_error : ∀ {saved state fault}, (g.save saved state).1 = .error fault →
    held (g.save saved state).2 = held state
  /-- A load leaves what is held. -/
  held_load : ∀ state, held (g.load state).2 = held state
  /-- A load that goes well brings back what is held. -/
  toSaved_of_load : ∀ {state loaded}, (g.load state).1 = .ok loaded →
    loaded.toSaved = held state

/-- The saves go well by themselves. -/
def Steady (g : Gateway σ) : Prop := ∀ saved state, (g.save saved state).1 = .ok ()

theorem Faithful.failing {g : Gateway σ} {held : σ → Saved} (hg : g.Faithful held)
    (fault : Option StateFault) : (g.failing fault).Faithful held := by
  cases fault with
  | none => exact hg
  | some fault =>
      constructor
      · intro saved state h
        cases h
      · intro saved state fault' h
        rfl
      · exact hg.held_load
      · exact hg.toSaved_of_load

theorem load_failing (g : Gateway σ) (fault : Option StateFault) :
    (g.failing fault).load = g.load := by
  cases fault <;> rfl

/-- Whether a save goes well under the fault of a step depends on that fault alone. -/
theorem Steady.save_failing {g : Gateway σ} (hg : g.Steady) (fault : Option StateFault)
    (saved : Saved) (state : σ) :
    ((g.failing fault).save saved state).1 = (fault.map Except.error).getD (.ok ()) := by
  cases fault with
  | none => exact hg saved state
  | some fault => rfl

end Gateway

/-- The gateway that has nothing to do but to hold what was saved last. -/
def Saved.gateway : Gateway Saved where
  load saved := (.ok { saved with }, saved)
  save saved _ := (.ok (), saved)

theorem Saved.gateway_faithful : Saved.gateway.Faithful id where
  held_of_ok _ := rfl
  held_of_error h := by cases h
  held_load _ := rfl
  toSaved_of_load h := by cases h; rfl

theorem Saved.gateway_steady : Saved.gateway.Steady := fun _ _ => rfl

namespace Keeper

/-! ## Runs -/

/-- A keeper that has done nothing yet. -/
def fresh (capacity : Nat) (state : σ) : Keeper σ := { inventory := { capacity }, state }

/-- A step of a run. -/
structure Step where
  /-- The operation. -/
  op : Operation
  /-- When it is performed. -/
  now : Instant
  /-- The fault that a save meets, if it meets one. -/
  fault : Option StateFault := none

/-- Performs a step. -/
def step (g : Gateway σ) (k : Keeper σ) (s : Step) : Except KeeperFault Unit × Keeper σ :=
  perform (g.failing s.fault) s.now k s.op

/-- The keeper after a run. -/
def run (g : Gateway σ) (k : Keeper σ) (steps : List Step) : Keeper σ :=
  steps.foldl (fun k s => (step g k s).2) k

/-- What the user hears in a run, step by step. -/
def answers (g : Gateway σ) : Keeper σ → List Step → List (Except KeeperFault Unit)
  | _, [] => []
  | k, s :: rest => (step g k s).1 :: answers g (step g k s).2 rest

variable {g : Gateway σ} {held : σ → Saved}

theorem run_nil (k : Keeper σ) : run g k [] = k := rfl

theorem run_cons (k : Keeper σ) (s : Step) (rest : List Step) :
    run g k (s :: rest) = run g (step g k s).2 rest := rfl

theorem run_append (k : Keeper σ) (steps rest : List Step) :
    run g k (steps ++ rest) = run g (run g k steps) rest := List.foldl_append

/-- What each step of a run keeps, the run keeps. -/
theorem run_induction {P : Keeper σ → Prop} {steps : List Step}
    (hstep : ∀ k, ∀ s ∈ steps, P k → P (step g k s).2) {k : Keeper σ} (hk : P k) :
    P (run g k steps) := by
  induction steps generalizing k with
  | nil => exact hk
  | cons s rest ih =>
      have hs : P (step g k s).2 := hstep k s List.mem_cons_self hk
      exact ih (fun k' s' hs' => hstep k' s' (List.mem_cons_of_mem _ hs')) hs

/-! ## Steps -/

/-- A step files under each identity what its operation makes of the entry of before. -/
theorem get?_step {k : Keeper σ} {s : Step} (hload : s.op ≠ .load) (id : Identity) :
    (step g k s).2.inventory.entries.get? id = s.op.entryAt id (k.inventory.entries.get? id) :=
  get?_perform hload id

/-- After a step the view is up to date, if it was so before one that is refused and before a
flush. -/
theorem view_step {k : Keeper σ} {s : Step} (hload : s.op ≠ .load)
    (hv : s.op.refusal? k.inventory.entries ≠ none ∨ s.op = .flush →
      k.view = k.inventory.view) :
    (step g k s).2.view = (step g k s).2.inventory.view :=
  view_perform hload hv

/-- What the gateway answers to the save of a step. -/
def saveOutcome (g : Gateway σ) (k : Keeper σ) (s : Step) : Except StateFault Unit :=
  ((g.failing s.fault).save (step g k s).2.inventory.saved k.state).1

/-- What the user hears of a step. -/
theorem answer_step {k : Keeper σ} {s : Step} (hload : s.op ≠ .load) :
    (step g k s).1 =
      match s.op.refusal? k.inventory.entries with
      | some fault => .error fault
      | none =>
          if s.op.saves k.inventory.entries then
            s.op.reply ((saveOutcome g k s).mapError .unsaved)
          else .ok () :=
  answer_perform hload

/-- The state of the gateway after a step that comes to save is the one that its save leaves. -/
theorem state_step {k : Keeper σ} {s : Step} (hload : s.op ≠ .load) :
    (step g k s).2.state =
      if k.reachesSave s.op then
        ((g.failing s.fault).save (step g k s).2.inventory.saved k.state).2
      else k.state :=
  state_perform hload

/-- A step leaves what is held, or what is held is what lasts after it. -/
theorem held_step (hg : g.Faithful held) {k : Keeper σ} {s : Step} (hload : s.op ≠ .load) :
    held (step g k s).2.state = held k.state ∨
      held (step g k s).2.state = (step g k s).2.inventory.saved := by
  rw [state_step hload]
  split
  next =>
    cases h : saveOutcome g k s with
    | ok _ => exact Or.inr ((hg.failing s.fault).held_of_ok h)
    | error fault => exact Or.inl ((hg.failing s.fault).held_of_error h)
  next => exact Or.inl rfl

/-- After a command that the user hears to have gone well, the gateway holds what lasts. -/
theorem held_of_answer (hg : g.Faithful held) {k : Keeper σ} {s : Step} (hload : s.op ≠ .load)
    (hsave : s.op.saves k.inventory.entries = true) (hreply : ∀ r, s.op.reply r = r)
    (hok : (step g k s).1 = .ok ()) :
    held (step g k s).2.state = (step g k s).2.inventory.saved := by
  rw [answer_step hload] at hok
  cases hr : s.op.refusal? k.inventory.entries with
  | some fault =>
      rw [hr] at hok
      cases hok
  | none =>
      rw [hr] at hok
      simp only [hsave, if_true, hreply] at hok
      have hs : k.reachesSave s.op = true := by simp [reachesSave, hr, hsave]
      rw [state_step hload, if_pos hs]
      apply (hg.failing s.fault).held_of_ok
      cases h : saveOutcome g k s with
      | ok _ => exact h
      | error fault =>
          rw [h] at hok
          cases hok

end Keeper

end Roster
