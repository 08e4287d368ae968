import Roster.Proofs.Inventory.View
import Roster.Proofs.Keeper.Outages

/-!
# What is published

A reader sees the view that was published last.  Each operation leaves one that is up to date, if it
found one: what changes the inventory publishes, and what does not publish changes nothing
(`shown_step`).  A keeper that has done nothing yet shows that it holds nothing, so that the view is
up to date at each point of a run (`shown_run`).

`view_of_run` puts together what is then seen: each record that is filed once, in an order that the
records determine, with the nodes, the incidents and the time of the inventory.
-/

namespace Roster

variable {σ : Type}

namespace Keeper

variable {g : Gateway σ} {k : Keeper σ}

/-- A step leaves a view that is up to date, also if it is refused or its save fails. -/
theorem shown_step (h : k.view = k.inventory.view) (s : Step) :
    (step g k s).2.view = (step g k s).2.inventory.view := by
  by_cases hload : s.op = .load
  · rw [step_of_load hload]
    exact load_view k
  · exact view_step hload fun _ => h

theorem shown_run (g : Gateway σ) (capacity : Nat) (state : σ) (steps : List Step) :
    (run g (fresh capacity state) steps).view =
      (run g (fresh capacity state) steps).inventory.view := by
  apply run_induction (P := fun k => k.view = k.inventory.view)
  · intro k s _ h
    exact shown_step h s
  · exact fresh_view capacity state

/-- At each point of a run, whatever has failed before, the view shows what is filed.

* A record is shown if and only if it is filed under its identity, and no identity is shown twice.
* The records are shown in order, and no other list of the same records is in order.
* The nodes, the incidents and the time of the last scan are those of the inventory.
* Under each identity the view finds the record that is filed, and nothing if there is none.
* Another merge and another load give back the view that is published after them. -/
theorem view_of_run (g : Gateway σ) (capacity : Nat) (state : σ) (steps : List Step) :
    let k := run g (fresh capacity state) steps
    (∀ r : Record, r ∈ k.view.records ↔ k.inventory.entries.get? r.identity = some r.toEntry)
    ∧ (k.view.records.Pairwise fun r s => r.identity ≠ s.identity)
    ∧ k.view.records.Pairwise Record.ShownBefore
    ∧ (∀ records : List Record, records.Pairwise Record.ShownBefore →
        (∀ r, r ∈ records ↔ r ∈ k.view.records) → records = k.view.records)
    ∧ k.view.nodes = k.inventory.nodes
    ∧ k.view.incidents = k.inventory.incidents
    ∧ k.view.scannedAt = k.inventory.scannedAt
    ∧ (∀ id : Identity, k.view.get? id =
        (k.inventory.entries.get? id).map fun e => { e with identity := id })
    ∧ (∀ (now : Instant) (fault : Option StateFault) (f : Findings),
        (step g k ⟨.merge f, now, fault⟩).2 = (k.mergeView (g.failing fault) now f).2
        ∧ (k.mergeView (g.failing fault) now f).1 = (step g k ⟨.merge f, now, fault⟩).2.view)
    ∧ ∀ (now : Instant) (fault : Option StateFault),
        (step g k ⟨.load, now, fault⟩).2 = (k.loadView (g.failing fault) now).2
        ∧ (k.loadView (g.failing fault) now).1 = (step g k ⟨.load, now, fault⟩).2.view := by
  intro k
  have hshown : k.view = k.inventory.view := shown_run g capacity state steps
  rw [hshown]
  refine ⟨fun r => Inventory.mem_view_iff, Inventory.pairwise_view_identity _,
    Inventory.pairwise_view _, ?_, rfl, rfl, rfl, Inventory.get?_view _, ?_, ?_⟩
  · intro records hsorted hmem
    exact Record.eq_of_pairwise_shownBefore hsorted (Inventory.pairwise_view _) hmem
  · intro now fault f
    exact ⟨rfl, rfl⟩
  · intro now fault
    refine ⟨rfl, ?_⟩
    show (k.loadView (g.failing fault) now).1 = (k.loadView (g.failing fault) now).2.view
    rw [loadView]
    split <;> rfl

end Keeper

end Roster
