import Mathlib.Data.List.Forall2
import Roster.Proofs.Keeper.Incidents

/-!
# Saves that fail

What a keeper holds in memory does not depend on which of its saves go well.  Two runs with the
same operations at the same times, but with faults of their own, are *alike* (`Step.Alike`), and
after each of their operations both keepers hold and show the same (`SameMemory`), and tried to
save as often.

A command is refused in both runs or in none, for the same reason, and one that is not refused
saves and answers as its save went (`answer_of_command`).  Apart from the notices of saves that
failed, both runs have the same history (`reported_congr`).

`same_memory_of_alike` gathers this for whole runs.  It also says that one flush that goes well
makes up for all saves that failed before.
-/

namespace Roster

variable {σ : Type}

/-- The user is told that a command came to nothing. -/
def KeeperFault.isRefusal : KeeperFault → Bool
  | .notFound _ | .active _ => true
  | .unsaved _ => false

/-- Nothing but a refusal is given as the reason of one. -/
theorem Operation.isRefusal_of_refusal {op : Operation} {entries : Table Identity Entry}
    {fault : KeeperFault} (h : op.refusal? entries = some fault) : fault.isRefusal = true := by
  have hknown : ∀ id, (if entries.contains id then none else some (KeeperFault.notFound id)) =
      some fault → fault.isRefusal = true := by
    intro id hid
    split at hid
    · cases hid
    · cases hid
      rfl
  cases op with
  | setNote id _ => exact hknown id h
  | deleteNote id => exact hknown id h
  | setCapture id _ => exact hknown id h
  | forget id =>
      simp only [refusal?] at h
      split at h
      next =>
        cases h
        rfl
      next =>
        split at h
        next =>
          cases h
          rfl
        next => cases h
  | load => cases h
  | merge _ => cases h
  | addIncident _ => cases h
  | flush => cases h

namespace Inventory

/-- The inventories hold the same but for the incidents. -/
structure Same (inv inv' : Inventory) : Prop where
  /-- The entries are the same. -/
  entries : inv.entries = inv'.entries
  /-- The nodes are the same. -/
  nodes : inv.nodes = inv'.nodes
  /-- The last scan ended at the same time. -/
  scannedAt : inv.scannedAt = inv'.scannedAt

variable {inv inv' : Inventory}

theorem Same.addIncidents (h : Same inv inv') (es es' : List Incident) :
    Same (inv.addIncidents es) (inv'.addIncidents es') := by
  constructor
  · simpa using h.entries
  · simpa using h.nodes
  · simpa using h.scannedAt

/-- What an operation makes of inventories that hold the same holds the same. -/
theorem Same.applied (h : Same inv inv') (op : Operation) :
    Same (op.applied inv) (op.applied inv') := by
  unfold Operation.applied
  rw [← h.entries]
  split
  next => exact h
  next hr =>
    have hr' : op.refusal? inv'.entries = none := by rw [← h.entries, hr]
    have hentries : (op.change inv).entries = (op.change inv').entries := by
      apply Table.ext_get?
      intro id
      rw [Operation.get?_change hr, Operation.get?_change hr', h.entries]
    cases hc : op.isCommand with
    | true =>
        rw [Operation.change_of_command hc inv, Operation.change_of_command hc inv']
        exact ⟨hentries, h.nodes, h.scannedAt⟩
    | false =>
        cases op with
        | merge f =>
            constructor
            · exact hentries
            · exact (merge_nodes inv f).trans (merge_nodes inv' f).symm
            · exact (merge_scannedAt inv f).trans (merge_scannedAt inv' f).symm
        | load => exact ⟨hentries, h.nodes, h.scannedAt⟩
        | addIncident e => exact ⟨hentries, h.nodes, h.scannedAt⟩
        | setNote _ _ => cases hc
        | deleteNote _ => cases hc
        | setCapture _ _ => cases hc
        | forget _ => cases hc
        | flush => cases hc

/-- Inventories that hold the same show the same, but for the incidents. -/
theorem Same.view (h : Same inv inv') :
    inv.view = { inv'.view with incidents := inv.incidents } := by
  unfold Inventory.view records
  rw [h.entries, h.nodes, h.scannedAt]

end Inventory

namespace Keeper

variable {g : Gateway σ} {held : σ → Saved} {k l : Keeper σ} {s t : Step}

/-! ## Alike runs -/

/-- The steps perform the same operation at the same time.  Their saves may meet faults of their
own. -/
structure Step.Alike (s t : Step) : Prop where
  /-- The operations are the same. -/
  op : s.op = t.op
  /-- The times are the same. -/
  now : s.now = t.now

/-- The keepers hold the same but for the incidents, show what they hold, and tried to save as
often. -/
structure SameMemory (k l : Keeper σ) : Prop where
  /-- The inventories hold the same. -/
  holds : k.inventory.Same l.inventory
  /-- The view of the one is up to date. -/
  shown : k.view = k.inventory.view
  /-- The view of the other is up to date. -/
  shown' : l.view = l.inventory.view
  /-- As many saves were tried. -/
  saves : k.saves = l.saves

theorem SameMemory.refl (h : k.view = k.inventory.view) : SameMemory k k :=
  ⟨⟨rfl, rfl, rfl⟩, h, h, rfl⟩

/-- The views show the same, but for the incidents. -/
theorem SameMemory.view (h : SameMemory k l) :
    k.view = { l.view with incidents := k.inventory.incidents } := by
  rw [h.shown, h.shown']
  exact h.holds.view

theorem reachesSave_congr (h : k.inventory.entries = l.inventory.entries) (op : Operation) :
    k.reachesSave op = l.reachesSave op := by
  unfold reachesSave
  rw [h]

/-- Alike steps that do not load leave the same in memory. -/
theorem SameMemory.step (h : SameMemory k l) (hst : s.Alike t) (hload : s.op ≠ .load) :
    SameMemory (Keeper.step g k s).2 (Keeper.step g l t).2 := by
  have hload' : t.op ≠ .load := hst.op ▸ hload
  constructor
  · rw [inventory_step hload, inventory_step hload', ← hst.op]
    exact (h.holds.applied s.op).addIncidents _ _
  · exact view_step hload fun _ => h.shown
  · exact view_step hload' fun _ => h.shown'
  · rw [saves_step hload, saves_step hload', h.saves, ← hst.op,
      reachesSave_congr h.holds.entries]

/-- Alike loads make the same of the same keeper. -/
theorem step_congr_of_load (hst : s.Alike t) (hload : s.op = .load) :
    (Keeper.step g k s).2 = (Keeper.step g k t).2 := by
  have hload' : t.op = .load := hst.op ▸ hload
  rw [step_of_load hload, step_of_load hload', hst.now]
  unfold load loadView
  cases s.fault <;> cases t.fault <;> rfl

/-- Alike steps of the same keeper, loads among them, leave the same in memory. -/
theorem sameMemory_of_first (h : k.view = k.inventory.view) (hst : s.Alike t) :
    SameMemory (Keeper.step g k s).2 (Keeper.step g k t).2 := by
  by_cases hload : s.op = .load
  · rw [← step_congr_of_load hst hload]
    apply SameMemory.refl
    rw [step_of_load hload]
    exact load_view k
  · exact (SameMemory.refl h).step hst hload

theorem SameMemory.run {steps steps' : List Step} (h : SameMemory k l)
    (halike : List.Forall₂ Step.Alike steps steps') (hload : ∀ s ∈ steps, s.op ≠ .load) :
    SameMemory (Keeper.run g k steps) (Keeper.run g l steps') := by
  induction halike generalizing k l with
  | nil => exact h
  | cons hst hrest ih =>
      rw [run_cons, run_cons]
      have hs := h.step (g := g) hst (hload _ List.mem_cons_self)
      exact ih hs fun s hs => hload s (List.mem_cons_of_mem _ hs)

/-! ## Answers -/

/-- A step is refused exactly if its operation is. -/
theorem refused_iff (g : Gateway σ) (k : Keeper σ) (s : Step) {fault : KeeperFault}
    (hfault : fault.isRefusal = true) :
    (Keeper.step g k s).1 = .error fault ↔
      s.op.refusal? k.inventory.entries = some fault := by
  by_cases hload : s.op = .load
  · have hok : (Keeper.step g k s).1 = .ok () := by
      unfold Keeper.step
      rw [hload]
      rfl
    rw [hok, hload]
    exact ⟨nofun, nofun⟩
  · have hkept : ∀ r : Except StateFault Unit, s.op.reply (r.mapError .unsaved) ≠ .error fault := by
      intro r hr
      unfold Operation.reply at hr
      split at hr
      next => cases hr
      next =>
        cases r with
        | ok _ => cases hr
        | error _ =>
            cases hr
            cases hfault
    rw [answer_step hload]
    split
    next fault' hr => simp [hr]
    next hr =>
      rw [hr]
      split
      next => exact ⟨fun h => absurd h (hkept _), nofun⟩
      next => exact ⟨nofun, nofun⟩

/-- A command that is not refused saves, and answers as its save went. -/
theorem answer_of_command (hcommand : s.op.isCommand = true)
    (hr : s.op.refusal? k.inventory.entries = none) :
    k.reachesSave s.op = true
      ∧ (Keeper.step g k s).1 = (saveOutcome g k s).mapError .unsaved := by
  have hload : s.op ≠ .load := Operation.ne_load_of_isCommand hcommand
  have hsaves : s.op.saves k.inventory.entries = true ∧ ∀ r, s.op.reply r = r := by
    cases hop : s.op with
    | setNote _ _ => exact ⟨rfl, fun _ => rfl⟩
    | deleteNote _ => exact ⟨rfl, fun _ => rfl⟩
    | setCapture _ _ => exact ⟨rfl, fun _ => rfl⟩
    | forget _ => exact ⟨rfl, fun _ => rfl⟩
    | flush => exact ⟨rfl, fun _ => rfl⟩
    | load => exact absurd hop hload
    | merge _ =>
        rw [hop] at hcommand
        cases hcommand
    | addIncident _ =>
        rw [hop] at hcommand
        cases hcommand
  constructor
  · simp [reachesSave, hr, hsaves.1]
  · rw [answer_step hload, hr]
    simp only [hsaves.1, hsaves.2, if_true]

/-- What the user hears of alike steps of two keepers. -/
structure SameAnswers (g : Gateway σ) (k l : Keeper σ) (s t : Step) : Prop where
  /-- Both are refused for the same reason, or none is. -/
  refused : ∀ fault : KeeperFault, fault.isRefusal = true →
    ((Keeper.step g k s).1 = .error fault ↔ (Keeper.step g l t).1 = .error fault)
  /-- A command that is not refused saves in both, and answers as its own save went. -/
  answered : s.op.isCommand = true →
    (∀ fault : KeeperFault, fault.isRefusal = true → (Keeper.step g k s).1 ≠ .error fault) →
    (k.reachesSave s.op = true
      ∧ (Keeper.step g k s).1 = (saveOutcome g k s).mapError .unsaved)
    ∧ (l.reachesSave t.op = true
      ∧ (Keeper.step g l t).1 = (saveOutcome g l t).mapError .unsaved)

theorem SameMemory.answers (h : SameMemory k l) (hst : s.Alike t) : SameAnswers g k l s t := by
  have hr : s.op.refusal? k.inventory.entries = t.op.refusal? l.inventory.entries := by
    rw [h.holds.entries, hst.op]
  constructor
  · intro fault hfault
    rw [refused_iff g k s hfault, refused_iff g l t hfault, hr]
  · intro hcommand hnone
    have hk : s.op.refusal? k.inventory.entries = none := by
      cases hs : s.op.refusal? k.inventory.entries with
      | none => rfl
      | some fault =>
          have hfault := Operation.isRefusal_of_refusal hs
          exact absurd ((refused_iff g k s hfault).2 hs) (hnone fault hfault)
    exact ⟨answer_of_command hcommand hk,
      answer_of_command (hst.op ▸ hcommand) (hr ▸ hk)⟩

/-! ## Histories -/

theorem reported_notices (g : Gateway σ) (k : Keeper σ) (s : Step) :
    (notices g k s).filter Notice.isReport = (reports g k s).map .reported :=
  Notice.filter_isReport ..

theorem reports_congr (hst : s.Alike t) (hload : s.op ≠ .load) :
    reports g k s = reports g l t := by
  have hload' : t.op ≠ .load := hst.op ▸ hload
  unfold reports
  rw [if_neg hload, if_neg hload', hst.op]

/-- Alike runs without loads report the same. -/
theorem reported_congr {steps steps' : List Step}
    (halike : List.Forall₂ Step.Alike steps steps') (hload : ∀ s ∈ steps, s.op ≠ .load) :
    (history g k steps).filter Notice.isReport = (history g l steps').filter Notice.isReport := by
  induction halike generalizing k l with
  | nil => rfl
  | cons hst hrest ih =>
      have hs := hload _ List.mem_cons_self
      rw [history, history, List.filter_append, List.filter_append, reported_notices,
        reported_notices, reports_congr hst hs,
        ih fun s hs => hload s (List.mem_cons_of_mem _ hs)]

/-! ## Whole runs -/

theorem fresh_view (capacity : Nat) (state : σ) :
    (fresh capacity state).view = (fresh capacity state).inventory.view := by
  have hrecords : (fresh capacity state).inventory.records = [] := rfl
  unfold Inventory.view
  rw [hrecords, List.filter_nil, List.filter_nil, List.mergeSort_nil]
  rfl

/-- After a flush that goes well the gateway holds what lasts of the entries before it. -/
theorem held_of_flush (hg : g.Faithful held) (hflush : s.op = .flush)
    (hok : (Keeper.step g k s).1 = .ok ()) :
    held (Keeper.step g k s).2.state = k.inventory.saved := by
  have hload : s.op ≠ .load := by
    rw [hflush]
    exact Operation.noConfusion
  have hentries : (Keeper.step g k s).2.inventory.entries = k.inventory.entries := by
    apply Table.ext_get?
    intro id
    rw [get?_step hload, hflush]
    rfl
  rw [held_of_answer hg hload (by rw [hflush]; rfl) (by rw [hflush]; exact fun _ => rfl) hok,
    Inventory.saved_congr hentries]

/-- Two runs of a new keeper that differ only in which saves fail hold and show the same after
each operation and try to save as often.  The user hears the same of an operation, but for how its
own save went.  Both runs have the same history, but for the notices of failed saves.  And a flush
that goes well then makes the gateway hold all that lasts, whichever saves failed before. -/
theorem same_memory_of_alike (hg : g.Faithful held) (capacity : Nat) (state : σ)
    (steps steps' : List Step) (halike : List.Forall₂ Step.Alike steps steps')
    (hload : ∀ s ∈ steps.tail, s.op ≠ .load) :
    let start := fresh capacity state
    let k := run g start steps
    let l := run g start steps'
    (SameMemory k l ∧ k.view = { l.view with incidents := k.inventory.incidents })
    ∧ (∀ s t : Step, s.Alike t → SameAnswers g k l s t)
    ∧ ((history g start steps).filter Notice.isReport =
        (history g start steps').filter Notice.isReport
      ∧ k.inventory.incidents =
        Inventory.lastItems capacity ((history g start steps).map Notice.incident)
      ∧ l.inventory.incidents =
        Inventory.lastItems capacity ((history g start steps').map Notice.incident))
    ∧ (∀ s : Step, s.op = .flush → (step g k s).1 = .ok () →
        held (step g k s).2.state = k.inventory.saved) := by
  intro start k l
  have hkept : ∀ steps : List Step, (run g start steps).inventory.incidents =
      Inventory.lastItems capacity ((history g start steps).map Notice.incident) :=
    fun steps => incidents_run g start steps (Nat.zero_le _)
  have hmemory : SameMemory k l := by
    cases halike with
    | nil => exact SameMemory.refl (fresh_view capacity state)
    | cons hst hrest => exact (sameMemory_of_first (fresh_view ..) hst).run hrest hload
  have hreported : (history g start steps).filter Notice.isReport =
      (history g start steps').filter Notice.isReport := by
    cases halike with
    | nil => rfl
    | @cons s t rest rest' hst hrest =>
        have hfirst : reports g start s = reports g start t := by
          by_cases hs : s.op = .load
          · unfold reports
            rw [if_pos hs, if_pos (hst.op ▸ hs), hst.now]
          · exact reports_congr hst hs
        rw [history, history, List.filter_append, List.filter_append, reported_notices,
          reported_notices, hfirst, reported_congr hrest hload]
  exact ⟨⟨hmemory, hmemory.view⟩, fun s t hst => hmemory.answers hst,
    ⟨hreported, hkept steps, hkept steps'⟩, fun s hs hok => held_of_flush hg hs hok⟩

/-- A session is listed with its output, annotated, and refused to be forgotten, once with a
gateway that works and once with one that fails at first.  The flush makes up for it. -/
theorem same_memory_of_alike_outage :
    let id : Identity := ⟨"n1", "train"⟩
    let fault : StateFault := .unreadable "notes.json"
    let listing : Findings :=
      ⟨[⟨"n1", none⟩], .ofList [("n1", ⟨[⟨"train", none, true⟩], .ofList [("train", "epoch 1")]⟩)],
        [⟨.probe, some "n2", ⟨0, 0⟩, "gone"⟩], ⟨0, 0⟩⟩
    let run' (first second : Option StateFault) : List Step :=
      [⟨.load, ⟨0, 0⟩, none⟩, ⟨.merge listing, ⟨1, 0⟩, first⟩,
        ⟨.setNote id " run A ", ⟨2, 0⟩, second⟩, ⟨.forget id, ⟨3, 0⟩, none⟩]
    let k := run Saved.gateway (fresh 5 {}) (run' none none)
    let l := run Saved.gateway (fresh 5 {}) (run' (some fault) (some fault))
    List.Forall₂ Step.Alike (run' none none) (run' (some fault) (some fault))
    ∧ (∀ s ∈ (run' none none).tail, s.op ≠ .load)
    ∧ SameMemory k l
    ∧ l.state = {} ∧ l.inventory.saved ≠ {}
    ∧ (step Saved.gateway l ⟨.flush, ⟨4, 0⟩, none⟩).2.state = l.inventory.saved := by
  intro id fault listing run' k l
  have halike : List.Forall₂ Step.Alike (run' none none) (run' (some fault) (some fault)) :=
    .cons ⟨rfl, rfl⟩ (.cons ⟨rfl, rfl⟩ (.cons ⟨rfl, rfl⟩ (.cons ⟨rfl, rfl⟩ .nil)))
  have halike' : List.Forall₂ Step.Alike (run' (some fault) (some fault)) (run' none none) :=
    .cons ⟨rfl, rfl⟩ (.cons ⟨rfl, rfl⟩ (.cons ⟨rfl, rfl⟩ (.cons ⟨rfl, rfl⟩ .nil)))
  have hload : ∀ s ∈ (run' none none).tail, s.op ≠ .load := by decide
  have hload' : ∀ s ∈ (run' (some fault) (some fault)).tail, s.op ≠ .load := by decide
  obtain ⟨⟨hmemory, -⟩, -⟩ :=
    same_memory_of_alike Saved.gateway_faithful 5 {} _ _ halike hload
  obtain ⟨-, -, -, hflush⟩ :=
    same_memory_of_alike Saved.gateway_faithful 5 {} _ _ halike' hload'
  have hstate : l.state = {} := by decide +kernel
  have hsaved : l.inventory.saved ≠ {} := by decide +kernel
  exact ⟨halike, hload, hmemory, hstate, hsaved, hflush ⟨.flush, ⟨4, 0⟩, none⟩ rfl rfl⟩

end Keeper

end Roster
