import Roster.Proofs.Keeper.Run

/-!
# What is noticed in a run

The inventory keeps the latest incidents only.  All that a run ever brought up is its *history*, a
list of *notices*, and each notice has one of two origins.

* *Reports.*  A load reports what was amiss, a merge the incidents of its scan, and `addIncident`
  the incident that it is given.
* *Failed saves.*  A save that fails is noticed once, behind what its operation reports.

`inventory_step` splits the course of a step accordingly: the inventory after it is the one that
the operation makes, with one more incident if the save failed.  `incidents_run` ties the history
to the inventory, which holds as many of the last notices as its capacity says.
-/

namespace Roster

namespace Inventory

/-! ## The latest incidents -/

theorem lastItems_of_le {α : Type} {n : Nat} {items : List α} (h : items.length ≤ n) :
    lastItems n items = items := by
  unfold lastItems
  rw [Nat.sub_eq_zero_of_le h, List.drop_zero]

/-- What was dropped before would be dropped anyway. -/
theorem lastItems_append {α : Type} (n : Nat) (older newer : List α) :
    lastItems n (lastItems n older ++ newer) = lastItems n (older ++ newer) := by
  unfold lastItems
  rcases Nat.le_total older.length n with h | h
  · rw [Nat.sub_eq_zero_of_le h, List.drop_zero]
  · have hkept : (older.drop (older.length - n)).length = n := by
      rw [List.length_drop]
      omega
    have htaken : (older.take (older.length - n)).length = older.length - n := by
      rw [List.length_take]
      omega
    have hcount : (older ++ newer).length - n = (older.take (older.length - n)).length +
        ((older.drop (older.length - n) ++ newer).length - n) := by
      rw [List.length_append, List.length_append, hkept, htaken]
      omega
    calc (older.drop (older.length - n) ++ newer).drop
          ((older.drop (older.length - n) ++ newer).length - n)
        = (older.take (older.length - n) ++ (older.drop (older.length - n) ++ newer)).drop
          ((older ++ newer).length - n) := by rw [hcount, List.drop_length_add_append]
      _ = (older ++ newer).drop ((older ++ newer).length - n) := by
          rw [← List.append_assoc, List.take_append_drop]

theorem addIncidents_append (inv : Inventory) (es es' : List Incident) :
    inv.addIncidents (es ++ es') = (inv.addIncidents es).addIncidents es' := List.foldl_append

@[simp] theorem addIncidents_capacity (inv : Inventory) (es : List Incident) :
    (inv.addIncidents es).capacity = inv.capacity := by
  induction es generalizing inv with
  | nil => rfl
  | cons e rest ih => exact ih (inv.addIncident e)

@[simp] theorem addIncidents_nodes (inv : Inventory) (es : List Incident) :
    (inv.addIncidents es).nodes = inv.nodes := by
  induction es generalizing inv with
  | nil => rfl
  | cons e rest ih => exact ih (inv.addIncident e)

@[simp] theorem addIncidents_scannedAt (inv : Inventory) (es : List Incident) :
    (inv.addIncidents es).scannedAt = inv.scannedAt := by
  induction es generalizing inv with
  | nil => rfl
  | cons e rest ih => exact ih (inv.addIncident e)

theorem merge_nodes (inv : Inventory) (f : Findings) : (inv.merge f).nodes = summaries f :=
  addIncidents_nodes ..

theorem merge_scannedAt (inv : Inventory) (f : Findings) :
    (inv.merge f).scannedAt = some f.completedAt := addIncidents_scannedAt ..

/-- An inventory that does not hold too many incidents goes on to hold the latest. -/
theorem addIncidents_incidents {inv : Inventory} (h : inv.incidents.length ≤ inv.capacity)
    (es : List Incident) :
    (inv.addIncidents es).incidents = lastItems inv.capacity (inv.incidents ++ es) := by
  induction es generalizing inv with
  | nil =>
      rw [List.append_nil, lastItems_of_le h]
      rfl
  | cons e rest ih =>
      have hone : (inv.addIncident e).incidents.length ≤ (inv.addIncident e).capacity := by
        show (lastItems inv.capacity (inv.incidents ++ [e])).length ≤ inv.capacity
        unfold lastItems
        rw [List.length_drop]
        omega
      have hrest := ih hone
      have happend := lastItems_append inv.capacity (inv.incidents ++ [e]) rest
      rw [List.append_assoc] at happend
      exact hrest.trans happend

/-- What is kept of more incidents depends on those kept before. -/
theorem addIncidents_congr {inv inv' : Inventory} (hcapacity : inv.capacity = inv'.capacity)
    (hincidents : inv.incidents = inv'.incidents) (es : List Incident) :
    (inv.addIncidents es).incidents = (inv'.addIncidents es).incidents := by
  induction es generalizing inv inv' with
  | nil => exact hincidents
  | cons e rest ih =>
      have hcapacity' : (inv.addIncident e).capacity = (inv'.addIncident e).capacity := hcapacity
      have hincidents' : (inv.addIncident e).incidents = (inv'.addIncident e).incidents := by
        show lastItems _ _ = lastItems _ _
        rw [hcapacity, hincidents]
      exact ih hcapacity' hincidents'

end Inventory

namespace Operation

/-- The incidents that an operation other than a load takes in. -/
def reports : Operation → List Incident
  | .merge f => f.incidents
  | .addIncident e => [e]
  | .load | .setNote .. | .deleteNote _ | .setCapture .. | .forget _ | .flush => []

/-- The inventory that an operation other than a load makes, before it saves. -/
def applied (op : Operation) (inv : Inventory) : Inventory :=
  match op.refusal? inv.entries with
  | some _ => inv
  | none => op.change inv

/-- Whether an operation is a command, whose answer tells how its save went. -/
def isCommand : Operation → Bool
  | .setNote .. | .deleteNote _ | .setCapture .. | .forget _ | .flush => true
  | .load | .merge _ | .addIncident _ => false

theorem ne_load_of_isCommand {op : Operation} (h : op.isCommand = true) : op ≠ .load := by
  rintro rfl
  cases h

/-- A command changes the entries and nothing else. -/
theorem change_of_command {op : Operation} (h : op.isCommand = true) (inv : Inventory) :
    op.change inv = { inv with entries := (op.change inv).entries } := by
  have hdelete : ∀ id, (inv.deleteNote id).getD inv =
      { inv with entries := ((inv.deleteNote id).getD inv).entries } := by
    intro id
    unfold Inventory.deleteNote
    cases inv.entries.get? id with
    | none => rfl
    | some e =>
        simp only [Option.map_some, Option.getD_some]
        split <;> rfl
  have hset : ∀ id note, (inv.setNote id note).getD inv =
      { inv with entries := ((inv.setNote id note).getD inv).entries } := by
    intro id note
    unfold Inventory.setNote
    cases inv.entries.get? id <;> rfl
  cases op with
  | setNote id text =>
      simp only [change]
      split
      next => exact hdelete id
      next => exact hset id _
  | deleteNote id => exact hdelete id
  | setCapture id c =>
      simp only [change, Inventory.setCapture]
      cases inv.entries.get? id <;> rfl
  | forget id => rfl
  | flush => rfl
  | load => cases h
  | merge f => cases h
  | addIncident e => cases h

theorem reports_of_command {op : Operation} (h : op.isCommand = true) : op.reports = [] := by
  cases op with
  | merge f => cases h
  | addIncident e => cases h
  | load => rfl
  | setNote _ _ => rfl
  | deleteNote _ => rfl
  | setCapture _ _ => rfl
  | forget _ => rfl
  | flush => rfl

/-- Of the incidents, an operation adds those that it reports. -/
theorem change_incidents (op : Operation) (inv : Inventory) :
    (op.change inv).incidents = (inv.addIncidents op.reports).incidents
      ∧ (op.change inv).capacity = inv.capacity := by
  cases hc : op.isCommand with
  | true =>
      rw [change_of_command hc, reports_of_command hc]
      exact ⟨rfl, rfl⟩
  | false =>
      cases op with
      | merge f =>
          constructor
          · apply Inventory.addIncidents_congr
            · rfl
            · rfl
          · exact Inventory.addIncidents_capacity _ f.incidents
      | load => exact ⟨rfl, rfl⟩
      | addIncident e => exact ⟨rfl, rfl⟩
      | setNote _ _ => cases hc
      | deleteNote _ => cases hc
      | setCapture _ _ => cases hc
      | forget _ => cases hc
      | flush => cases hc

/-- An operation that is refused is a command. -/
theorem isCommand_of_refusal {op : Operation} {entries : Table Identity Entry}
    {fault : KeeperFault} (h : op.refusal? entries = some fault) : op.isCommand = true := by
  cases op with
  | load => cases h
  | merge f => cases h
  | addIncident e => cases h
  | setNote _ _ => rfl
  | deleteNote _ => rfl
  | setCapture _ _ => rfl
  | forget _ => rfl
  | flush => rfl

theorem applied_incidents (op : Operation) (inv : Inventory) :
    (op.applied inv).incidents = (inv.addIncidents op.reports).incidents
      ∧ (op.applied inv).capacity = inv.capacity := by
  unfold applied
  split
  next fault hr =>
    rw [reports_of_command (isCommand_of_refusal hr)]
    exact ⟨rfl, rfl⟩
  next => exact op.change_incidents inv

end Operation

/-! ## Notices -/

/-- An incident of a run, by its origin. -/
inductive Notice where
  /-- One that an operation reports. -/
  | reported (e : Incident)
  /-- That of a save that failed. -/
  | unsaved (e : Incident)
deriving DecidableEq

namespace Notice

/-- The incident. -/
def incident : Notice → Incident
  | reported e | unsaved e => e

/-- Whether an operation reported it. -/
def isReport : Notice → Bool
  | reported _ => true
  | unsaved _ => false

theorem map_incident_reported (es : List Incident) : (es.map reported).map incident = es := by
  rw [List.map_map]
  exact List.map_id es

theorem map_incident_unsaved (es : List Incident) : (es.map unsaved).map incident = es := by
  rw [List.map_map]
  exact List.map_id es

/-- The notices that were reported are what is left without those of failed saves. -/
theorem filter_isReport (reports faults : List Incident) :
    (reports.map reported ++ faults.map unsaved).filter isReport = reports.map reported := by
  rw [List.filter_append, List.filter_eq_self.2, List.filter_eq_nil_iff.2, List.append_nil]
  · intro n hn
    obtain ⟨e, -, rfl⟩ := List.mem_map.1 hn
    exact Bool.false_ne_true
  · intro n hn
    obtain ⟨e, -, rfl⟩ := List.mem_map.1 hn
    rfl

end Notice

namespace Keeper

variable {σ : Type} {g : Gateway σ} {k : Keeper σ} {s : Step}

/-- The incidents that a load takes in. -/
def loadReports (g : Gateway σ) (now : Instant) (k : Keeper σ) : List Incident :=
  match (g.load k.state).1 with
  | .ok loaded => loaded.warnings.map (persistenceIncident now)
  | .error fault => [persistenceIncident now fault.message]

/-- The incidents that a step takes in. -/
def reports (g : Gateway σ) (k : Keeper σ) (s : Step) : List Incident :=
  if s.op = .load then loadReports g s.now k else s.op.reports

/-- The incident of a save, if it failed. -/
def faultIncidents (now : Instant) : Except StateFault Unit → List Incident
  | .ok _ => []
  | .error fault => [persistenceIncident now fault.message]

/-- The incident of the save of a step, if it saves and the save fails. -/
def saveFaults (g : Gateway σ) (k : Keeper σ) (s : Step) : List Incident :=
  if k.reachesSave s.op then faultIncidents s.now (saveOutcome g k s) else []

/-- What a step brings up. -/
def notices (g : Gateway σ) (k : Keeper σ) (s : Step) : List Notice :=
  (reports g k s).map .reported ++ (saveFaults g k s).map .unsaved

/-- All that a run brings up, the oldest first. -/
def history (g : Gateway σ) : Keeper σ → List Step → List Notice
  | _, [] => []
  | k, s :: rest => notices g k s ++ history g (step g k s).2 rest

/-! ## Steps -/

theorem save_inventory (g : Gateway σ) (now : Instant) (k : Keeper σ) :
    (save g now k).2.inventory =
      k.inventory.addIncidents (faultIncidents now (g.save k.inventory.saved k.state).1) := by
  unfold save
  split
  next state hs =>
    rw [hs]
    rfl
  next fault state hs =>
    rw [hs]
    rfl

/-- After a step the inventory is the one that its operation makes, with the incident of its save
if that failed. -/
theorem inventory_step (hload : s.op ≠ .load) :
    (step g k s).2.inventory = (s.op.applied k.inventory).addIncidents (saveFaults g k s) := by
  unfold saveFaults saveOutcome reachesSave Operation.applied step
  rw [perform_eq hload]
  cases hr : s.op.refusal? k.inventory.entries with
  | some fault => rfl
  | none =>
      by_cases hs : s.op.saves k.inventory.entries
      · simp only [hs, if_true, Option.isNone_none, Bool.and_self]
        rw [Inventory.saved_congr (conclude_entries (k.holding (s.op.change k.inventory))),
          conclude_inventory, save_inventory]
        rfl
      · simp only [hs]
        rfl

theorem saves_conclude (now : Instant) (op : Operation) (k : Keeper σ) :
    (conclude g now op k).2.saves = k.saves + 1 := by
  have h : (conclude g now op k).2.saves = (save g now k).2.saves := by
    unfold conclude
    dsimp only
    split <;> rfl
  rw [h]
  unfold save
  split <;> rfl

/-- A step tries one save, if it comes to save at all. -/
theorem saves_step (hload : s.op ≠ .load) :
    (step g k s).2.saves = k.saves + if k.reachesSave s.op then 1 else 0 := by
  unfold step reachesSave
  rw [perform_eq hload]
  split
  next fault hr =>
    rw [hr]
    rfl
  next hr =>
    rw [hr]
    by_cases hs : s.op.saves k.inventory.entries
    · simp only [hs, if_true, Option.isNone_none, Bool.and_self]
      exact saves_conclude ..
    · simp only [hs]
      rfl

theorem load_inventory (now : Instant) (k : Keeper σ) :
    (k.load g now).inventory.incidents = (k.inventory.addIncidents (loadReports g now k)).incidents
      ∧ (k.load g now).inventory.capacity = k.inventory.capacity := by
  unfold load loadView loadReports
  split
  next loaded state hl =>
    rw [hl]
    exact ⟨rfl, Inventory.addIncidents_capacity ..⟩
  next fault state hl =>
    rw [hl]
    exact ⟨rfl, rfl⟩

theorem step_of_load (hload : s.op = .load) :
    (step g k s).2 = k.load (g.failing s.fault) s.now := by
  unfold step
  rw [hload]
  rfl

@[simp] theorem loadReports_failing (fault : Option StateFault) (now : Instant) :
    loadReports (g.failing fault) now k = loadReports g now k := by
  cases fault <;> rfl

theorem reachesSave_of_load {op : Operation} (hload : op = .load) : k.reachesSave op = false := by
  rw [hload]
  rfl

/-- Of the incidents, a step adds what it brings up. -/
theorem incidents_step (g : Gateway σ) (k : Keeper σ) (s : Step) :
    (step g k s).2.inventory.incidents =
        (k.inventory.addIncidents ((notices g k s).map Notice.incident)).incidents
      ∧ (step g k s).2.inventory.capacity = k.inventory.capacity := by
  unfold notices
  rw [List.map_append, Notice.map_incident_reported, Notice.map_incident_unsaved]
  by_cases hload : s.op = .load
  · have hnone : saveFaults g k s = [] := by
      unfold saveFaults
      rw [reachesSave_of_load hload]
      rfl
    rw [step_of_load hload, hnone, List.append_nil]
    unfold reports
    rw [if_pos hload, ← loadReports_failing s.fault]
    exact load_inventory s.now k
  · obtain ⟨hincidents, hcapacity⟩ := s.op.applied_incidents k.inventory
    rw [inventory_step hload, Inventory.addIncidents_append]
    unfold reports
    rw [if_neg hload]
    constructor
    · exact Inventory.addIncidents_congr (by simp [hcapacity]) hincidents _
    · rw [Inventory.addIncidents_capacity, hcapacity]

/-! ## Runs -/

/-- The inventory keeps as many of the last notices as its capacity says. -/
theorem incidents_run (g : Gateway σ) (k : Keeper σ) (steps : List Step)
    (h : k.inventory.incidents.length ≤ k.inventory.capacity) :
    (run g k steps).inventory.incidents =
      Inventory.lastItems k.inventory.capacity
        (k.inventory.incidents ++ (history g k steps).map Notice.incident) := by
  induction steps generalizing k with
  | nil =>
      rw [history, List.map_nil, List.append_nil, Inventory.lastItems_of_le h]
      rfl
  | cons s rest ih =>
      obtain ⟨hincidents, hcapacity⟩ := incidents_step g k s
      rw [Inventory.addIncidents_incidents h] at hincidents
      have hle : (step g k s).2.inventory.incidents.length ≤
          (step g k s).2.inventory.capacity := by
        rw [hincidents, hcapacity]
        unfold Inventory.lastItems
        rw [List.length_drop]
        omega
      rw [run_cons, ih _ hle, hincidents, hcapacity, Inventory.lastItems_append, history,
        List.map_append, List.append_assoc]

end Keeper

end Roster
