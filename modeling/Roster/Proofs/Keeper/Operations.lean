import Roster.Keeper
import Roster.Proofs.Inventory.Lasting
import Roster.Proofs.Inventory.Merge

/-!
# What an operation does

Every operation but a load runs the same course: it is refused, or it changes the inventory, saves
where that may have changed what lasts, and publishes (`perform_eq`).  What it is refused for and
whether it saves can be told from the entries before it.

The change treats each identity on its own.  `Operation.entryAt` is what it makes of one entry,
and `get?_perform` says that the keeper files just that.  `state_perform`, `answer_perform` and
`view_perform` say the same for the gateway, the answer and the view.
-/

namespace Roster

/-- What stays of an entry whose note is deleted. -/
def Entry.withoutNote (e : Entry) : Option Entry :=
  let bare := { e with note := none }
  if bare.isActive || bare.hasUserData then some bare else none

namespace Inventory

@[simp] theorem addIncident_entries (inv : Inventory) (e : Incident) :
    (inv.addIncident e).entries = inv.entries := rfl

@[simp] theorem addIncidents_entries (inv : Inventory) (es : List Incident) :
    (inv.addIncidents es).entries = inv.entries := by
  unfold addIncidents
  induction es generalizing inv with
  | nil => rfl
  | cons e rest ih => rw [List.foldl_cons, ih, addIncident_entries]

@[simp] theorem merge_entries (inv : Inventory) (f : Findings) :
    (inv.merge f).entries = mergeEntries inv.entries f := by
  unfold merge
  rw [addIncidents_entries]

end Inventory

namespace Operation

/-- Why an operation is refused, if it is. -/
def refusal? (entries : Table Identity Entry) : Operation → Option KeeperFault
  | .setNote id _ | .deleteNote id | .setCapture id _ =>
      if entries.contains id then none else some (.notFound id)
  | .forget id =>
      match entries.get? id with
      | none => some (.notFound id)
      | some e => if e.isActive then some (.active id) else none
  | .load | .merge _ | .addIncident _ | .flush => none

/-- The inventory after an operation that is neither refused nor a load. -/
def change (inv : Inventory) : Operation → Inventory
  | .load | .flush => inv
  | .merge f => inv.merge f
  | .setNote id text =>
      (if Text.trim text = "" then inv.deleteNote id
        else inv.setNote id (Text.trim text)).getD inv
  | .deleteNote id => (inv.deleteNote id).getD inv
  | .setCapture id c => (inv.setCapture id c).getD inv
  | .forget id => inv.drop id
  | .addIncident e => inv.addIncident e

/-- Whether an operation saves, provided that it is not refused. -/
def saves (entries : Table Identity Entry) : Operation → Bool
  | .load | .addIncident _ => false
  | .merge f => Inventory.filesCapture entries f
  | .setNote .. | .deleteNote _ | .setCapture .. | .forget _ | .flush => true

/-- What the user hears of a save.  A merge keeps to itself how its save went. -/
def reply (saved : Except KeeperFault Unit) : Operation → Except KeeperFault Unit
  | .merge _ => .ok ()
  | _ => saved

/-- Whether a new view is published after a save.  A flush that went well changes nothing. -/
def publishes (saved : Except KeeperFault Unit) : Operation → Bool
  | .flush => !saved.toBool
  | _ => true

/-- What an operation other than a load leaves under an identity. -/
def entryAt (id : Identity) (prior : Option Entry) : Operation → Option Entry
  | .merge f => Inventory.mergeAt f id prior
  | .setNote key text =>
      if id = key then
        prior.bind fun e =>
          if Text.trim text = "" then e.withoutNote
          else some { e with note := some (Text.trim text) }
      else prior
  | .deleteNote key => if id = key then prior.bind Entry.withoutNote else prior
  | .setCapture key c =>
      if id = key then prior.map fun e => { e with captured := some c } else prior
  | .forget key => if id = key then prior.filter Entry.isActive else prior
  | .load | .addIncident _ | .flush => prior

end Operation

/-! ## The change of one entry -/

namespace Inventory

theorem get?_deleteNote (inv : Inventory) (key id : Identity) :
    ((inv.deleteNote key).getD inv).entries.get? id =
      if id = key then (inv.entries.get? id).bind Entry.withoutNote
      else inv.entries.get? id := by
  unfold deleteNote Entry.withoutNote
  by_cases h : id = key
  · subst h
    cases he : inv.entries.get? id with
    | none => simp [he]
    | some e =>
        simp only [Option.map_some, Option.getD_some, Option.bind_some, if_true]
        split
        · exact Table.get?_insert_self ..
        · rw [Table.get?_erase_ite, if_pos rfl]
  · rw [if_neg h]
    cases inv.entries.get? key with
    | none => rfl
    | some e =>
        simp only [Option.map_some, Option.getD_some]
        split
        · rw [Table.get?_insert_ite, if_neg h]
        · rw [Table.get?_erase_ite, if_neg h]

theorem get?_setNote (inv : Inventory) (key id : Identity) (note : String) :
    ((inv.setNote key note).getD inv).entries.get? id =
      if id = key then (inv.entries.get? id).map fun e => { e with note := some note }
      else inv.entries.get? id := by
  unfold setNote
  by_cases h : id = key
  · subst h
    cases he : inv.entries.get? id with
    | none => simp [he]
    | some e => simp [putNote, he]
  · cases inv.entries.get? key <;> simp [putNote, h, Table.get?_insert_ite]

theorem get?_setCapture (inv : Inventory) (key id : Identity) (c : Captured) :
    ((inv.setCapture key c).getD inv).entries.get? id =
      if id = key then (inv.entries.get? id).map fun e => { e with captured := some c }
      else inv.entries.get? id := by
  unfold setCapture
  by_cases h : id = key
  · subst h
    cases he : inv.entries.get? id with
    | none => simp [he]
    | some e => simp [putCapture, he]
  · cases inv.entries.get? key <;> simp [putCapture, h, Table.get?_insert_ite]

end Inventory

namespace Operation

/-- The change of an operation treats each identity on its own. -/
theorem get?_change {inv : Inventory} {op : Operation} (h : op.refusal? inv.entries = none)
    (id : Identity) : (op.change inv).entries.get? id = op.entryAt id (inv.entries.get? id) := by
  cases op with
  | load => rfl
  | merge f =>
      simp only [change, entryAt, Inventory.merge_entries]
      exact Inventory.get?_mergeEntries ..
  | setNote key text =>
      simp only [change, entryAt]
      by_cases ht : Text.trim text = ""
      · simp only [if_pos ht]
        exact Inventory.get?_deleteNote ..
      · simp only [if_neg ht]
        rw [Inventory.get?_setNote]
        cases inv.entries.get? id <;> rfl
  | deleteNote key => exact Inventory.get?_deleteNote ..
  | setCapture key c => exact Inventory.get?_setCapture ..
  | forget key =>
      simp only [change, entryAt, Inventory.drop, Table.get?_erase_ite]
      by_cases hk : id = key
      · subst hk
        -- a session that runs is refused, so nothing is left of the entry
        cases he : inv.entries.get? id with
        | none => rfl
        | some e =>
            cases ha : e.isActive with
            | true => simp [refusal?, he, ha] at h
            | false => simp [Option.filter, ha]
      · simp only [if_neg hk]
  | addIncident e => rfl
  | flush => rfl

/-- A refused operation would have left every entry as it is. -/
theorem entryAt_of_refusal {entries : Table Identity Entry} {op : Operation} {fault : KeeperFault}
    (h : op.refusal? entries = some fault) (id : Identity) :
    op.entryAt id (entries.get? id) = entries.get? id := by
  have absent : ∀ key, (if entries.contains key then none else some (KeeperFault.notFound key)) =
      some fault → entries.get? key = none := by
    intro key hk
    cases hg : entries.get? key with
    | none => rfl
    | some e => simp [Table.contains, hg] at hk
  cases op with
  | load => simp [refusal?] at h
  | merge f => simp [refusal?] at h
  | setNote key text =>
      by_cases hk : id = key
      · subst hk
        simp [entryAt, absent id h]
      · simp [entryAt, hk]
  | deleteNote key =>
      by_cases hk : id = key
      · subst hk
        simp [entryAt, absent id h]
      · simp [entryAt, hk]
  | setCapture key c =>
      by_cases hk : id = key
      · subst hk
        simp [entryAt, absent id h]
      · simp [entryAt, hk]
  | forget key =>
      by_cases hk : id = key
      · subst hk
        cases he : entries.get? id with
        | none => simp [entryAt]
        | some e =>
            cases ha : e.isActive with
            | true => simp [entryAt, Option.filter, ha]
            | false => simp [refusal?, he, ha] at h
      · simp [entryAt, hk]
  | addIncident e => simp [refusal?] at h
  | flush => simp [refusal?] at h

end Operation

/-! ## Saving -/

namespace Keeper

variable {σ : Type} {g : Gateway σ} {now : Instant} {k : Keeper σ} {op : Operation}

@[simp] theorem release_inventory (k : Keeper σ) : k.release.2.inventory = k.inventory := rfl

@[simp] theorem publish_state (k : Keeper σ) : k.publish.state = k.state := rfl

@[simp] theorem publish_view (k : Keeper σ) : k.publish.view = k.inventory.view := rfl

theorem save_answer (k : Keeper σ) :
    (save g now k).1 = (g.save k.inventory.saved k.state).1.mapError .unsaved := by
  unfold save
  split
  next state hs => rw [hs]; rfl
  next fault state hs => rw [hs]; rfl

theorem save_state (k : Keeper σ) :
    (save g now k).2.state = (g.save k.inventory.saved k.state).2 := by
  unfold save
  split
  next state hs => rw [hs]
  next fault state hs => rw [hs]

/-- A save leaves the entries alone, also one that fails. -/
theorem save_entries (k : Keeper σ) :
    (save g now k).2.inventory.entries = k.inventory.entries := by
  unfold save
  split <;> rfl

/-- A save that goes well changes nothing that is shown. -/
theorem save_of_ok {k : Keeper σ} (h : (save g now k).1 = .ok ()) :
    (save g now k).2.view = k.view ∧ (save g now k).2.inventory = k.inventory := by
  unfold save at h ⊢
  split
  next state hs => exact ⟨rfl, rfl⟩
  next fault state hs =>
    rw [hs] at h
    cases h

/-- What follows on the change of an operation that saves. -/
def conclude (g : Gateway σ) (now : Instant) (op : Operation) (k : Keeper σ) :
    Except KeeperFault Unit × Keeper σ :=
  let (saved, kept) := save g now k
  (op.reply saved, if op.publishes saved then kept.publish else kept)

theorem conclude_inventory (k : Keeper σ) :
    (conclude g now op k).2.inventory = (save g now k).2.inventory := by
  unfold conclude
  dsimp only
  split <;> rfl

theorem conclude_state (k : Keeper σ) :
    (conclude g now op k).2.state = (g.save k.inventory.saved k.state).2 := by
  have h : (conclude g now op k).2.state = (save g now k).2.state := by
    unfold conclude
    dsimp only
    split <;> rfl
  exact h.trans (save_state k)

theorem conclude_entries (k : Keeper σ) :
    (conclude g now op k).2.inventory.entries = k.inventory.entries := by
  rw [conclude_inventory, save_entries]

/-- After a save the view is up to date, if a flush finds it so. -/
theorem conclude_view {k : Keeper σ} (h : op = .flush → k.view = k.inventory.view) :
    (conclude g now op k).2.view = (conclude g now op k).2.inventory.view := by
  rw [conclude_inventory]
  unfold conclude
  dsimp only
  split
  next => rfl
  next hp =>
    cases op with
    | flush =>
        have hok : (save g now k).1 = .ok () := by
          cases hc : (save g now k).1 with
          | ok _ => rfl
          | error fault => simp [Operation.publishes, hc, Except.toBool] at hp
        obtain ⟨h1, h2⟩ := save_of_ok hok
        rw [h1, h2, h rfl]
    | load => exact absurd rfl hp
    | merge f => exact absurd rfl hp
    | setNote id text => exact absurd rfl hp
    | deleteNote id => exact absurd rfl hp
    | setCapture id c => exact absurd rfl hp
    | forget id => exact absurd rfl hp
    | addIncident e => exact absurd rfl hp

/-! ## The course of an operation -/

/-- A keeper with another inventory. -/
def holding (k : Keeper σ) (inventory : Inventory) : Keeper σ := { k with inventory }

theorem commitOr_eq (id : Identity) (changed : Option Inventory)
    (h : changed.isSome = k.inventory.entries.contains id) :
    commitOr g now k id changed =
      match (if k.inventory.entries.contains id then none else some (KeeperFault.notFound id)) with
      | some fault => (.error fault, k)
      | none => commit g now k (changed.getD k.inventory) := by
  cases changed with
  | none =>
      rw [← h]
      rfl
  | some inventory =>
      rw [← h]
      rfl

/-- The course of an operation other than a load. -/
theorem perform_eq (h : op ≠ .load) :
    perform g now k op =
      match op.refusal? k.inventory.entries with
      | some fault => (.error fault, k)
      | none =>
          if op.saves k.inventory.entries then
            conclude g now op (k.holding (op.change k.inventory))
          else (.ok (), (k.holding (op.change k.inventory)).publish) := by
  cases op with
  | load => exact absurd rfl h
  | merge f =>
      simp only [perform, merge, mergeView, Operation.refusal?]
      by_cases hs : Operation.saves k.inventory.entries (.merge f)
      · have hf : Inventory.filesCapture k.inventory.entries f := hs
        rw [if_pos hs, if_pos hf]
        rfl
      · have hf : ¬ Inventory.filesCapture k.inventory.entries f := hs
        rw [if_neg hs, if_neg hf]
        rfl
  | setNote id text =>
      by_cases ht : Text.trim text = ""
      · simp only [perform, if_pos ht]
        rw [commitOr_eq]
        · simp only [Operation.change, if_pos ht]
          rfl
        · simp [Inventory.deleteNote, Table.contains]
      · simp only [perform, if_neg ht]
        rw [commitOr_eq]
        · simp only [Operation.change, if_neg ht]
          rfl
        · simp [Inventory.setNote, Table.contains]
  | deleteNote id =>
      simp only [perform]
      rw [commitOr_eq]
      · rfl
      · simp [Inventory.deleteNote, Table.contains]
  | setCapture id c =>
      simp only [perform]
      rw [commitOr_eq]
      · rfl
      · simp [Inventory.setCapture, Table.contains]
  | forget id =>
      simp only [perform, Operation.refusal?]
      cases he : k.inventory.entries.get? id with
      | none => rfl
      | some e =>
          by_cases ha : e.isActive
          · simp only [if_pos ha]
          · simp only [if_neg ha]
            rfl
  | addIncident e => rfl
  | flush =>
      have hk : k.holding (Operation.change k.inventory .flush) = k := rfl
      simp only [perform, Operation.refusal?, Operation.saves, if_true, hk]
      unfold conclude
      cases save g now k with
      | mk saved kept => cases saved <;> rfl

/-! ## What is left of an operation -/

/-- Whether the operation comes to save. -/
def reachesSave (k : Keeper σ) (op : Operation) : Bool :=
  (op.refusal? k.inventory.entries).isNone && op.saves k.inventory.entries

/-- The keeper files under each identity what the operation makes of the entry of before. -/
theorem get?_perform (h : op ≠ .load) (id : Identity) :
    (perform g now k op).2.inventory.entries.get? id =
      op.entryAt id (k.inventory.entries.get? id) := by
  rw [perform_eq h]
  split
  next fault hr => exact (Operation.entryAt_of_refusal hr id).symm
  next hr =>
    rw [← Operation.get?_change hr id]
    split
    next => rw [conclude_entries]; rfl
    next => rfl

/-- The state of the gateway after an operation that comes to save is the one that the save of the
entries then left, and otherwise it is the one of before. -/
theorem state_perform (h : op ≠ .load) :
    (perform g now k op).2.state =
      if k.reachesSave op then (g.save (perform g now k op).2.inventory.saved k.state).2
      else k.state := by
  rw [perform_eq h]
  unfold reachesSave
  split
  next fault hr => simp [hr]
  next hr =>
    rw [hr]
    by_cases hs : op.saves k.inventory.entries
    · simp only [hs, if_true, Option.isNone_none, Bool.and_self]
      rw [conclude_state, Inventory.saved_congr (conclude_entries _)]
      rfl
    · simp [hs, holding]

/-- What the user hears of an operation. -/
theorem answer_perform (h : op ≠ .load) :
    (perform g now k op).1 =
      match op.refusal? k.inventory.entries with
      | some fault => .error fault
      | none =>
          if op.saves k.inventory.entries then
            op.reply ((g.save (perform g now k op).2.inventory.saved k.state).1.mapError .unsaved)
          else .ok () := by
  rw [perform_eq h]
  split
  next fault hr => rfl
  next hr =>
    split
    next =>
      rw [Inventory.saved_congr (conclude_entries _)]
      unfold conclude
      dsimp only
      rw [save_answer]
      rfl
    next => rfl

/-- After an operation the view is up to date, if it was so before one that is refused and before
a flush. -/
theorem view_perform (h : op ≠ .load)
    (hv : op.refusal? k.inventory.entries ≠ none ∨ op = .flush → k.view = k.inventory.view) :
    (perform g now k op).2.view = (perform g now k op).2.inventory.view := by
  rw [perform_eq h]
  split
  next fault hr =>
    apply hv
    left
    rw [hr]
    exact Option.some_ne_none fault
  next hr =>
    split
    next =>
      refine conclude_view fun hf => ?_
      have hk := hv (Or.inr hf)
      subst hf
      exact hk
    next => rfl

/-! ## Loading -/

theorem load_state (k : Keeper σ) : (k.load g now).state = (g.load k.state).2 := by
  unfold load loadView
  split
  next loaded state hl => rw [hl]; rfl
  next fault state hl => rw [hl]; rfl

/-- A load leaves an up-to-date view. -/
theorem load_view (k : Keeper σ) : (k.load g now).view = (k.load g now).inventory.view := by
  unfold load loadView
  split <;> rfl

/-- A load that goes well files what the gateway brings back. -/
theorem get?_load_of_ok {k : Keeper σ} {loaded : Loaded} (h : (g.load k.state).1 = .ok loaded)
    (id : Identity) :
    (k.load g now).inventory.entries.get? id =
      Inventory.loadedAt (k.inventory.entries.get? id) (loaded.notes.get? id)
        (loaded.captures.get? id) := by
  unfold load loadView
  split
  next loaded' state hl =>
    rw [hl] at h
    cases h
    rw [release_inventory, Inventory.get?_load, Inventory.addIncidents_entries]
  next fault state hl =>
    rw [hl] at h
    cases h

/-- A load that fails leaves the entries alone. -/
theorem load_entries_of_error {k : Keeper σ} {fault : StateFault}
    (h : (g.load k.state).1 = .error fault) :
    (k.load g now).inventory.entries = k.inventory.entries := by
  unfold load loadView
  split
  next loaded state hl =>
    rw [hl] at h
    cases h
  next fault state hl => rfl

end Keeper

end Roster
