import Roster.Inventory
import Roster.Proofs.Table

/-!
# What is shown and what lasts, one identity at a time

The view lists one record for each entry, and the saved tables hold the note and the output of
each entry, as far as there are any.  So both can be read off the entry of an identity:
`filter_records_view` gives the records shown of it, `get?_saved_notes` and `get?_saved_captures`
what is saved of it.

`get?_load` is the way back: what a load files under an identity is made of the note and the
output that were saved of it.
-/

namespace Roster

namespace Inventory

/-! ## The view -/

/-- The record that is shown of an entry. -/
def recordOf (id : Identity) (e : Entry) : Record := { e with identity := id }

theorem records_eq (inv : Inventory) :
    inv.records = inv.entries.entries.map fun e => recordOf e.1 e.2 := rfl

/-- The view lists all records, in an order of its own. -/
theorem records_view_perm (inv : Inventory) : inv.view.records.Perm inv.records := by
  unfold view
  have h := List.filter_append_perm (·.isActive) inv.records
  exact ((List.mergeSort_perm _ _).append_left _).trans h

/-- The records shown of an identity are that of its entry, if it has one. -/
theorem filter_records_view (inv : Inventory) (id : Identity) :
    (inv.view.records.filter fun r => r.identity = id) =
      (inv.entries.get? id).toList.map (recordOf id) := by
  have h : (inv.records.filter fun r => r.identity = id) =
      (inv.entries.get? id).toList.map (recordOf id) := by
    have hk := congrArg (List.map fun e => recordOf e.1 e.2) (Table.filter_entries inv.entries id)
    rw [List.map_map] at hk
    rw [records_eq, List.filter_map]
    exact hk
  have hp := (records_view_perm inv).filter fun r => r.identity = id
  rw [h] at hp
  cases he : inv.entries.get? id with
  | none =>
      rw [he] at hp
      exact List.perm_nil.1 hp
  | some e =>
      rw [he] at hp
      exact List.perm_singleton.1 hp

/-! ## What lasts -/

theorem get?_saved_notes (inv : Inventory) (id : Identity) :
    inv.saved.notes.get? id = (inv.entries.get? id).bind fun e => e.note.filter (· != "") :=
  Table.get?_filterMap inv.entries (fun _ e => e.note.filter (· != "")) id

theorem get?_saved_captures (inv : Inventory) (id : Identity) :
    inv.saved.captures.get? id = (inv.entries.get? id).bind (·.captured) :=
  Table.get?_filterMap inv.entries (fun _ e => e.captured) id

/-- What is saved depends on the entries alone. -/
theorem saved_congr {inv inv' : Inventory} (h : inv.entries = inv'.entries) :
    inv.saved = inv'.saved := by
  unfold saved
  rw [h]

theorem get?_putNote (entries : Table Identity Entry) (e : Identity × String) (id : Identity) :
    (putNote entries e.1 e.2).get? id =
      if id = e.1 then some { (entries.get? id).getD .remembered with note := some e.2 }
      else entries.get? id := by
  unfold putNote
  rw [Table.get?_insert_ite]
  by_cases h : id = e.1
  · rw [h]
  · simp only [if_neg h]

theorem get?_putCapture (entries : Table Identity Entry) (e : Identity × Captured)
    (id : Identity) :
    (putCapture entries e.1 e.2).get? id =
      if id = e.1 then some { (entries.get? id).getD .remembered with captured := some e.2 }
      else entries.get? id := by
  unfold putCapture
  rw [Table.get?_insert_ite]
  by_cases h : id = e.1
  · rw [h]
  · simp only [if_neg h]

/-- What a load files under an identity of which a note and an output may have been saved. -/
def loadedAt (prior : Option Entry) : Option String → Option Captured → Option Entry
  | none, none => prior
  | note, captured =>
      let e := prior.getD .remembered
      some { e with note := note.or e.note, captured := captured.or e.captured }

/-- A load files what was saved of an identity on top of what was filed before. -/
theorem get?_load (inv : Inventory) (s : Saved) (id : Identity) :
    (inv.load s).entries.get? id =
      loadedAt (inv.entries.get? id) (s.notes.get? id) (s.captures.get? id) := by
  unfold load
  rw [Table.get?_foldl
      (g := fun _ c old => some { old.getD Entry.remembered with captured := some c })
      (fun t e j => get?_putCapture t e j),
    Table.get?_foldl
      (g := fun _ n old => some { old.getD Entry.remembered with note := some n })
      (fun t e j => get?_putNote t e j)]
  cases s.notes.get? id <;> cases s.captures.get? id <;> rfl

end Inventory

end Roster
