import Roster.Proofs.Keeper.Lag
import Roster.Proofs.Keeper.Sightings

/-!
# A note set around a scan

The user may set a note while a scan is on its way.  Then chance decides which of the two comes to
the inventory first.

* *The note first.*  The scan carries it over, and keeps the session as stale if it does not list it.
  This holds also of a session without user data, since now the note is user data.
* *The scan first.*  The note can be set if the scan left the session.  Then it makes no difference
  which came first: both orders leave the same inventory (`merge_setNote_comm`).

`note_around_merge` says this of a keeper whose saves go well, with the view, the notes at the
gateway and what the user hears.
-/

namespace Roster

variable {σ : Type}

namespace Inventory

variable {f : Findings} {id : Identity} {inv inv' : Inventory}

/-! ## One entry -/

/-- Where a scan keeps a session, it makes no difference to a note whether it was set before. -/
theorem mergeAt_note (hf : f.ListsOnce) {note : String} (hnote : note ≠ "") {e e' : Entry}
    (h : mergeAt f id (some e) = some e') :
    mergeAt f id (some { e with note := some note }) = some { e' with note := some note } := by
  unfold mergeAt sessionAt at *
  rcases listedAt_of_listsOnce hf id with hl | ⟨s, hl⟩
  · rw [hl] at h ⊢
    obtain ⟨d, hd, rfl⟩ := Option.map_eq_some_iff.1 h
    have hkept : unseen (some { e with note := some note }) =
        some { e.retired with note := some note } := by
      simp [unseen, Option.filter, Entry.retired, Entry.hasUserData, hnote]
    obtain ⟨hretired, -⟩ := Option.filter_eq_some_iff.1 hd
    cases hretired
    exact congrArg (Option.map _) hkept
  · rw [hl] at h ⊢
    cases h
    rfl

/-! ## The inventory -/

theorem Same.eq (h : Same inv inv') (hincidents : inv.incidents = inv'.incidents)
    (hcapacity : inv.capacity = inv'.capacity) : inv = inv' := by
  cases inv
  cases inv'
  simp only [mk.injEq]
  exact ⟨h.entries, h.nodes, hincidents, hcapacity, h.scannedAt⟩

/-- It makes no difference whether a note is set before or after a scan that leaves its session. -/
theorem merge_setNote_comm (hf : f.ListsOnce) {text : String} (htext : Text.trim text ≠ "")
    (hknown : inv.entries.contains id = true) (hkept : (inv.merge f).entries.contains id = true) :
    ((Operation.setNote id text).change inv).merge f =
      (Operation.setNote id text).change (inv.merge f) := by
  have hr : (Operation.setNote id text).refusal? inv.entries = none := if_pos hknown
  have hr' : (Operation.setNote id text).refusal? (inv.merge f).entries = none := if_pos hkept
  have hentries : (((Operation.setNote id text).change inv).merge f).entries =
      ((Operation.setNote id text).change (inv.merge f)).entries := by
    refine Table.ext_get? fun j => ?_
    rw [Operation.get?_change hr', merge_entries, merge_entries, get?_mergeEntries,
      get?_mergeEntries, Operation.get?_change hr]
    by_cases hj : j = id
    · subst hj
      obtain ⟨e, he⟩ := Option.isSome_iff_exists.1 hknown
      obtain ⟨e', he'⟩ := Option.isSome_iff_exists.1 hkept
      rw [merge_entries, get?_mergeEntries, he] at he'
      simp only [Operation.entryAt, if_true, he, he', Option.bind_some, if_neg htext]
      exact mergeAt_note hf htext he'
    · simp only [Operation.entryAt, if_neg hj]
  have hset : (Operation.setNote id text).change (inv.merge f) =
      { inv.merge f with entries := ((Operation.setNote id text).change (inv.merge f)).entries } :=
    Operation.change_of_command rfl (inv.merge f)
  obtain ⟨hset_incidents, hset_capacity⟩ := (Operation.setNote id text).change_incidents inv
  obtain ⟨hset_incidents', hset_capacity'⟩ :=
    (Operation.setNote id text).change_incidents (inv.merge f)
  obtain ⟨hmerge_incidents, hmerge_capacity⟩ := (Operation.merge f).change_incidents inv
  obtain ⟨hmerge_incidents', hmerge_capacity'⟩ :=
    (Operation.merge f).change_incidents ((Operation.setNote id text).change inv)
  apply Same.eq
  · refine ⟨hentries, ?_, ?_⟩
    · rw [hset, merge_nodes]
      exact (merge_nodes inv f).symm
    · rw [hset, merge_scannedAt]
      exact (merge_scannedAt inv f).symm
  · calc (((Operation.setNote id text).change inv).merge f).incidents
        = (((Operation.setNote id text).change inv).addIncidents f.incidents).incidents :=
          hmerge_incidents'
      _ = (inv.addIncidents f.incidents).incidents :=
          addIncidents_congr hset_capacity hset_incidents _
      _ = (inv.merge f).incidents := hmerge_incidents.symm
      _ = ((Operation.setNote id text).change (inv.merge f)).incidents := hset_incidents'.symm
  · calc (((Operation.setNote id text).change inv).merge f).capacity
        = ((Operation.setNote id text).change inv).capacity := hmerge_capacity'
      _ = inv.capacity := hset_capacity
      _ = (inv.merge f).capacity := hmerge_capacity.symm
      _ = ((Operation.setNote id text).change (inv.merge f)).capacity := hset_capacity'.symm

end Inventory

namespace Keeper

variable {g : Gateway σ} {held : σ → Saved} {k : Keeper σ} {s : Step} {id : Identity}

/-! ## Steps -/

/-- A step whose save goes well, if it comes to one, makes what its operation makes. -/
theorem inventory_step_of_saved (hload : s.op ≠ .load)
    (hr : s.op.refusal? k.inventory.entries = none)
    (hsave : k.reachesSave s.op = true → saveOutcome g k s = .ok ()) :
    (step g k s).2.inventory = s.op.change k.inventory := by
  have hnone : saveFaults g k s = [] := by
    unfold saveFaults
    split
    next hreach =>
      rw [hsave hreach]
      rfl
    next => rfl
  rw [inventory_step hload, hnone, Operation.applied, hr]
  rfl

/-- What is left of setting a note on a session that is known, if its save goes well. -/
structure NoteSet (g : Gateway σ) (held : σ → Saved) (k : Keeper σ) (id : Identity)
    (text : String) (now : Instant) : Prop where
  /-- The user hears that it went well. -/
  answer : (step g k ⟨.setNote id text, now, none⟩).1 = .ok ()
  /-- The inventory has the note. -/
  inventory : (step g k ⟨.setNote id text, now, none⟩).2.inventory =
    (Operation.setNote id text).change k.inventory
  /-- The view is up to date. -/
  view : (step g k ⟨.setNote id text, now, none⟩).2.view =
    (step g k ⟨.setNote id text, now, none⟩).2.inventory.view
  /-- The gateway holds all that lasts. -/
  lasts : held (step g k ⟨.setNote id text, now, none⟩).2.state =
    (step g k ⟨.setNote id text, now, none⟩).2.inventory.saved

theorem noteSet_of_saved (hg : g.Faithful held) {text : String} {now : Instant}
    (hknown : k.inventory.entries.contains id = true)
    (hsave : k.reachesSave (.setNote id text) = true →
      saveOutcome g k ⟨.setNote id text, now, none⟩ = .ok ()) :
    NoteSet g held k id text now := by
  have hr : (Operation.setNote id text).refusal? k.inventory.entries = none := if_pos hknown
  obtain ⟨hreach, hanswer⟩ :=
    answer_of_command (g := g) (s := ⟨.setNote id text, now, none⟩) rfl hr
  have hok : (step g k ⟨.setNote id text, now, none⟩).1 = .ok () := by
    rw [hanswer, hsave hreach]
    rfl
  constructor
  · exact hok
  · exact inventory_step_of_saved Operation.noConfusion hr hsave
  · refine view_step Operation.noConfusion ?_
    rintro (h | h)
    · exact absurd hr h
    · cases h
  · exact held_of_answer hg Operation.noConfusion rfl (fun _ => rfl) hok

/-! ## Both orders -/

/-- A note is set on a session that is known, and a scan is merged that lists no session twice on
one node, while the saves go well.

If the note comes first, the session is shown afterwards in one record, with the note, and runs if
and only if the scan lists it.  The user hears that it went well, and the gateway holds the note.

If the scan comes first, and the session is still known then, all of this is the same: both orders
leave the same inventory and the same view, the gateway holds the same notes, and the user hears
the same. -/
theorem note_around_merge (hg : g.Faithful held) (k : Keeper σ) (id : Identity) (text : String)
    (f : Findings) (htext : Text.trim text ≠ "") (hf : f.ListsOnce)
    (hknown : k.inventory.entries.contains id = true) (t u : Instant)
    (hsaved : AllSaved g k [⟨.setNote id text, t, none⟩, ⟨.merge f, u, none⟩]) :
    let noteFirst := run g k [⟨.setNote id text, t, none⟩, ⟨.merge f, u, none⟩]
    (∃ r, (noteFirst.view.records.filter fun r => r.identity = id) = [r]
      ∧ r.note = some (Text.trim text) ∧ (r.status = .active ↔ ∃ s, f.Lists id s))
    ∧ answers g k [⟨.setNote id text, t, none⟩, ⟨.merge f, u, none⟩] = [.ok (), .ok ()]
    ∧ (held noteFirst.state).notes.get? id = some (Text.trim text)
    ∧ ∀ t' u' : Instant,
        let scanFirst := run g k [⟨.merge f, u', none⟩, ⟨.setNote id text, t', none⟩]
        (run g k [⟨.merge f, u', none⟩]).inventory.entries.contains id = true →
        AllSaved g k [⟨.merge f, u', none⟩, ⟨.setNote id text, t', none⟩] →
        scanFirst.inventory = noteFirst.inventory
        ∧ scanFirst.view = noteFirst.view
        ∧ (held scanFirst.state).notes = (held noteFirst.state).notes
        ∧ answers g k [⟨.merge f, u', none⟩, ⟨.setNote id text, t', none⟩] = [.ok (), .ok ()] := by
  intro noteFirst
  obtain ⟨hsaveNote, hsaveScan, -⟩ := hsaved
  let noted := (step g k ⟨.setNote id text, t, none⟩).2
  have hmerge : noteFirst = (step g noted ⟨.merge f, u, none⟩).2 := rfl
  have hset : NoteSet g held k id text t := noteSet_of_saved hg hknown hsaveNote
  have hkept : NoteKept held id (Text.trim text)
      ((step g k ⟨.setNote id text, t, none⟩).1 = .ok ()) noteFirst :=
    (NoteKept.start hg rfl htext hknown).step hg htext (s := ⟨.merge f, u, none⟩) trivial hf
  have hinventory : noteFirst.inventory =
      ((Operation.setNote id text).change k.inventory).merge f := by
    rw [← hset.inventory, hmerge]
    exact inventory_step_of_saved (k := noted) Operation.noConfusion rfl hsaveScan
  have hnotes : (held noteFirst.state).notes = noteFirst.inventory.saved.notes := by
    have hnoted : (held noted.state).UpToBlanks noted.inventory.saved := by
      rw [hset.lasts]
      exact Saved.UpToBlanks.refl _
    rw [hmerge]
    exact (upToBlanks_step hg hnoted (s := ⟨.merge f, u, none⟩) hf hsaveScan).notes
  refine ⟨?_, ?_, hkept.lasts hset.answer, ?_⟩
  · obtain ⟨e, he, hnote⟩ := hkept.filed
    have hmerged : noteFirst.inventory.entries.get? id =
        Inventory.mergeAt f id (noted.inventory.entries.get? id) := by
      rw [hmerge]
      exact get?_step (s := ⟨.merge f, u, none⟩) Operation.noConfusion id
    have hactive : e.isActive = true ↔ ∃ s, f.Lists id s := by
      rw [← Inventory.isActive_mergeAt_iff (noted.inventory.entries.get? id), ← hmerged, he]
      rfl
    refine ⟨Inventory.recordOf id e, ?_, hnote, beq_iff_eq.symm.trans hactive⟩
    rw [hkept.shown, Inventory.filter_records_view, he]
    rfl
  · rw [answers, hset.answer]
    rfl
  · intro t' u' scanFirst hstays hsaved'
    rw [run_cons, run_nil] at hstays
    obtain ⟨hsaveScan', hsaveNote', -⟩ := hsaved'
    let scanned := (step g k ⟨.merge f, u', none⟩).2
    have hscanned : scanned.inventory = k.inventory.merge f :=
      inventory_step_of_saved Operation.noConfusion rfl hsaveScan'
    have hset' : NoteSet g held scanned id text t' := noteSet_of_saved hg hstays hsaveNote'
    have hlast : scanFirst = (step g scanned ⟨.setNote id text, t', none⟩).2 := rfl
    have hsame : scanFirst.inventory = noteFirst.inventory := by
      have hkeeps : (k.inventory.merge f).entries.contains id = true := by
        rw [← hscanned]
        exact hstays
      rw [hinventory, Inventory.merge_setNote_comm hf htext hknown hkeeps, ← hscanned, hlast]
      exact hset'.inventory
    refine ⟨hsame, ?_, ?_, ?_⟩
    · rw [hkept.shown, ← hsame, hlast]
      exact hset'.view
    · rw [hlast, hset'.lasts, ← hlast, hsame, hnotes]
    · show [_, (step g scanned ⟨.setNote id text, t', none⟩).1] = _
      rw [hset'.answer]
      rfl

/-- Two sessions are gone, and a note is set on each around the scan that finds this out.  The one
has an output and outlasts the scan, so that the order makes no difference.  The other has nothing but
the note, and is shown as stale if the note comes first. -/
theorem note_around_merge_gone :
    let train : Identity := ⟨"n1", "train"⟩
    let eval : Identity := ⟨"n1", "eval"⟩
    let listing : Findings :=
      ⟨[⟨"n1", none⟩], .ofList [("n1", ⟨[⟨"train", none, true⟩, ⟨"eval", none, false⟩],
        .ofList [("train", "epoch 1")]⟩)], [], ⟨1, 0⟩⟩
    let gone : Findings := ⟨[⟨"n1", none⟩], .ofList [("n1", ⟨[], .empty⟩)], [], ⟨2, 0⟩⟩
    let k := run Saved.gateway (fresh 5 {}) [⟨.merge listing, ⟨1, 0⟩, none⟩]
    let noteFirst (id : Identity) : List Step :=
      [⟨.setNote id " run A ", ⟨2, 0⟩, none⟩, ⟨.merge gone, ⟨3, 0⟩, none⟩]
    let scanFirst (id : Identity) : List Step :=
      [⟨.merge gone, ⟨2, 0⟩, none⟩, ⟨.setNote id " run A ", ⟨3, 0⟩, none⟩]
    Text.trim " run A " ≠ "" ∧ gone.ListsOnce
    ∧ (∀ id ∈ [train, eval], k.inventory.entries.contains id = true
      ∧ AllSaved Saved.gateway k (noteFirst id) ∧ AllSaved Saved.gateway k (scanFirst id)
      ∧ ∃ r ∈ (run Saved.gateway k (noteFirst id)).view.records,
        r.identity = id ∧ r.status = .stale)
    ∧ (run Saved.gateway k (scanFirst train)).inventory =
        (run Saved.gateway k (noteFirst train)).inventory
    ∧ (run Saved.gateway k (scanFirst eval)).inventory.entries.get? eval = none := by
  intro train eval listing gone k noteFirst scanFirst
  have htext : Text.trim " run A " ≠ "" := by decide +kernel
  have hlists : gone.ListsOnce := by decide +kernel
  have hknown : ∀ id ∈ [train, eval], k.inventory.entries.contains id = true := by decide +kernel
  have hsaved : ∀ id, AllSaved Saved.gateway k (noteFirst id)
      ∧ AllSaved Saved.gateway k (scanFirst id) := fun id =>
    ⟨allSaved_of_steady Saved.gateway_steady (by simp [noteFirst]) k,
      allSaved_of_steady Saved.gateway_steady (by simp [scanFirst]) k⟩
  have hnone : ∀ id s, ¬ gone.Lists id s := by
    rintro id s ⟨n, hn, hs, -⟩
    have hmem := Table.mem_of_get?_ofList hn
    rw [List.mem_singleton, Prod.mk.injEq] at hmem
    rw [hmem.2] at hs
    cases hs
  refine ⟨htext, hlists, fun id hid => ⟨hknown id hid, (hsaved id).1, (hsaved id).2, ?_⟩, ?_,
    by decide +kernel⟩
  · obtain ⟨⟨r, hr, -, hactive⟩, -⟩ := note_around_merge Saved.gateway_faithful k id " run A " gone
      htext hlists (hknown id hid) ⟨2, 0⟩ ⟨3, 0⟩ (hsaved id).1
    have hmem : r ∈ (run Saved.gateway k (noteFirst id)).view.records.filter
        fun r => r.identity = id := by
      show r ∈ List.filter _ _
      rw [hr]
      exact List.mem_singleton.2 rfl
    obtain ⟨hshown, hidentity⟩ := List.mem_filter.1 hmem
    refine ⟨r, hshown, of_decide_eq_true hidentity, ?_⟩
    cases hstatus : r.status with
    | stale => rfl
    | active =>
        obtain ⟨s, hs⟩ := hactive.1 hstatus
        exact absurd hs (hnone id s)
  · obtain ⟨-, -, -, hsame⟩ := note_around_merge Saved.gateway_faithful k train " run A " gone
      htext hlists (hknown train (by simp)) ⟨2, 0⟩ ⟨3, 0⟩ (hsaved train).1
    exact (hsame ⟨3, 0⟩ ⟨2, 0⟩ (by decide +kernel) (hsaved train).2).1

end Keeper

end Roster
