import Roster.Proofs.Keeper.Run

/-!
# Notes last

A note that was set stays until the user changes it.  Whatever scans are merged, the record of its
session is kept, as active or as stale, since it holds user data, and the note is carried over
from entry to entry (`noted_entryAt`).  The one scan that takes a note away is a scan that lists a
session name twice on one node, so such scans are left out (`Findings.ListsOnce`).

`NoteKept` is what holds from then on: the entry holds the note, the view is up to date, and the
gateway holds the note if it was saved.  `note_lasts` reads the three off at the end of a run.
-/

namespace Roster

/-- The scan lists no session name twice on one node. -/
def Findings.ListsOnce (f : Findings) : Prop :=
  ∀ e ∈ f.probed.entries, (e.2.sessions.map (·.name)).Nodup

instance (f : Findings) : Decidable f.ListsOnce :=
  inferInstanceAs (Decidable (∀ e ∈ f.probed.entries, (e.2.sessions.map (·.name)).Nodup))

namespace Operation

/-- A merge that is one of a scan that lists no session twice, and every other operation. -/
def ListsOnce : Operation → Prop
  | .merge f => f.ListsOnce
  | _ => True

/-- The operation is no load and none by which the user changes the note of an identity. -/
def SparesNote (id : Identity) : Operation → Prop
  | .load => False
  | .setNote key _ | .deleteNote key | .forget key => key ≠ id
  | .merge _ | .setCapture .. | .addIncident _ | .flush => True

instance : (op : Operation) → Decidable op.ListsOnce
  | .merge f => inferInstanceAs (Decidable f.ListsOnce)
  | .load | .setNote .. | .deleteNote _ | .setCapture .. | .forget _ | .addIncident _ | .flush =>
      isTrue trivial

instance (id : Identity) : (op : Operation) → Decidable (op.SparesNote id)
  | .load => isFalse not_false
  | .setNote key _ | .deleteNote key | .forget key => inferInstanceAs (Decidable (key ≠ id))
  | .merge _ | .setCapture .. | .addIncident _ | .flush => isTrue trivial

end Operation

/-! ## The note of an entry -/

/-- There is an entry, and it holds the note. -/
def Noted (note : String) (entry : Option Entry) : Prop := ∃ e, entry = some e ∧ e.note = some note

namespace Inventory

/-- A scan that lists no session twice lists one session at most under an identity. -/
theorem listedAt_of_listsOnce {f : Findings} (hf : f.ListsOnce) (id : Identity) :
    listedAt f id = [] ∨ ∃ s, listedAt f id = [s] := by
  have hnodup : ((listedAt f id).map (·.name)).Nodup := by
    unfold listedAt
    cases hn : f.probed.get? id.node with
    | none => exact List.nodup_nil
    | some n =>
        have hm := hf _ (Table.mem_entries_iff.2 hn)
        exact hm.sublist (List.filter_sublist.map _)
  have hname : ∀ s ∈ listedAt f id, s.name = id.name := by
    intro s hs
    exact of_decide_eq_true (List.mem_filter.1 hs).2
  match hl : listedAt f id with
  | [] => exact Or.inl rfl
  | [s] => exact Or.inr ⟨s, rfl⟩
  | s :: s' :: rest =>
      rw [hl] at hnodup hname
      have h1 := hname s (by simp)
      have h2 := hname s' (by simp)
      rw [List.map_cons, List.map_cons, h1, h2] at hnodup
      exact absurd hnodup (by simp)

/-- A note that is not empty is carried over by a scan that lists no session twice. -/
theorem noted_mergeAt {f : Findings} (hf : f.ListsOnce) {id : Identity} {note : String}
    (hnote : note ≠ "") {prior : Option Entry} (h : Noted note prior) :
    Noted note (mergeAt f id prior) := by
  obtain ⟨e, rfl, he⟩ := h
  have hs : Noted note (sessionAt f id (some e)) := by
    unfold sessionAt
    rcases listedAt_of_listsOnce hf id with hl | ⟨s, hl⟩
    · rw [hl]
      have hd : e.retired.hasUserData = true := by simp [Entry.hasUserData, Entry.retired, he, hnote]
      exact ⟨e.retired, by simp [unseen, Option.filter, hd], he⟩
    · rw [hl]
      exact ⟨seen f.completedAt s (some e), rfl, he⟩
  obtain ⟨e', hs', he'⟩ := hs
  unfold mergeAt
  rw [hs']
  exact ⟨_, rfl, he'⟩

end Inventory

/-- A note that is not empty is carried over by every operation that does not change it. -/
theorem Operation.noted_entryAt {op : Operation} {id : Identity} (hspares : op.SparesNote id)
    (hlists : op.ListsOnce) {note : String} (hnote : note ≠ "") {prior : Option Entry}
    (h : Noted note prior) : Noted note (op.entryAt id prior) := by
  cases op with
  | load => exact hspares.elim
  | merge f => exact Inventory.noted_mergeAt hlists hnote h
  | setNote key text =>
      have hk : id ≠ key := Ne.symm hspares
      simpa [entryAt, hk] using h
  | deleteNote key =>
      have hk : id ≠ key := Ne.symm hspares
      simpa [entryAt, hk] using h
  | setCapture key c =>
      by_cases hk : id = key
      · obtain ⟨e, rfl, he⟩ := h
        exact ⟨{ e with captured := some c }, by simp [entryAt, hk], he⟩
      · simpa [entryAt, hk] using h
  | forget key =>
      have hk : id ≠ key := Ne.symm hspares
      simpa [entryAt, hk] using h
  | addIncident e => exact h
  | flush => exact h

/-! ## The note of a keeper -/

namespace Keeper

variable {σ : Type} {g : Gateway σ} {held : σ → Saved} {id : Identity} {note : String}
  {saved : Prop}

/-- The keeper keeps a note, and if it was saved, so does the gateway. -/
structure NoteKept (held : σ → Saved) (id : Identity) (note : String) (saved : Prop)
    (k : Keeper σ) : Prop where
  /-- The entry of the session holds the note. -/
  filed : Noted note (k.inventory.entries.get? id)
  /-- The view is up to date. -/
  shown : k.view = k.inventory.view
  /-- The gateway holds the note. -/
  lasts : saved → (held k.state).notes.get? id = some note

/-- What is saved of an entry that holds a note. -/
theorem saved_notes_of_noted (hnote : note ≠ "") {inv : Inventory}
    (h : Noted note (inv.entries.get? id)) : inv.saved.notes.get? id = some note := by
  obtain ⟨e, he, hn⟩ := h
  rw [Inventory.get?_saved_notes, he]
  simp [Option.filter, hn, hnote]

/-- A step that does not change the note keeps it. -/
theorem NoteKept.step (hg : g.Faithful held) (hnote : note ≠ "") {k : Keeper σ} {s : Step}
    (hspares : s.op.SparesNote id) (hlists : s.op.ListsOnce)
    (h : NoteKept held id note saved k) : NoteKept held id note saved (Keeper.step g k s).2 := by
  have hload : s.op ≠ .load := by
    intro hl
    rw [hl] at hspares
    exact hspares
  have hfiled : Noted note ((Keeper.step g k s).2.inventory.entries.get? id) := by
    rw [get?_step hload]
    exact Operation.noted_entryAt hspares hlists hnote h.filed
  refine ⟨hfiled, view_step hload fun _ => h.shown, fun hs => ?_⟩
  rcases held_step hg hload with hold | hnew
  · rw [hold]
    exact h.lasts hs
  · rw [hnew]
    exact saved_notes_of_noted hnote hfiled

/-- Setting a note on a session that is known starts it off. -/
theorem NoteKept.start (hg : g.Faithful held) {k : Keeper σ} {s : Step} {text : String}
    (hset : s.op = .setNote id text) (htext : Text.trim text ≠ "")
    (hknown : k.inventory.entries.contains id = true) :
    NoteKept held id (Text.trim text) ((Keeper.step g k s).1 = .ok ()) (Keeper.step g k s).2 := by
  have hload : s.op ≠ .load := by
    rw [hset]
    exact Operation.noConfusion
  have hr : s.op.refusal? k.inventory.entries = none := by
    rw [hset]
    exact if_pos hknown
  have hfiled : Noted (Text.trim text) ((Keeper.step g k s).2.inventory.entries.get? id) := by
    rw [get?_step hload, hset]
    obtain ⟨e, he⟩ := Option.isSome_iff_exists.1 hknown
    exact ⟨{ e with note := some (Text.trim text) }, by simp [Operation.entryAt, he, htext], rfl⟩
  refine ⟨hfiled, view_step hload ?_, fun hok => ?_⟩
  · rintro (h | h)
    · exact absurd hr h
    · rw [hset] at h
      cases h
  · have hsaves : s.op.saves k.inventory.entries = true := by
      rw [hset]
      rfl
    have hreply : ∀ r, s.op.reply r = r := by
      rw [hset]
      exact fun _ => rfl
    rw [held_of_answer hg hload hsaves hreply hok]
    exact saved_notes_of_noted htext hfiled

/-- What is shown of a note that is kept. -/
theorem NoteKept.record {k : Keeper σ} (h : NoteKept held id note saved k) :
    ∃ r, (k.view.records.filter fun r => r.identity = id) = [r] ∧ r.note = some note := by
  obtain ⟨e, he, hn⟩ := h.filed
  rw [h.shown, Inventory.filter_records_view, he]
  exact ⟨Inventory.recordOf id e, rfl, hn⟩

/-- What a keeper that is started anew shows of a note that the gateway holds. -/
theorem record_of_load (hg : g.Faithful held) {state : σ} {loaded : Loaded}
    (hload : (g.load state).1 = .ok loaded) (hheld : (held state).notes.get? id = some note)
    (capacity : Nat) (now : Instant) :
    ∃ r, (((fresh capacity state).load g now).view.records.filter fun r => r.identity = id) = [r]
      ∧ r.status = .stale ∧ r.note = some note := by
  have hn : loaded.notes.get? id = some note := by
    have hs := hg.toSaved_of_load hload
    rw [← hheld, ← hs]
  rw [load_view, Inventory.filter_records_view, get?_load_of_ok hload, hn]
  exact ⟨_, rfl, rfl, rfl⟩

/-- A note that is set on a session that is known is shown in its one record until the user changes
it, whatever is done to the keeper before and after, whichever saves fail, and whatever is merged,
provided that no scan lists a session twice on one node.  If the user heard that it was saved, the
gateway holds it just as long, and a keeper that is started anew shows it as that of a stale
session. -/
theorem note_lasts (hg : g.Faithful held) (k : Keeper σ) (id : Identity) (text : String)
    (now : Instant) (fault : Option StateFault) (rest : List Step)
    (hknown : k.inventory.entries.contains id = true) (htext : Text.trim text ≠ "")
    (hspares : ∀ s ∈ rest, s.op.SparesNote id) (hlists : ∀ s ∈ rest, s.op.ListsOnce) :
    let set : Step := ⟨.setNote id text, now, fault⟩
    let last := run g k (set :: rest)
    (∃ r, (last.view.records.filter fun r => r.identity = id) = [r]
      ∧ r.note = some (Text.trim text))
    ∧ ((Keeper.step g k set).1 = .ok () →
      (held last.state).notes.get? id = some (Text.trim text)
      ∧ ∀ capacity time loaded, (g.load last.state).1 = .ok loaded →
        ∃ r, (((fresh capacity last.state).load g time).view.records.filter
            fun r => r.identity = id) = [r]
          ∧ r.status = .stale ∧ r.note = some (Text.trim text)) := by
  intro set last
  have hstart := NoteKept.start hg (s := set) rfl htext hknown
  have hkept : NoteKept held id (Text.trim text) ((Keeper.step g k set).1 = .ok ()) last := by
    unfold last
    rw [run_cons]
    exact run_induction (fun k' s hs h => h.step hg htext (hspares s hs) (hlists s hs)) hstart
  refine ⟨hkept.record, fun hok => ⟨hkept.lasts hok, ?_⟩⟩
  intro capacity time loaded hload
  exact record_of_load hg hload (hkept.lasts hok) capacity time

/-- A note outlasts a save that fails and a scan that finds no nodes. -/
theorem note_lasts_through_outage :
    let id : Identity := ⟨"n1", "train"⟩
    let listing : Findings :=
      ⟨[⟨"n1", none⟩], .ofList [("n1", ⟨[⟨"train", none, true⟩], .empty⟩)], [], ⟨0, 0⟩⟩
    let outage : Findings := .unresolved ⟨.scheduler, none, ⟨60, 0⟩, "no answer"⟩ ⟨60, 0⟩
    let k := run Saved.gateway (fresh 5 {}) [⟨.merge listing, ⟨0, 0⟩, none⟩]
    let rest : List Step :=
      [⟨.merge outage, ⟨60, 0⟩, none⟩, ⟨.flush, ⟨61, 0⟩, some (.unreadable "notes.json")⟩,
        ⟨.setNote ⟨"n1", "eval"⟩ "other", ⟨62, 0⟩, none⟩, ⟨.merge listing, ⟨90, 0⟩, none⟩]
    let last := run Saved.gateway k (⟨.setNote id " run A ", ⟨1, 0⟩, none⟩ :: rest)
    k.inventory.entries.contains id = true
    ∧ (∀ s ∈ rest, s.op.SparesNote id) ∧ (∀ s ∈ rest, s.op.ListsOnce)
    ∧ (∃ r, (last.view.records.filter fun r => r.identity = id) = [r] ∧ r.note = some "run A")
    ∧ last.state.notes.get? id = some "run A" := by
  have hknown : (run Saved.gateway (fresh 5 {}) [⟨.merge
      ⟨[⟨"n1", none⟩], .ofList [("n1", ⟨[⟨"train", none, true⟩], .empty⟩)], [], ⟨0, 0⟩⟩,
      ⟨0, 0⟩, none⟩]).inventory.entries.contains ⟨"n1", "train"⟩ = true := by decide +kernel
  have htext : Text.trim " run A " = "run A" := by decide +kernel
  intro id listing outage k rest last
  have hspares : ∀ s ∈ rest, s.op.SparesNote id := by decide +kernel
  have hlists : ∀ s ∈ rest, s.op.ListsOnce := by decide +kernel
  have h := note_lasts Saved.gateway_faithful k id " run A " ⟨1, 0⟩ none rest hknown
    (by decide +kernel) hspares hlists
  rw [htext] at h
  have hr : (Operation.setNote id " run A ").refusal? k.inventory.entries = none := if_pos hknown
  have hok : (Keeper.step Saved.gateway k ⟨.setNote id " run A ", ⟨1, 0⟩, none⟩).1 = .ok () := by
    rw [answer_step Operation.noConfusion, hr]
    rfl
  obtain ⟨hshown, hlasts⟩ := h
  obtain ⟨hheld, -⟩ := hlasts hok
  rw [id_eq] at hheld
  exact ⟨hknown, hspares, hlists, hshown, hheld⟩

end Keeper

end Roster
