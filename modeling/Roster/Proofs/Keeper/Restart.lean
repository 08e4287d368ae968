import Roster.Proofs.Keeper.Agreement

/-!
# Starting anew

A keeper that flushed can be replaced by a new one that loads from the same gateway.  The new one
knows no times and files no entries without user data, but the next scan brings both into
agreement, and nothing that is done to them after that tells them apart (`restart_agrees`).

What makes this work is that the gateway gives back the note and the output of every entry
(`sameData_of_restart`).  Since a save leaves out notes that are empty, this takes that there are
none.  No operation files one, so there are none if the gateway held none in the beginning
(`NotesFilled`).
-/

namespace Roster

namespace Inventory

/-! ## Empty notes -/

/-- A scan keeps the note of an entry, or drops it. -/
theorem note_mergeAt (f : Findings) (id : Identity) (prior : Option Entry) :
    (mergeAt f id prior).bind (·.note) = none
      ∨ (mergeAt f id prior).bind (·.note) = prior.bind (·.note) := by
  have hsession : (sessionAt f id prior).bind (·.note) = none
      ∨ (sessionAt f id prior).bind (·.note) = prior.bind (·.note) := by
    unfold sessionAt
    split
    next =>
      cases prior with
      | none => exact Or.inl rfl
      | some e =>
          cases hd : e.retired.hasUserData with
          | false => simp [unseen, Option.filter, hd]
          | true =>
              right
              have hu : unseen (some e) = some e.retired := by simp [unseen, Option.filter, hd]
              rw [hu]
              rfl
    next => exact Or.inr rfl
    next => exact Or.inl rfl
  have houtput : (mergeAt f id prior).bind (·.note) = (sessionAt f id prior).bind (·.note) := by
    unfold mergeAt
    cases sessionAt f id prior <;> rfl
  rw [houtput]
  exact hsession

/-- A load files the note that was saved, and leaves the one of before where none was. -/
theorem note_loadedAt (prior : Option Entry) (note : Option String) (captured : Option Captured) :
    (loadedAt prior note captured).bind (·.note) = note.or (prior.bind (·.note)) := by
  cases note <;> cases captured <;> cases prior <;> rfl

theorem captured_loadedAt (prior : Option Entry) (note : Option String)
    (captured : Option Captured) :
    (loadedAt prior note captured).bind (·.captured) = captured.or (prior.bind (·.captured)) := by
  cases note <;> cases captured <;> cases prior <;> rfl

/-- No note that is saved is empty. -/
theorem saved_note_ne_empty (inv : Inventory) (id : Identity) :
    inv.saved.notes.get? id ≠ some "" := by
  intro h
  rw [get?_saved_notes, Option.bind_eq_some_iff] at h
  obtain ⟨e, he, hn⟩ := h
  have hne := (Option.filter_eq_some_iff.1 hn).2
  exact absurd hne (by decide)

/-- A note that is not empty is saved. -/
theorem get?_saved_notes_of_filled {inv : Inventory} {id : Identity}
    (h : (inv.entries.get? id).bind (·.note) ≠ some "") :
    inv.saved.notes.get? id = (inv.entries.get? id).bind (·.note) := by
  rw [get?_saved_notes]
  cases he : inv.entries.get? id with
  | none => rfl
  | some e =>
      rw [he] at h
      cases hn : e.note with
      | none => simp [hn]
      | some note =>
          have hne : note ≠ "" := by
            rintro rfl
            exact h hn
          simp [hn, Option.filter, hne]

end Inventory

/-- No operation but a load files an empty note. -/
theorem Operation.filled_entryAt (op : Operation) (id : Identity) {prior : Option Entry}
    (h : prior.bind (·.note) ≠ some "") : (op.entryAt id prior).bind (·.note) ≠ some "" := by
  have hbare : ∀ e : Entry, e.withoutNote.bind (·.note) = none := by
    intro e
    unfold Entry.withoutNote
    dsimp only
    split <;> rfl
  cases op with
  | load => exact h
  | merge f =>
      simp only [entryAt]
      rcases Inventory.note_mergeAt f id prior with hm | hm
      · rw [hm]
        exact (Option.some_ne_none _).symm
      · rw [hm]
        exact h
  | setNote key text =>
      simp only [entryAt]
      split
      next =>
        cases prior with
        | none => exact h
        | some e =>
            simp only [Option.bind_some]
            split
            next =>
              rw [hbare]
              exact (Option.some_ne_none _).symm
            next htext =>
              intro hn
              exact htext (Option.some.inj hn)
      next => exact h
  | deleteNote key =>
      simp only [entryAt]
      split
      next =>
        cases prior with
        | none => exact h
        | some e =>
            rw [Option.bind_some, hbare]
            exact (Option.some_ne_none _).symm
      next => exact h
  | setCapture key c =>
      simp only [entryAt]
      split
      next => cases prior <;> exact h
      next => exact h
  | forget key =>
      simp only [entryAt]
      split
      next =>
        cases prior with
        | none => exact h
        | some e =>
            cases ha : e.isActive with
            | false => simp [Option.filter, ha]
            | true => simpa [Option.filter, ha] using h
      next => exact h
  | addIncident _ => exact h
  | flush => exact h

namespace Keeper

variable {σ : Type} {g : Gateway σ} {held : σ → Saved} {k : Keeper σ}

/-- No note is empty, neither one that is filed nor one that the gateway holds. -/
structure NotesFilled (held : σ → Saved) (k : Keeper σ) : Prop where
  /-- The entries hold no empty note. -/
  filed : ∀ id, (k.inventory.entries.get? id).bind (·.note) ≠ some ""
  /-- The gateway holds no empty note. -/
  lasts : ∀ id, (held k.state).notes.get? id ≠ some ""

theorem NotesFilled.load (hg : g.Faithful held) (now : Instant) (h : NotesFilled held k) :
    NotesFilled held (k.load g now) := by
  constructor
  · intro id
    cases hl : (g.load k.state).1 with
    | error fault =>
        rw [load_entries_of_error hl]
        exact h.filed id
    | ok loaded =>
        rw [get?_load_of_ok hl, Inventory.note_loadedAt]
        have hs := hg.toSaved_of_load hl
        have hn : loaded.notes.get? id ≠ some "" := by
          rw [hs]
          exact h.lasts id
        cases hln : loaded.notes.get? id with
        | none =>
            rw [Option.none_or]
            exact h.filed id
        | some note =>
            rw [hln] at hn
            exact hn
  · intro id
    rw [load_state, hg.held_load]
    exact h.lasts id

/-- No step makes a note empty. -/
theorem NotesFilled.step (hg : g.Faithful held) {s : Step} (h : NotesFilled held k) :
    NotesFilled held (Keeper.step g k s).2 := by
  by_cases hload : s.op = .load
  · have hl : (Keeper.step g k s).2 = k.load (g.failing s.fault) s.now := by
      rw [Keeper.step, hload]
      rfl
    rw [hl]
    exact h.load (hg.failing s.fault) s.now
  · constructor
    · intro id
      rw [get?_step hload]
      exact s.op.filled_entryAt id (h.filed id)
    · intro id
      rcases held_step hg hload with hold | hnew
      · rw [hold]
        exact h.lasts id
      · rw [hnew]
        exact Inventory.saved_note_ne_empty _ id

/-! ## The new keeper -/

/-- A keeper that is started anew after a flush holds the notes and outputs of the old one. -/
theorem sameData_of_restart (hg : g.Faithful held) (h : NotesFilled held k)
    (hheld : held k.state = k.inventory.saved) {loaded : Loaded}
    (hload : (g.load k.state).1 = .ok loaded) (capacity : Nat) (now : Instant) (id : Identity) :
    SameData (k.inventory.entries.get? id)
      (((fresh capacity k.state).load g now).inventory.entries.get? id) := by
  have hs := hg.toSaved_of_load hload
  rw [hheld] at hs
  have hnotes : loaded.notes.get? id = (k.inventory.entries.get? id).bind (·.note) := by
    rw [hs]
    exact Inventory.get?_saved_notes_of_filled (h.filed id)
  have hcaptures : loaded.captures.get? id = (k.inventory.entries.get? id).bind (·.captured) := by
    rw [hs]
    exact Inventory.get?_saved_captures ..
  rw [get?_load_of_ok (k := fresh capacity k.state) hload]
  constructor
  · rw [Inventory.note_loadedAt, hnotes]
    exact (Option.or_none ..).symm
  · rw [Inventory.captured_loadedAt, hcaptures]
    exact (Option.or_none ..).symm

/-- A keeper that is started anew after a flush is brought into agreement with the old one by the
next scan, whatever the scan found.  From then on they stay in agreement, and they give the same
answers if their saves go the same. -/
theorem restart_agrees (hg : g.Faithful held) (capacity capacity' : Nat) (state : σ)
    (hnotes : ∀ id, (held state).notes.get? id ≠ some "") (steps : List Step)
    (flushed : Instant) (old : Keeper σ)
    (hflush : step g (run g (fresh capacity state) steps) ⟨.flush, flushed, none⟩ = (.ok (), old))
    (loaded : Loaded) (hload : (g.load old.state).1 = .ok loaded) (started : Instant)
    (f : Findings) (scanned : Instant) (fault : Option StateFault) (rest : List Step)
    (hrest : ∀ s ∈ rest, s.op ≠ .load) :
    let new := (fresh capacity' old.state).load g started
    let later : List Step := ⟨.merge f, scanned, fault⟩ :: rest
    Agree (run g old later) (run g new later)
    ∧ (SameSaves g old new later → answers g old later = answers g new later) := by
  intro new later
  have hfresh : NotesFilled held (fresh capacity state) := ⟨fun _ => nofun, hnotes⟩
  have hrun : NotesFilled held (run g (fresh capacity state) steps) :=
    run_induction (fun _ _ _ h => h.step hg) hfresh
  have hok : (step g (run g (fresh capacity state) steps) ⟨.flush, flushed, none⟩).1 = .ok () :=
    congrArg Prod.fst hflush
  have hold : (step g (run g (fresh capacity state) steps) ⟨.flush, flushed, none⟩).2 = old :=
    congrArg Prod.snd hflush
  have hfilled : NotesFilled held old := by
    rw [← hold]
    exact hrun.step hg
  have hheld : held old.state = old.inventory.saved := by
    rw [← hold]
    exact held_of_answer hg Operation.noConfusion rfl (fun _ => rfl) hok
  have hdata : ∀ id, SameData (old.inventory.entries.get? id) (new.inventory.entries.get? id) :=
    sameData_of_restart hg hfilled hheld hload capacity' started
  have hmerged : Agree (step g old ⟨.merge f, scanned, fault⟩).2
      (step g new ⟨.merge f, scanned, fault⟩).2 := agree_of_merge hdata rfl
  constructor
  · unfold later
    rw [run_cons, run_cons]
    exact hmerged.run hrest
  · rintro ⟨-, hsame⟩
    have hanswers := hmerged.answers_eq hrest hsame
    show _ :: _ = _ :: _
    rw [hanswers]
    rfl

/-- A keeper is replaced before a scan that lists a session twice and takes the output of one that
it does not list. -/
theorem restart_agrees_on_repeats :
    let train : Session := ⟨"train", some ⟨7, 0⟩, true⟩
    let eval : Session := ⟨"eval", none, false⟩
    let listing (sessions : List Session) (outputs : Table String String) (time : Instant) :
        Findings := ⟨[⟨"n1", none⟩], .ofList [("n1", ⟨sessions, outputs⟩)], [], time⟩
    let before := run Saved.gateway (fresh 5 {})
      [⟨.load, ⟨0, 0⟩, none⟩, ⟨.merge (listing [train, eval] .empty ⟨1, 0⟩), ⟨1, 0⟩, none⟩,
        ⟨.setNote ⟨"n1", "train"⟩ " run A ", ⟨2, 0⟩, some (.unreadable "notes.json")⟩,
        ⟨.setCapture ⟨"n1", "eval"⟩ ⟨"", ⟨3, 0⟩⟩, ⟨3, 0⟩, none⟩,
        ⟨.merge (listing [train] .empty ⟨4, 0⟩), ⟨4, 0⟩, none⟩]
    let old := (step Saved.gateway before ⟨.flush, ⟨5, 0⟩, none⟩).2
    let new := (fresh 9 old.state).load Saved.gateway ⟨6, 0⟩
    let repeats := listing [train, eval, train] (.ofList [("gone", "bye")]) ⟨7, 0⟩
    let rest : List Step :=
      [⟨.deleteNote ⟨"n1", "gone"⟩, ⟨8, 0⟩, none⟩, ⟨.forget ⟨"n1", "train"⟩, ⟨9, 0⟩, none⟩,
        ⟨.setNote ⟨"n1", "eval"⟩ "other", ⟨10, 0⟩, some (.unreadable "notes.json")⟩]
    let later : List Step := ⟨.merge repeats, ⟨7, 0⟩, none⟩ :: rest
    (∀ s ∈ rest, s.op ≠ .load)
    ∧ Agree (run Saved.gateway old later) (run Saved.gateway new later)
    ∧ answers Saved.gateway old later = answers Saved.gateway new later := by
  intro train eval listing before old new repeats rest later
  have hrest : ∀ s ∈ rest, s.op ≠ .load := by decide
  have hflush : step Saved.gateway before ⟨.flush, ⟨5, 0⟩, none⟩ = (.ok (), old) := rfl
  have hload : (Saved.gateway.load old.state).1 = .ok { old.state with } := rfl
  obtain ⟨hagree, hanswers⟩ := restart_agrees Saved.gateway_faithful 5 9 {} (fun _ => nofun) _
    ⟨5, 0⟩ old hflush _ hload ⟨6, 0⟩ repeats ⟨7, 0⟩ none rest hrest
  exact ⟨hrest, hagree, hanswers (sameSaves_of_steady Saved.gateway_steady _ _ _)⟩

end Keeper

end Roster
