import Roster.Proofs.Keeper.Incidents
import Roster.Proofs.Keeper.Notes
import Roster.Proofs.Keeper.Restart

/-!
# How far the gateway lags behind

The keeper saves after each command, but after a scan only if an output was filed.  So where a scan
drops an entry, what the gateway holds of it stays there until the next save.

*What is dropped.*  A scan drops an entry only if it holds no user data, so no note is lost this
way.  But an output that is blank is saved and still is no user data.  An entry with such an output
is dropped, and the gateway goes on holding the output (`blank_output_outlasts_entry`).

*What is certain.*  The gateway holds the notes exactly, and the outputs up to blank ones that the
keeper holds no more (`UpToBlanks`), after every operation (`lag_of_run`).  Without blank outputs
nothing lags.
-/

namespace Roster

/-- What is held is what lasts, up to blank outputs that do not last any more. -/
structure Saved.UpToBlanks (held lasting : Saved) : Prop where
  /-- The notes are the same. -/
  notes : held.notes = lasting.notes
  /-- An output that is not the same is a blank one where there should be none. -/
  captures : ∀ id, held.captures.get? id = lasting.captures.get? id
    ∨ (lasting.captures.get? id = none ∧ ∃ c, held.captures.get? id = some c ∧ c.text = "")

theorem Saved.UpToBlanks.refl (saved : Saved) : saved.UpToBlanks saved :=
  ⟨rfl, fun _ => Or.inl rfl⟩

theorem Saved.UpToBlanks.trans {a b c : Saved} (h : a.UpToBlanks b) (h' : b.UpToBlanks c) :
    a.UpToBlanks c := by
  constructor
  · exact h.notes.trans h'.notes
  · intro id
    rcases h'.captures id with heq | ⟨hnone, hblank⟩
    · rw [← heq]
      exact h.captures id
    · right
      refine ⟨hnone, ?_⟩
      rcases h.captures id with heq | ⟨hnone', -⟩
      · rw [heq]
        exact hblank
      · -- what is blank is there
        obtain ⟨d, hd, -⟩ := hblank
        rw [hnone'] at hd
        cases hd

/-- Without blank outputs nothing lags. -/
theorem Saved.UpToBlanks.eq {held lasting : Saved} (h : held.UpToBlanks lasting)
    (hfilled : ∀ id c, held.captures.get? id = some c → c.text ≠ "") : held = lasting := by
  have hcaptures : held.captures = lasting.captures := by
    apply Table.ext_get?
    intro id
    rcases h.captures id with heq | ⟨-, c, hc, hblank⟩
    · exact heq
    · exact absurd hblank (hfilled id c hc)
  cases held
  cases lasting
  simp only [Saved.mk.injEq]
  exact ⟨h.notes, hcaptures⟩

namespace Inventory

variable {f : Findings} {id : Identity} {prior : Option Entry}

/-! ## What a scan drops -/

/-- A scan that files no output leaves under an identity what its listings leave there. -/
theorem mergeAt_of_not_filesCapture {entries : Table Identity Entry}
    (hfiles : filesCapture entries f = false) (id : Identity) :
    mergeAt f id (entries.get? id) = sessionAt f id (entries.get? id) := by
  unfold mergeAt
  cases ho : outputAt f id with
  | none =>
      rw [withOutput_none]
      exact congrFun Option.map_id _
  | some text =>
      rw [filesCapture_eq] at hfiles
      have hnone := List.any_eq_false.1 hfiles _ (mem_capturesOf.2 ho)
      rw [Bool.not_eq_true, Option.isSome_eq_false_iff, Option.isNone_iff_eq_none] at hnone
      rw [hnone]
      rfl

/-- The note that is saved of an entry. -/
def lastingNote (entry : Option Entry) : Option String :=
  entry.bind fun e => e.note.filter (· != "")

theorem lastingNote_eq (entry : Option Entry) :
    lastingNote entry = (entry.bind (·.note)).filter (· != "") := by
  cases entry <;> rfl

/-- An entry that is not listed stays, or it is dropped and holds neither a note that would be
saved nor an output that is not blank. -/
theorem unseen_eq_or (e : Entry) :
    unseen (some e) = some e.retired
      ∨ (unseen (some e) = none ∧ lastingNote (some e) = none
        ∧ ∀ c, e.captured = some c → c.text = "") := by
  cases hd : e.retired.hasUserData with
  | true =>
      left
      simp [unseen, Option.filter, hd]
  | false =>
      right
      obtain ⟨hnote, hcaptured⟩ := Bool.or_eq_false_iff.1 hd
      refine ⟨by simp [unseen, Option.filter, hd], ?_, ?_⟩
      · show e.note.filter (· != "") = none
        rw [Option.filter_eq_none_iff]
        intro note hn
        have hany : e.note.any (· != "") = false := hnote
        rw [hn] at hany
        exact ne_true_of_eq_false hany
      · intro c hc
        have hany : e.captured.any (·.text != "") = false := hcaptured
        rw [hc] at hany
        simpa using hany

/-- A scan that lists no session twice leaves the notes alone that are not empty. -/
theorem lastingNote_sessionAt (hf : f.ListsOnce) :
    lastingNote (sessionAt f id prior) = lastingNote prior := by
  unfold sessionAt
  rcases listedAt_of_listsOnce hf id with hl | ⟨s, hl⟩
  · rw [hl]
    show lastingNote (unseen prior) = lastingNote prior
    cases prior with
    | none => rfl
    | some e =>
        rcases unseen_eq_or e with hu | ⟨hu, hnote, -⟩
        · rw [hu]
          rfl
        · rw [hu, hnote]
          rfl
  · rw [hl]
    cases prior <;> rfl

/-- A scan that lists no session twice leaves an output alone, or drops one that is blank. -/
theorem captured_sessionAt (hf : f.ListsOnce) (id : Identity) (prior : Option Entry) :
    (sessionAt f id prior).bind (·.captured) = prior.bind (·.captured)
      ∨ (sessionAt f id prior = none
        ∧ ∃ c, prior.bind (·.captured) = some c ∧ c.text = "") := by
  unfold sessionAt
  rcases listedAt_of_listsOnce hf id with hl | ⟨s, hl⟩
  · rw [hl]
    show (unseen prior).bind (·.captured) = _ ∨ unseen prior = none ∧ _
    cases prior with
    | none => exact Or.inl rfl
    | some e =>
        rcases unseen_eq_or e with hu | ⟨hu, -, hblank⟩
        · rw [hu]
          exact Or.inl rfl
        · rw [hu]
          cases hc : e.captured with
          | none => exact Or.inl hc.symm
          | some c => exact Or.inr ⟨rfl, c, hc, hblank c hc⟩
  · rw [hl]
    cases prior <;> exact Or.inl rfl

end Inventory

/-! ## Blank outputs -/

/-- The operation files no blank output. -/
def Operation.OutputsFilled : Operation → Prop
  | .merge f => ∀ id text, Inventory.outputAt f id = some text → text ≠ ""
  | .setCapture _ c => c.text ≠ ""
  | .load | .setNote .. | .deleteNote _ | .forget _ | .addIncident _ | .flush => True

/-- A scan leaves no output but those that it took and those of before. -/
theorem Inventory.captured_mergeAt {f : Findings} {id : Identity} {prior : Option Entry}
    {c : Captured} (h : (mergeAt f id prior).bind (·.captured) = some c) :
    outputAt f id = some c.text ∨ prior.bind (·.captured) = some c := by
  have hsession : ∀ e, sessionAt f id prior = some e → e.captured = some c →
      prior.bind (·.captured) = some c := by
    intro e he hc
    unfold sessionAt at he
    split at he
    next =>
      cases prior with
      | none => cases he
      | some d =>
          rcases unseen_eq_or d with hu | ⟨hu, -, -⟩
          · rw [hu] at he
            cases he
            exact hc
          · rw [hu] at he
            cases he
    next =>
      cases he
      exact hc
    next =>
      cases he
      cases hc
  unfold mergeAt at h
  cases hs : sessionAt f id prior with
  | none =>
      rw [hs] at h
      cases h
  | some e =>
      rw [hs] at h
      have hc : (withOutput f.completedAt (outputAt f id) e).captured = some c := h
      unfold withOutput at hc
      cases ho : outputAt f id with
      | none =>
          rw [ho] at hc
          exact Or.inr (hsession e hs hc)
      | some text =>
          rw [ho] at hc
          cases hc
          exact Or.inl rfl

/-- An operation that files no blank output leaves none where there was none before. -/
theorem Operation.outputsFilled_entryAt {op : Operation} (hop : op.OutputsFilled) {id : Identity}
    {prior : Option Entry} (h : ∀ c, prior.bind (·.captured) = some c → c.text ≠ "")
    {c : Captured} (hc : (op.entryAt id prior).bind (·.captured) = some c) : c.text ≠ "" := by
  have hbare : ∀ e : Entry, ∀ d, e.withoutNote.bind (·.captured) = some d →
      e.captured = some d := by
    intro e d hd
    unfold Entry.withoutNote at hd
    dsimp only at hd
    split at hd
    next => exact hd
    next => cases hd
  cases op with
  | load => exact h c hc
  | merge f =>
      rcases Inventory.captured_mergeAt hc with ho | hp
      · exact hop id c.text ho
      · exact h c hp
  | setNote key text =>
      simp only [entryAt] at hc
      split at hc
      next =>
        cases prior with
        | none => cases hc
        | some e =>
            rw [Option.bind_some] at hc
            split at hc
            next => exact h c (hbare e c hc)
            next => exact h c hc
      next => exact h c hc
  | deleteNote key =>
      simp only [entryAt] at hc
      split at hc
      next =>
        cases prior with
        | none => cases hc
        | some e => exact h c (hbare e c hc)
      next => exact h c hc
  | setCapture key d =>
      simp only [entryAt] at hc
      split at hc
      next =>
        cases prior with
        | none => cases hc
        | some e =>
            cases hc
            exact hop
      next => exact h c hc
  | forget key =>
      simp only [entryAt] at hc
      split at hc
      next =>
        cases prior with
        | none => cases hc
        | some e =>
            cases ha : e.isActive with
            | false => simp [Option.filter, ha] at hc
            | true =>
                apply h c
                simpa [Option.filter, ha] using hc
      next => exact h c hc
  | addIncident _ => exact h c hc
  | flush => exact h c hc

namespace Keeper

variable {σ : Type} {g : Gateway σ} {held : σ → Saved} {k : Keeper σ} {s : Step}

/-! ## Steps -/

/-- Wherever the keeper saves in a run, the save goes well. -/
def AllSaved (g : Gateway σ) : Keeper σ → List Step → Prop
  | _, [] => True
  | k, s :: rest =>
      (k.reachesSave s.op = true → saveOutcome g k s = .ok ()) ∧ AllSaved g (step g k s).2 rest

/-- The saves of a steady gateway go well if no step makes them fail. -/
theorem allSaved_of_steady (hg : g.Steady) {steps : List Step}
    (hfault : ∀ s ∈ steps, s.fault = none) (k : Keeper σ) : AllSaved g k steps := by
  induction steps generalizing k with
  | nil => trivial
  | cons s rest ih =>
      refine ⟨fun _ => ?_, ih (fun s' hs' => hfault s' (List.mem_cons_of_mem _ hs')) _⟩
      show ((g.failing s.fault).save _ _).1 = _
      rw [hg.save_failing, hfault s List.mem_cons_self]
      rfl

theorem get?_saved_notes_step (hload : s.op ≠ .load) (id : Identity) :
    (step g k s).2.inventory.saved.notes.get? id =
      Inventory.lastingNote (s.op.entryAt id (k.inventory.entries.get? id)) := by
  rw [Inventory.get?_saved_notes, get?_step hload]
  rfl

theorem get?_saved_captures_step (hload : s.op ≠ .load) (id : Identity) :
    (step g k s).2.inventory.saved.captures.get? id =
      (s.op.entryAt id (k.inventory.entries.get? id)).bind (·.captured) := by
  rw [Inventory.get?_saved_captures, get?_step hload]

/-- A step that comes to no save leaves what lasts, or drops blank outputs by a scan. -/
theorem saved_step_of_not_reachesSave (hload : s.op ≠ .load) (hlists : s.op.ListsOnce)
    (hreach : k.reachesSave s.op = false) :
    k.inventory.saved.UpToBlanks (step g k s).2.inventory.saved := by
  have hunchanged : (∀ id, s.op.entryAt id (k.inventory.entries.get? id) =
      k.inventory.entries.get? id) →
      k.inventory.saved.UpToBlanks (step g k s).2.inventory.saved := by
    intro hsame
    have hentries : (step g k s).2.inventory.entries = k.inventory.entries := by
      apply Table.ext_get?
      intro id
      rw [get?_step hload, hsame]
    rw [Inventory.saved_congr hentries]
    exact Saved.UpToBlanks.refl _
  cases hr : s.op.refusal? k.inventory.entries with
  | some fault => exact hunchanged (Operation.entryAt_of_refusal hr)
  | none =>
      have hsaves : s.op.saves k.inventory.entries = false := by
        simpa [reachesSave, hr] using hreach
      cases hop : s.op with
      | merge f =>
          rw [hop] at hlists hsaves
          have hat : ∀ id, s.op.entryAt id (k.inventory.entries.get? id) =
              Inventory.sessionAt f id (k.inventory.entries.get? id) := by
            intro id
            rw [hop]
            exact Inventory.mergeAt_of_not_filesCapture hsaves id
          constructor
          · apply Table.ext_get?
            intro id
            rw [get?_saved_notes_step hload, hat, Inventory.lastingNote_sessionAt hlists,
              Inventory.get?_saved_notes]
            rfl
          · intro id
            rw [get?_saved_captures_step hload, hat, Inventory.get?_saved_captures]
            rcases Inventory.captured_sessionAt hlists id (k.inventory.entries.get? id) with
              heq | ⟨hnone, hblank⟩
            · exact Or.inl heq.symm
            · right
              rw [hnone]
              exact ⟨rfl, hblank⟩
      | load => exact absurd hop hload
      | addIncident e =>
          apply hunchanged
          rw [hop]
          exact fun _ => rfl
      | setNote _ _ =>
          rw [hop] at hsaves
          cases hsaves
      | deleteNote _ =>
          rw [hop] at hsaves
          cases hsaves
      | setCapture _ _ =>
          rw [hop] at hsaves
          cases hsaves
      | forget _ =>
          rw [hop] at hsaves
          cases hsaves
      | flush =>
          rw [hop] at hsaves
          cases hsaves

/-- What lasts after a load that goes well is what the gateway holds, if nothing else was there
before and the gateway holds no empty note. -/
theorem saved_load (hg : g.Faithful held) {loaded : Loaded} (hload : (g.load k.state).1 = .ok loaded)
    (hempty : ∀ id, (held k.state).notes.get? id ≠ some "")
    (hnotes : ∀ id, (held k.state).notes.get? id = none → k.inventory.saved.notes.get? id = none)
    (hcaptures : ∀ id, (held k.state).captures.get? id = none →
      k.inventory.saved.captures.get? id = none) (now : Instant) :
    (k.load g now).inventory.saved = held k.state := by
  have hheld := hg.toSaved_of_load hload
  have hnote : (k.load g now).inventory.saved.notes = (held k.state).notes := by
    apply Table.ext_get?
    intro id
    have hprior : (held k.state).notes.get? id = none →
        Inventory.lastingNote (k.inventory.entries.get? id) = none := by
      intro hn
      rw [← hnotes id hn, Inventory.get?_saved_notes]
      rfl
    rw [Inventory.get?_saved_notes, get?_load_of_ok hload]
    show Inventory.lastingNote _ = _
    rw [Inventory.lastingNote_eq, Inventory.note_loadedAt, hheld]
    rw [Inventory.lastingNote_eq] at hprior
    cases hn : (held k.state).notes.get? id with
    | none =>
        rw [Option.none_or]
        exact hprior hn
    | some note =>
        have hne : note ≠ "" := by
          rintro rfl
          exact hempty id hn
        simp [Option.filter, hne]
  have hcaptured : (k.load g now).inventory.saved.captures = (held k.state).captures := by
    apply Table.ext_get?
    intro id
    rw [Inventory.get?_saved_captures, get?_load_of_ok hload, Inventory.captured_loadedAt, hheld]
    cases hc : (held k.state).captures.get? id with
    | none =>
        rw [Option.none_or, ← Inventory.get?_saved_captures]
        exact hcaptures id hc
    | some c => rfl
  calc (k.load g now).inventory.saved
      = ⟨(k.load g now).inventory.saved.notes, (k.load g now).inventory.saved.captures⟩ := rfl
    _ = held k.state := by rw [hnote, hcaptured]

/-- What the gateway holds after a load that goes well of a new keeper is what lasts there. -/
theorem saved_load_fresh (hg : g.Faithful held) {state : σ} {loaded : Loaded}
    (hload : (g.load state).1 = .ok loaded) (hempty : ∀ id, (held state).notes.get? id ≠ some "")
    (capacity : Nat) (now : Instant) :
    ((fresh capacity state).load g now).inventory.saved = held state :=
  saved_load (k := fresh capacity state) hg hload hempty (fun _ _ => rfl) (fun _ _ => rfl) now

/-- The gateway lags by blank outputs only, also after a load. -/
theorem upToBlanks_load (hg : g.Faithful held) (h : (held k.state).UpToBlanks k.inventory.saved)
    (now : Instant) :
    (held (k.load g now).state).UpToBlanks (k.load g now).inventory.saved := by
  rw [load_state, hg.held_load]
  cases hl : (g.load k.state).1 with
  | error fault =>
      rw [Inventory.saved_congr (load_entries_of_error hl)]
      exact h
  | ok loaded =>
      rw [saved_load hg hl]
      · exact Saved.UpToBlanks.refl _
      · intro id
        rw [h.notes]
        exact Inventory.saved_note_ne_empty _ id
      · intro id hn
        rw [← h.notes]
        exact hn
      · intro id hc
        rcases h.captures id with heq | ⟨hnone, -⟩
        · rw [← heq]
          exact hc
        · exact hnone

/-- A step whose save goes well, if it comes to one, makes the gateway lag by blank outputs at
most. -/
theorem upToBlanks_step (hg : g.Faithful held) (h : (held k.state).UpToBlanks k.inventory.saved)
    (hlists : s.op.ListsOnce) (hsave : k.reachesSave s.op = true → saveOutcome g k s = .ok ()) :
    (held (step g k s).2.state).UpToBlanks (step g k s).2.inventory.saved := by
  by_cases hload : s.op = .load
  · rw [step_of_load hload]
    exact upToBlanks_load (hg.failing s.fault) h s.now
  · rw [state_step hload]
    cases hreach : k.reachesSave s.op with
    | true =>
        rw [if_pos rfl, (hg.failing s.fault).held_of_ok (hsave hreach)]
        exact Saved.UpToBlanks.refl _
    | false =>
        rw [if_neg Bool.false_ne_true]
        exact h.trans (saved_step_of_not_reachesSave hload hlists hreach)

/-! ## Runs -/

theorem upToBlanks_run (hg : g.Faithful held) {steps : List Step}
    (hlists : ∀ s ∈ steps, s.op.ListsOnce) (hsaved : AllSaved g k steps)
    (h : (held k.state).UpToBlanks k.inventory.saved) :
    (held (run g k steps).state).UpToBlanks (run g k steps).inventory.saved := by
  induction steps generalizing k with
  | nil => exact h
  | cons s rest ih =>
      obtain ⟨hsave, hrest⟩ := hsaved
      rw [run_cons]
      have hs := upToBlanks_step hg h (hlists s List.mem_cons_self) hsave
      exact ih (fun s' hs' => hlists s' (List.mem_cons_of_mem _ hs')) hrest hs

/-- No output is blank, neither one that is filed nor one that the gateway holds. -/
structure OutputsFilled (held : σ → Saved) (k : Keeper σ) : Prop where
  /-- The entries hold no blank output. -/
  filed : ∀ id c, (k.inventory.entries.get? id).bind (·.captured) = some c → c.text ≠ ""
  /-- The gateway holds no blank output. -/
  lasts : ∀ id c, (held k.state).captures.get? id = some c → c.text ≠ ""

theorem OutputsFilled.load (hg : g.Faithful held) (now : Instant) (h : OutputsFilled held k) :
    OutputsFilled held (k.load g now) := by
  constructor
  · intro id c hc
    cases hl : (g.load k.state).1 with
    | error fault =>
        rw [load_entries_of_error hl] at hc
        exact h.filed id c hc
    | ok loaded =>
        rw [get?_load_of_ok hl, Inventory.captured_loadedAt, hg.toSaved_of_load hl] at hc
        cases hheld : (held k.state).captures.get? id with
        | none =>
            rw [hheld, Option.none_or] at hc
            exact h.filed id c hc
        | some d =>
            rw [hheld, Option.some_or] at hc
            cases hc
            exact h.lasts id c hheld
  · rw [load_state, hg.held_load]
    exact h.lasts

theorem OutputsFilled.step (hg : g.Faithful held) (hop : s.op.OutputsFilled)
    (h : OutputsFilled held k) : OutputsFilled held (Keeper.step g k s).2 := by
  by_cases hload : s.op = .load
  · rw [step_of_load hload]
    exact h.load (hg.failing s.fault) s.now
  · have hfiled : ∀ id c,
        ((Keeper.step g k s).2.inventory.entries.get? id).bind (·.captured) = some c →
        c.text ≠ "" := by
      intro id c hc
      rw [get?_step hload] at hc
      exact Operation.outputsFilled_entryAt hop (h.filed id) hc
    refine ⟨hfiled, fun id c hc => ?_⟩
    rcases held_step hg hload with hold | hnew
    · rw [hold] at hc
      exact h.lasts id c hc
    · rw [hnew, Inventory.get?_saved_captures] at hc
      exact hfiled id c hc

/-- In a run that starts with a load, in which every save goes well and no scan lists a session
twice on one node, the gateway holds the notes of the entries exactly, and their outputs up to
blank ones that no entry holds any more.  The same comes back where the keeper is started anew.
Nothing lags if no output is blank. -/
theorem lag_of_run (hg : g.Faithful held) (capacity : Nat) (state : σ)
    (hempty : ∀ id, (held state).notes.get? id ≠ some "") (loaded : Loaded)
    (hload : (g.load state).1 = .ok loaded) (started : Instant) (steps : List Step)
    (hlists : ∀ s ∈ steps, s.op.ListsOnce)
    (hsaved : AllSaved g ((fresh capacity state).load g started) steps) :
    let k := run g ((fresh capacity state).load g started) steps
    (held k.state).UpToBlanks k.inventory.saved
    ∧ (∀ capacity' now loaded', (g.load k.state).1 = .ok loaded' →
        ((fresh capacity' k.state).load g now).inventory.saved.UpToBlanks k.inventory.saved)
    ∧ ((∀ id c, (held state).captures.get? id = some c → c.text ≠ "") →
        (∀ s ∈ steps, s.op.OutputsFilled) → held k.state = k.inventory.saved) := by
  intro k
  have hstart : (held ((fresh capacity state).load g started).state).UpToBlanks
      ((fresh capacity state).load g started).inventory.saved := by
    rw [saved_load_fresh hg hload hempty, load_state, hg.held_load]
    exact Saved.UpToBlanks.refl _
  have hk : (held k.state).UpToBlanks k.inventory.saved := upToBlanks_run hg hlists hsaved hstart
  refine ⟨hk, fun capacity' now loaded' hload' => ?_, fun hblank hops => ?_⟩
  · have hempty' : ∀ id, (held k.state).notes.get? id ≠ some "" := by
      intro id
      rw [hk.notes]
      exact Inventory.saved_note_ne_empty _ id
    rw [saved_load_fresh hg hload' hempty']
    exact hk
  · have hfresh : OutputsFilled held (fresh capacity state) := ⟨nofun, hblank⟩
    have hrun : OutputsFilled held k :=
      run_induction (fun _ s hs h => h.step hg (hops s hs)) (hfresh.load hg started)
    exact hk.eq hrun.lasts

/-- A session with a note and one with a blank output are gone.  The gateway holds the note that
the keeper holds, and the blank output that it holds no more. -/
theorem lag_of_run_with_note :
    let listing : Findings :=
      ⟨[⟨"n1", none⟩],
        .ofList [("n1", ⟨[⟨"train", none, true⟩, ⟨"eval", none, false⟩], .ofList [("train", "")]⟩)],
        [], ⟨1, 0⟩⟩
    let gone : Findings := ⟨[], .empty, [], ⟨3, 0⟩⟩
    let steps : List Step :=
      [⟨.merge listing, ⟨1, 0⟩, none⟩, ⟨.setNote ⟨"n1", "eval"⟩ "run A", ⟨2, 0⟩, none⟩,
        ⟨.merge gone, ⟨3, 0⟩, none⟩]
    let start := (fresh 5 {}).load Saved.gateway ⟨0, 0⟩
    let k := run Saved.gateway start steps
    (∀ id, ({} : Saved).notes.get? id ≠ some "")
    ∧ (∀ s ∈ steps, s.op.ListsOnce)
    ∧ AllSaved Saved.gateway start steps
    ∧ k.state.UpToBlanks k.inventory.saved
    ∧ k.state.notes.entries = [(⟨"n1", "eval"⟩, "run A")] := by
  intro listing gone steps start k
  have hempty : ∀ id, ({} : Saved).notes.get? id ≠ some "" := fun _ => nofun
  have hlists : ∀ s ∈ steps, s.op.ListsOnce := by decide +kernel
  have hsaved : AllSaved Saved.gateway start steps :=
    allSaved_of_steady Saved.gateway_steady (by decide) start
  obtain ⟨hlag, -, -⟩ := lag_of_run Saved.gateway_faithful 5 {} hempty { ({} : Saved) with } rfl
    ⟨0, 0⟩ steps hlists hsaved
  exact ⟨hempty, hlists, hsaved, hlag, by decide +kernel⟩

/-- The gateway goes on holding the blank output of a session that was dropped by a scan, and
brings the session back when the keeper is started anew. -/
theorem blank_output_outlasts_entry :
    let id : Identity := ⟨"n1", "train"⟩
    let listing : Findings :=
      ⟨[⟨"n1", none⟩], .ofList [("n1", ⟨[⟨"train", none, true⟩], .empty⟩)], [], ⟨1, 0⟩⟩
    let gone : Findings := ⟨[⟨"n1", none⟩], .ofList [("n1", ⟨[], .empty⟩)], [], ⟨3, 0⟩⟩
    let steps : List Step :=
      [⟨.merge listing, ⟨1, 0⟩, none⟩, ⟨.setCapture id ⟨"", ⟨2, 0⟩⟩, ⟨2, 0⟩, none⟩,
        ⟨.merge gone, ⟨3, 0⟩, none⟩]
    let start := (fresh 5 {}).load Saved.gateway ⟨0, 0⟩
    let k := run Saved.gateway start steps
    (∀ id, ({} : Saved).notes.get? id ≠ some "")
    ∧ (∀ s ∈ steps, s.op.ListsOnce)
    ∧ AllSaved Saved.gateway start steps
    ∧ k.inventory.entries.get? id = none
    ∧ k.state ≠ k.inventory.saved
    ∧ k.state.captures.get? id = some ⟨"", ⟨2, 0⟩⟩
    ∧ (((fresh 5 k.state).load Saved.gateway ⟨4, 0⟩).inventory.entries.get? id).isSome := by
  intro id listing gone steps start k
  have hlists : ∀ s ∈ steps, s.op.ListsOnce := by decide +kernel
  have hsaved : AllSaved Saved.gateway start steps :=
    allSaved_of_steady Saved.gateway_steady (by decide) start
  have hdropped : k.inventory.entries.get? id = none := by decide +kernel
  have hheld : k.state.captures.get? id = some ⟨"", ⟨2, 0⟩⟩ := by decide +kernel
  have hback : (((fresh 5 k.state).load Saved.gateway ⟨4, 0⟩).inventory.entries.get? id).isSome := by
    decide +kernel
  refine ⟨fun _ => nofun, hlists, hsaved, hdropped, fun heq => ?_, hheld, hback⟩
  have hnone : k.state.captures.get? id = none := by
    rw [heq, Inventory.get?_saved_captures, hdropped]
    rfl
  rw [hnone] at hheld
  cases hheld

end Keeper

end Roster
