import Mathlib.Data.List.Induction
import Roster.Proofs.Keeper.Lag
import Roster.Proofs.Keeper.Sightings

/-!
# What is left of sessions that are gone

A session that does not run is remembered for its note and its output.  A merge drops an entry that
holds neither, and so does a command that takes away the note.  But an output can be filed that is
blank, and then nobody looks.  A *remnant* is an entry that does not run and holds no user data.

*How remnants come about.*  A scan may take a blank output of a session that it does not list, the
user may file one, and a load may bring one back (`Blanks`).  In each case the entry rests on its
output alone, and the output becomes blank.

*How they go.*  A remnant stays as it is for as long as it is left alone (`Spares`).  The next scan
that does not list the session drops it, like every entry without user data
(`mergeAt_of_not_hasUserData`).

`remnant_of_run_iff` puts both together for runs that may load again at any point.  Where no output
is blank there are no remnants.
-/

namespace Roster

variable {σ : Type}

/-! ## Entries -/

namespace Entry

/-- Nothing but its output keeps the entry. -/
def restsOnOutput (e : Entry) : Bool := !e.isActive && !e.note.any (· != "")

/-- An entry that does not run and holds no user data. -/
def isRemnant (e : Entry) : Bool := !e.isActive && !e.hasUserData

theorem isRemnant_iff {e : Entry} :
    e.isRemnant = true ↔ e.restsOnOutput = true ∧ ∀ c ∈ e.captured, c.text = "" := by
  unfold isRemnant restsOnOutput hasUserData
  cases e.captured with
  | none => simp
  | some c => simp [and_assoc]

/-- An entry with a note that is not empty is no remnant. -/
theorem not_isRemnant_of_note {e : Entry} {note : String} (hnote : note ≠ "")
    (h : e.note = some note) : e.isRemnant = false := by
  simp [isRemnant, hasUserData, h, hnote]

/-- Taking the note off an entry leaves no remnant. -/
theorem not_isRemnant_of_withoutNote {e e' : Entry} (h : e.withoutNote = some e') :
    e'.isRemnant = false := by
  unfold withoutNote at h
  dsimp only at h
  split at h
  next hkept =>
    cases h
    rw [isRemnant, ← Bool.not_or, hkept]
    rfl
  next => cases h

end Entry

/-- The entry rests on an output that is blank. -/
def RestsOnBlank (entry : Option Entry) : Prop :=
  ∃ e c, entry = some e ∧ e.restsOnOutput = true ∧ e.captured = some c ∧ c.text = ""

theorem RestsOnBlank.isRemnant {entry : Option Entry} (h : RestsOnBlank entry) :
    ∃ e, entry = some e ∧ e.isRemnant = true := by
  obtain ⟨e, c, he, hrests, hc, hblank⟩ := h
  refine ⟨e, he, Entry.isRemnant_iff.2 ⟨hrests, ?_⟩⟩
  rw [hc]
  rintro _ ⟨⟩
  exact hblank

/-! ## One operation -/

namespace Operation

/-- The operation does not touch what is filed under the identity. -/
def Spares (id : Identity) : Operation → Prop
  | .merge _ | .load => False
  | .setNote key _ | .deleteNote key | .setCapture key _ | .forget key => key ≠ id
  | .addIncident _ | .flush => True

/-- The operation makes the output blank on which an entry rests. -/
def Blanks (id : Identity) (prior : Option Entry) : Operation → Prop
  | .merge f => (∀ s, ¬ f.Lists id s) ∧ Inventory.outputAt f id = some ""
      ∧ ∃ e ∈ prior, e.retired.restsOnOutput = true ∧ e.hasUserData = true
  | .setCapture key c => key = id ∧ c.text = "" ∧ ∃ e ∈ prior, e.restsOnOutput = true
  | .load | .setNote .. | .deleteNote _ | .forget _ | .addIncident _ | .flush => False

variable {op : Operation} {id : Identity} {prior : Option Entry}

theorem ne_load_of_spares (h : op.Spares id) : op ≠ .load := by
  rintro rfl
  exact h

theorem ne_load_of_blanks (h : op.Blanks id prior) : op ≠ .load := by
  rintro rfl
  exact h

theorem entryAt_of_spares (h : op.Spares id) : op.entryAt id prior = prior := by
  cases op with
  | load => cases h
  | merge f => cases h
  | setNote key text => exact if_neg (Ne.symm h)
  | deleteNote key => exact if_neg (Ne.symm h)
  | setCapture key c => exact if_neg (Ne.symm h)
  | forget key => exact if_neg (Ne.symm h)
  | addIncident e => rfl
  | flush => rfl

end Operation

namespace Inventory

variable {f : Findings} {id : Identity} {prior : Option Entry}

/-- A scan that does not list a session leaves what stays of its entry, with the output taken. -/
theorem mergeAt_of_not_lists (h : ∀ s, ¬ f.Lists id s) :
    mergeAt f id prior = (unseen prior).map (withOutput f.completedAt (outputAt f id)) := by
  have hl : listedAt f id = [] := by
    refine List.eq_nil_iff_forall_not_mem.2 fun s hs => ?_
    exact h s (mem_listedAt.1 hs)
  rw [mergeAt, sessionAt, hl]

/-- An entry without user data is dropped by a scan that does not list it. -/
theorem mergeAt_of_not_hasUserData (h : ∀ s, ¬ f.Lists id s)
    (hprior : ∀ e ∈ prior, e.hasUserData = false) : mergeAt f id prior = none := by
  rw [mergeAt_of_not_lists h]
  cases prior with
  | none => rfl
  | some e =>
      have hdata : e.retired.hasUserData = false := hprior e rfl
      simp [unseen, Option.filter, hdata]

/-- A scan leaves a remnant only if it took a blank output of a session that it does not list, and
found user data there. -/
theorem blank_of_mergeAt {e : Entry} (he : mergeAt f id prior = some e)
    (hremnant : e.isRemnant = true) :
    (∀ s, ¬ f.Lists id s) ∧ outputAt f id = some ""
      ∧ ∃ d ∈ prior, d.retired.restsOnOutput = true ∧ d.hasUserData = true := by
  obtain ⟨hrests, hblank⟩ := Entry.isRemnant_iff.1 hremnant
  have hlists : ∀ s, ¬ f.Lists id s := by
    intro s hs
    have hrunning := (isActive_mergeAt_iff prior).2 ⟨s, hs⟩
    rw [he, Option.any_some] at hrunning
    rw [Entry.restsOnOutput, hrunning] at hrests
    cases hrests
  rw [mergeAt_of_not_lists hlists] at he
  obtain ⟨d', hd', rfl⟩ := Option.map_eq_some_iff.1 he
  obtain ⟨hold, hdata⟩ := Option.filter_eq_some_iff.1 hd'
  obtain ⟨d, rfl, rfl⟩ := Option.map_eq_some_iff.1 hold
  cases houtput : outputAt f id with
  | none =>
      -- the output of before is still there, and it is user data
      rw [houtput, withOutput_none, Entry.isRemnant, id_eq, hdata, Bool.not_true,
        Bool.and_false] at hremnant
      cases hremnant
  | some text =>
      rw [houtput] at hblank
      obtain rfl : text = "" := hblank ⟨text, f.completedAt⟩ rfl
      exact ⟨hlists, rfl, d, rfl, hrests, hdata⟩

end Inventory

namespace Operation

variable {op : Operation} {id : Identity} {prior : Option Entry}

theorem restsOnBlank_of_blanks (h : op.Blanks id prior) : RestsOnBlank (op.entryAt id prior) := by
  cases op with
  | merge f =>
      obtain ⟨hlists, houtput, e, rfl, hrests, hdata⟩ := h
      have hdata' : e.retired.hasUserData = true := hdata
      refine ⟨Inventory.withOutput f.completedAt (some "") e.retired, ⟨"", f.completedAt⟩, ?_,
        hrests, rfl, rfl⟩
      rw [entryAt, Inventory.mergeAt_of_not_lists hlists, houtput]
      simp [Inventory.unseen, Option.filter, hdata']
  | setCapture key c =>
      obtain ⟨rfl, hblank, e, rfl, hrests⟩ := h
      exact ⟨{ e with captured := some c }, c, if_pos rfl, hrests, rfl, hblank⟩
  | load => cases h
  | setNote _ _ => cases h
  | deleteNote _ => cases h
  | forget _ => cases h
  | addIncident _ => cases h
  | flush => cases h

/-- An operation leaves a remnant only if it makes it one, or finds it and leaves it alone. -/
theorem blanks_or_spares (hload : op ≠ .load) {e : Entry} (he : op.entryAt id prior = some e)
    (hremnant : e.isRemnant = true) : op.Blanks id prior ∨ (op.Spares id ∧ prior = some e) := by
  cases op with
  | load => exact absurd rfl hload
  | merge f =>
      exact Or.inl (Inventory.blank_of_mergeAt he hremnant)
  | setNote key text =>
      simp only [entryAt] at he
      by_cases hk : id = key
      · rw [if_pos hk] at he
        obtain ⟨d, rfl, hd⟩ := Option.bind_eq_some_iff.1 he
        by_cases ht : Text.trim text = ""
        · rw [if_pos ht] at hd
          rw [Entry.not_isRemnant_of_withoutNote hd] at hremnant
          cases hremnant
        · rw [if_neg ht] at hd
          cases hd
          rw [Entry.not_isRemnant_of_note ht rfl] at hremnant
          cases hremnant
      · rw [if_neg hk] at he
        exact Or.inr ⟨Ne.symm hk, he⟩
  | deleteNote key =>
      simp only [entryAt] at he
      by_cases hk : id = key
      · rw [if_pos hk] at he
        obtain ⟨d, rfl, hd⟩ := Option.bind_eq_some_iff.1 he
        rw [Entry.not_isRemnant_of_withoutNote hd] at hremnant
        cases hremnant
      · rw [if_neg hk] at he
        exact Or.inr ⟨Ne.symm hk, he⟩
  | setCapture key c =>
      simp only [entryAt] at he
      by_cases hk : id = key
      · rw [if_pos hk] at he
        obtain ⟨d, rfl, rfl⟩ := Option.map_eq_some_iff.1 he
        obtain ⟨hrests, hblank⟩ := Entry.isRemnant_iff.1 hremnant
        exact Or.inl ⟨hk.symm, hblank c rfl, d, rfl, hrests⟩
      · rw [if_neg hk] at he
        exact Or.inr ⟨Ne.symm hk, he⟩
  | forget key =>
      simp only [entryAt] at he
      by_cases hk : id = key
      · rw [if_pos hk] at he
        obtain ⟨-, hactive⟩ := Option.filter_eq_some_iff.1 he
        rw [Entry.isRemnant, hactive] at hremnant
        cases hremnant
      · rw [if_neg hk] at he
        exact Or.inr ⟨Ne.symm hk, he⟩
  | addIncident _ => exact Or.inr ⟨trivial, he⟩
  | flush => exact Or.inr ⟨trivial, he⟩

end Operation

namespace Keeper

variable {g : Gateway σ} {held : σ → Saved} {id : Identity} {k : Keeper σ} {s : Step}

/-! ## Steps -/

/-- The step leaves alone what is filed under the identity.  A load does so if nothing was saved
there, or if it fails. -/
def Spares (g : Gateway σ) (id : Identity) (k : Keeper σ) (s : Step) : Prop :=
  s.op.Spares id
    ∨ (s.op = .load ∧ ∀ loaded, (g.load k.state).1 = .ok loaded →
        loaded.notes.get? id = none ∧ loaded.captures.get? id = none)

/-- The step makes the output blank on which an entry rests, or brings back such an entry. -/
def Blanks (g : Gateway σ) (id : Identity) (k : Keeper σ) (s : Step) : Prop :=
  s.op.Blanks id (k.inventory.entries.get? id)
    ∨ (s.op = .load ∧ ∃ loaded c, (g.load k.state).1 = .ok loaded
        ∧ loaded.notes.get? id = none ∧ loaded.captures.get? id = some c ∧ c.text = ""
        ∧ ∀ e ∈ k.inventory.entries.get? id, e.restsOnOutput = true)

theorem get?_step_of_spares (h : Spares g id k s) :
    (step g k s).2.inventory.entries.get? id = k.inventory.entries.get? id := by
  rcases h with hop | ⟨hload, hnothing⟩
  · rw [get?_step (Operation.ne_load_of_spares hop), Operation.entryAt_of_spares hop]
  · rw [step_of_load hload]
    rw [← g.load_failing s.fault] at hnothing
    cases hl : ((g.failing s.fault).load k.state).1 with
    | error fault => rw [load_entries_of_error hl]
    | ok loaded =>
        obtain ⟨hnote, hcapture⟩ := hnothing loaded hl
        rw [get?_load_of_ok hl, hnote, hcapture]
        rfl

theorem restsOnBlank_step (h : Blanks g id k s) :
    RestsOnBlank ((step g k s).2.inventory.entries.get? id) := by
  rcases h with hop | ⟨hload, loaded, c, hl, hnote, hcapture, hblank, hrests⟩
  · rw [get?_step (Operation.ne_load_of_blanks hop)]
    exact Operation.restsOnBlank_of_blanks hop
  · rw [← g.load_failing s.fault] at hl
    rw [step_of_load hload, get?_load_of_ok hl, hnote, hcapture]
    cases hprior : k.inventory.entries.get? id with
    | none => exact ⟨_, c, rfl, rfl, rfl, hblank⟩
    | some e => exact ⟨_, c, rfl, hrests e hprior, rfl, hblank⟩

/-- A step leaves a remnant only if it makes it one, or finds it and leaves it alone. -/
theorem blanks_or_spares_step (hg : g.Faithful held) (hk : NotesFilled held k) {e : Entry}
    (he : (step g k s).2.inventory.entries.get? id = some e) (hremnant : e.isRemnant = true) :
    Blanks g id k s ∨ (Spares g id k s ∧ k.inventory.entries.get? id = some e) := by
  by_cases hload : s.op = .load
  · rw [step_of_load hload] at he
    unfold Blanks Spares
    rw [← g.load_failing s.fault]
    cases hl : ((g.failing s.fault).load k.state).1 with
    | error fault =>
        rw [load_entries_of_error hl] at he
        exact Or.inr ⟨Or.inr ⟨hload, nofun⟩, he⟩
    | ok loaded =>
        rw [get?_load_of_ok hl] at he
        cases hnote : loaded.notes.get? id with
        | some note =>
            have hfilled : note ≠ "" := by
              rintro rfl
              apply hk.lasts id
              rw [← (hg.failing s.fault).toSaved_of_load hl]
              exact hnote
            have hfiled := Inventory.note_loadedAt (k.inventory.entries.get? id)
              (loaded.notes.get? id) (loaded.captures.get? id)
            rw [he, hnote] at hfiled
            rw [Entry.not_isRemnant_of_note hfilled hfiled] at hremnant
            cases hremnant
        | none =>
            rw [hnote] at he
            cases hcapture : loaded.captures.get? id with
            | none =>
                rw [hcapture] at he
                refine Or.inr ⟨Or.inr ⟨hload, ?_⟩, he⟩
                rintro _ ⟨⟩
                exact ⟨hnote, hcapture⟩
            | some c =>
                rw [hcapture] at he
                cases he
                obtain ⟨hrests, hblank⟩ := Entry.isRemnant_iff.1 hremnant
                refine Or.inl (Or.inr ⟨hload, loaded, c, rfl, hnote, hcapture, hblank c rfl, ?_⟩)
                intro d hd
                rw [hd] at hrests
                exact hrests
  · rw [get?_step hload] at he
    rcases Operation.blanks_or_spares hload he hremnant with hblanks | ⟨hspares, hprior⟩
    · exact Or.inl (Or.inl hblanks)
    · exact Or.inr ⟨Or.inl hspares, hprior⟩

/-! ## Runs -/

/-- Every step of a run leaves alone what is filed under the identity. -/
def AllSpare (g : Gateway σ) (id : Identity) : Keeper σ → List Step → Prop
  | _, [] => True
  | k, s :: rest => Spares g id k s ∧ AllSpare g id (step g k s).2 rest

theorem allSpare_concat {steps : List Step} (h : AllSpare g id k steps)
    (hs : Spares g id (run g k steps) s) : AllSpare g id k (steps ++ [s]) := by
  induction steps generalizing k with
  | nil => exact ⟨hs, trivial⟩
  | cons t rest ih => exact ⟨h.1, ih h.2 hs⟩

theorem get?_run_of_allSpare {steps : List Step} (h : AllSpare g id k steps) :
    (run g k steps).inventory.entries.get? id = k.inventory.entries.get? id := by
  induction steps generalizing k with
  | nil => rfl
  | cons s rest ih => rw [run_cons, ih h.2, get?_step_of_spares h.1]

/-- In the run there is a step that makes an output blank on which an entry rests, and from then on
the entry is left alone. -/
def BlankedIn (g : Gateway σ) (id : Identity) (k : Keeper σ) (steps : List Step) : Prop :=
  ∃ before s after, steps = before ++ s :: after ∧ Blanks g id (run g k before) s
    ∧ AllSpare g id (step g (run g k before) s).2 after

theorem restsOnBlank_run {steps : List Step} (h : BlankedIn g id k steps) :
    RestsOnBlank ((run g k steps).inventory.entries.get? id) := by
  obtain ⟨before, s, after, rfl, hblanks, hspare⟩ := h
  rw [run_append, run_cons, get?_run_of_allSpare hspare]
  exact restsOnBlank_step hblanks

/-- A remnant that a run leaves goes back to a step that made it one, if there was none before. -/
theorem blankedIn_of_isRemnant (hg : g.Faithful held) (hk : NotesFilled held k)
    (hnone : k.inventory.entries.get? id = none) {steps : List Step} {e : Entry}
    (he : (run g k steps).inventory.entries.get? id = some e) (hremnant : e.isRemnant = true) :
    BlankedIn g id k steps := by
  induction steps using List.reverseRecOn with
  | nil =>
      rw [run, List.foldl_nil, hnone] at he
      cases he
  | append_singleton steps s ih =>
      rw [run_append] at he
      have hfilled : NotesFilled held (run g k steps) := run_induction (fun _ _ _ h => h.step hg) hk
      rcases blanks_or_spares_step hg hfilled he hremnant with hblanks | ⟨hspares, hold⟩
      · exact ⟨steps, s, [], rfl, hblanks, trivial⟩
      · obtain ⟨before, t, after, rfl, hblanks, hspare⟩ := ih hold
        rw [run_append, run_cons] at hspares
        exact ⟨before, t, after ++ [s], by simp, hblanks, allSpare_concat hspare hspares⟩

/-- At each point of a run, the sessions that do not run are shown because of a note that is not
empty or because of an output, and where this output is blank they are remnants.  The run may load
at any point, from a gateway that holds no empty note, and leaves the gateway so.

* A session is shown as a remnant if and only if some step made the output blank on which its entry
  rests, and no step since has touched the entry.
* Who has no user data, running or not, is shown no more after the next scan that does not list it.
* Where no output is blank there are no remnants: who does not run has user data. -/
theorem remnant_of_run_iff (hg : g.Faithful held) (capacity : Nat) (state : σ)
    (hempty : ∀ id, (held state).notes.get? id ≠ some "") (steps : List Step) :
    let start := fresh capacity state
    let k := run g start steps
    (∀ r ∈ k.view.records, r.status = .stale → r.hasUserData = false →
      ∃ c, r.captured = some c ∧ c.text = "")
    ∧ (∀ id, (∃ r ∈ k.view.records,
          r.identity = id ∧ r.status = .stale ∧ r.hasUserData = false) ↔ BlankedIn g id start steps)
    ∧ (∀ r ∈ k.view.records, r.hasUserData = false →
        ∀ (f : Findings) (now : Instant) (fault : Option StateFault),
          (∀ s, ¬ f.Lists r.identity s) →
          ∀ r' ∈ (step g k ⟨.merge f, now, fault⟩).2.view.records, r'.identity ≠ r.identity)
    ∧ ((∀ id c, (held state).captures.get? id = some c → c.text ≠ "") →
        (∀ s ∈ steps, s.op.OutputsFilled) →
        ∀ r ∈ k.view.records, r.status = .stale → r.hasUserData = true)
    ∧ ∀ id, (held k.state).notes.get? id ≠ some "" := by
  intro start k
  have hfresh : NotesFilled held start := ⟨fun _ h => (by cases h), hempty⟩
  have hfilled : NotesFilled held k := run_induction (fun _ _ _ h => h.step hg) hfresh
  have hshown : k.view = k.inventory.view := shown_run g capacity state steps
  have hremnant : ∀ r ∈ k.view.records, r.status = .stale → r.hasUserData = false →
      k.inventory.entries.get? r.identity = some r.toEntry ∧ r.isRemnant = true := by
    intro r hr hstale hdata
    rw [hshown] at hr
    refine ⟨Inventory.mem_view_iff.1 hr, ?_⟩
    rw [Entry.isRemnant, hdata, Entry.isActive, hstale]
    rfl
  have horigin : ∀ r ∈ k.view.records, r.status = .stale → r.hasUserData = false →
      BlankedIn g r.identity start steps := by
    intro r hr hstale hdata
    obtain ⟨hfiled, hrem⟩ := hremnant r hr hstale hdata
    exact blankedIn_of_isRemnant hg hfresh rfl hfiled hrem
  have hblank : ∀ r ∈ k.view.records, r.status = .stale → r.hasUserData = false →
      ∃ c, r.captured = some c ∧ c.text = "" := by
    intro r hr hstale hdata
    obtain ⟨e, c, he, -, hc, hempty⟩ := restsOnBlank_run (horigin r hr hstale hdata)
    obtain ⟨hfiled, -⟩ := hremnant r hr hstale hdata
    rw [hfiled] at he
    cases he
    exact ⟨c, hc, hempty⟩
  refine ⟨hblank, fun id => ⟨?_, fun h => ?_⟩, ?_, ?_, hfilled.lasts⟩
  · rintro ⟨r, hr, rfl, hstale, hdata⟩
    exact horigin r hr hstale hdata
  · obtain ⟨e, he, hrem⟩ := (restsOnBlank_run h).isRemnant
    rw [Entry.isRemnant, Bool.and_eq_true, Bool.not_eq_true', Bool.not_eq_true'] at hrem
    refine ⟨Inventory.recordOf id e, ?_, rfl, ?_, hrem.2⟩
    · rw [hshown]
      exact Inventory.mem_view_iff.2 he
    · cases hstatus : e.status with
      | stale => exact hstatus
      | active =>
          rw [Entry.isActive, hstatus] at hrem
          cases hrem.1
  · intro r hr hdata f now fault hlists r' hr' hid
    rw [hshown, Inventory.mem_view_iff] at hr
    rw [shown_step hshown, Inventory.mem_view_iff, hid, get?_step Operation.noConfusion] at hr'
    have hdropped : Inventory.mergeAt f r.identity (k.inventory.entries.get? r.identity) = none := by
      apply Inventory.mergeAt_of_not_hasUserData hlists
      rw [hr]
      rintro _ ⟨⟩
      exact hdata
    cases hdropped.symm.trans hr'
  · intro hheld hops r hr hstale
    have hstart : OutputsFilled held start := ⟨fun _ _ h => (by cases h), hheld⟩
    have houtputs : OutputsFilled held k :=
      run_induction (fun _ s hs h => h.step hg (hops s hs)) hstart
    rw [← Bool.not_eq_false]
    intro hdata
    obtain ⟨c, hc, hempty⟩ := hblank r hr hstale hdata
    obtain ⟨hfiled, -⟩ := hremnant r hr hstale hdata
    refine houtputs.filed r.identity c ?_ hempty
    rw [hfiled]
    exact hc

/-- A session is gone, and a blank output is filed for it.  It is shown as a remnant after a flush
and an incident that leave it alone, and no more after the next scan. -/
theorem remnant_of_run_iff_flushed :
    let id : Identity := ⟨"n1", "train"⟩
    let listing : Findings :=
      ⟨[⟨"n1", none⟩], .ofList [("n1", ⟨[⟨"train", none, true⟩], .ofList [("train", "epoch 1")]⟩)],
        [], ⟨1, 0⟩⟩
    let gone : Findings := ⟨[⟨"n1", none⟩], .ofList [("n1", ⟨[], .empty⟩)], [], ⟨2, 0⟩⟩
    let before : List Step :=
      [⟨.load, ⟨0, 0⟩, none⟩, ⟨.merge listing, ⟨1, 0⟩, none⟩, ⟨.merge gone, ⟨2, 0⟩, none⟩]
    let blank : Step := ⟨.setCapture id ⟨"", ⟨3, 0⟩⟩, ⟨3, 0⟩, none⟩
    let after : List Step :=
      [⟨.flush, ⟨4, 0⟩, some (.unreadable "notes.json")⟩,
        ⟨.addIncident ⟨.scheduler, none, ⟨5, 0⟩, "no answer"⟩, ⟨5, 0⟩, none⟩]
    let k := run Saved.gateway (fresh 5 {}) (before ++ blank :: after)
    (∀ id, ({} : Saved).notes.get? id ≠ some "")
    ∧ (∃ r ∈ k.view.records, r.identity = id ∧ r.status = .stale ∧ r.hasUserData = false)
    ∧ ∀ r ∈ (step Saved.gateway k ⟨.merge gone, ⟨6, 0⟩, none⟩).2.view.records, r.identity ≠ id := by
  intro id listing gone before blank after k
  have hempty : ∀ id, ({} : Saved).notes.get? id ≠ some "" := fun _ => nofun
  obtain ⟨-, hiff, hdropped, -⟩ :=
    remnant_of_run_iff Saved.gateway_faithful 5 {} hempty (before ++ blank :: after)
  have hprior : (run Saved.gateway (fresh 5 {}) before).inventory.entries.get? id =
      some ⟨none, false, .stale, some ⟨1, 0⟩, none, some ⟨"epoch 1", ⟨1, 0⟩⟩⟩ := by decide +kernel
  have hblanks : Blanks Saved.gateway id (run Saved.gateway (fresh 5 {}) before) blank :=
    Or.inl ⟨rfl, rfl, _, hprior, rfl⟩
  have hshown := (hiff id).2 ⟨before, blank, after, rfl, hblanks, Or.inl trivial, Or.inl trivial,
    trivial⟩
  obtain ⟨r, hr, hid, hstale, hdata⟩ := hshown
  have hlists : ∀ s, ¬ gone.Lists r.identity s := by
    intro s hs
    rw [hid, ← Inventory.mem_listedAt] at hs
    have hl : Inventory.listedAt gone id = [] := by decide +kernel
    rw [hl] at hs
    cases hs
  refine ⟨hempty, ⟨r, hr, hid, hstale, hdata⟩, ?_⟩
  rw [← hid]
  exact hdropped r hr hdata gone ⟨6, 0⟩ none hlists

/-- It is not so that who does not run has user data.  A blank output takes the place of the last one
of a session that is gone.  And a blank output of a session that still runs is saved, and brought
back by a keeper that is started anew. -/
theorem blank_output_leaves_remnant :
    let id : Identity := ⟨"n1", "train"⟩
    let listing : Findings :=
      ⟨[⟨"n1", none⟩], .ofList [("n1", ⟨[⟨"train", none, true⟩], .ofList [("train", "epoch 1")]⟩)],
        [], ⟨1, 0⟩⟩
    let gone : Findings := ⟨[⟨"n1", none⟩], .ofList [("n1", ⟨[], .empty⟩)], [], ⟨2, 0⟩⟩
    let blank : Step := ⟨.setCapture id ⟨"", ⟨3, 0⟩⟩, ⟨3, 0⟩, none⟩
    let k := run Saved.gateway (fresh 5 {})
      [⟨.load, ⟨0, 0⟩, none⟩, ⟨.merge listing, ⟨1, 0⟩, none⟩, ⟨.merge gone, ⟨2, 0⟩, none⟩, blank]
    let earlier := run Saved.gateway (fresh 5 {})
      [⟨.load, ⟨0, 0⟩, none⟩, ⟨.merge listing, ⟨1, 0⟩, none⟩, blank]
    let new := run Saved.gateway (fresh 5 earlier.state) [⟨.load, ⟨4, 0⟩, none⟩]
    (¬ ∀ r ∈ k.view.records, r.status = .stale → r.hasUserData = true)
    ∧ ¬ ∀ r ∈ new.view.records, r.status = .stale → r.hasUserData = true := by
  intro id listing gone blank k earlier new
  have hshown : k.view = k.inventory.view := shown_run _ _ _ _
  have hshown' : new.view = new.inventory.view := shown_run _ _ _ _
  have hfiled : k.inventory.entries.get? id =
      some ⟨none, false, .stale, some ⟨1, 0⟩, none, some ⟨"", ⟨3, 0⟩⟩⟩ := by decide +kernel
  have hfiled' : new.inventory.entries.get? id =
      some ⟨none, false, .stale, none, none, some ⟨"", ⟨3, 0⟩⟩⟩ := by decide +kernel
  constructor
  · intro h
    rw [hshown] at h
    exact absurd (h (Inventory.recordOf id _) (Inventory.mem_view_iff.2 hfiled) rfl) (by decide)
  · intro h
    rw [hshown'] at h
    exact absurd (h (Inventory.recordOf id _) (Inventory.mem_view_iff.2 hfiled') rfl) (by decide)

end Keeper

end Roster
