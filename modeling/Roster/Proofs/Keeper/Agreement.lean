import Roster.Proofs.Keeper.Run

/-!
# Keepers that agree

Two entries *agree* if they tell the same, but for the times of a session that does not run any
more (`Entry.Agrees`), and two keepers agree if the entries under each identity do and both views
are up to date (`Keeper.Agree`).

*User data.*  A scan needs less than agreement.  It makes entries that agree of any two that hold
the same note and output (`SameData`, `agrees_mergeAt`), also of an entry without user data and of
none at all, since an entry that holds no user data is dropped once its session is gone.

*Operations.*  Each operation but a load keeps two keepers in agreement (`Agree.step`), and both
give the same answer if their saves go the same (`answer_congr`).  `Agree.run` and
`Agree.answers_eq` carry this over to runs.
-/

namespace Roster

/-- The entries tell the same, but for the times of a session that does not run. -/
structure Entry.Agrees (d e : Entry) : Prop where
  /-- Both sessions run, or none does. -/
  status : d.status = e.status
  /-- A terminal is attached to both, or to none. -/
  attached : d.attached = e.attached
  /-- The notes are the same. -/
  note : d.note = e.note
  /-- The outputs are the same. -/
  captured : d.captured = e.captured
  /-- Sessions that run were made at the same time. -/
  createdAt : d.isActive = true → d.createdAt = e.createdAt
  /-- Sessions that run were seen at the same time. -/
  lastSeen : d.isActive = true → d.lastSeen = e.lastSeen

/-- What is filed holds the same note and the same output, if any. -/
structure SameData (p q : Option Entry) : Prop where
  /-- The notes are the same. -/
  note : p.bind (·.note) = q.bind (·.note)
  /-- The outputs are the same. -/
  captured : p.bind (·.captured) = q.bind (·.captured)

variable {d e : Entry} {p q : Option Entry}

namespace Entry

theorem Agrees.refl (e : Entry) : e.Agrees e := ⟨rfl, rfl, rfl, rfl, fun _ => rfl, fun _ => rfl⟩

theorem Agrees.isActive (h : d.Agrees e) : d.isActive = e.isActive := by
  show (d.status == .active) = (e.status == .active)
  rw [h.status]

/-- Whether there is user data depends on the note and the output. -/
theorem hasUserData_congr (hnote : d.note = e.note) (hcaptured : d.captured = e.captured) :
    d.hasUserData = e.hasUserData := by
  simp only [hasUserData, hnote, hcaptured]

theorem hasUserData_of_none (hnote : e.note = none) (hcaptured : e.captured = none) :
    e.hasUserData = false := by
  simp [hasUserData, hnote, hcaptured]

end Entry

theorem sameData_of_agrees (h : Option.Rel Entry.Agrees p q) : SameData p q := by
  cases h with
  | none => exact ⟨rfl, rfl⟩
  | some h => exact ⟨h.note, h.captured⟩

theorem isSome_of_agrees (h : Option.Rel Entry.Agrees p q) : p.isSome = q.isSome := by
  cases h <;> rfl

/-! ## Scans -/

namespace Inventory

/-- An entry without note and output is not kept. -/
theorem unseen_of_none (hnote : e.note = none) (hcaptured : e.captured = none) :
    unseen (some e) = none := by
  have hd : e.retired.hasUserData = false := Entry.hasUserData_of_none hnote hcaptured
  simp [unseen, Option.filter, hd]

theorem agrees_unseen (h : SameData p q) : Option.Rel Entry.Agrees (unseen p) (unseen q) := by
  obtain ⟨hnote, hcaptured⟩ := h
  cases p with
  | none =>
      cases q with
      | none => exact .none
      | some e =>
          rw [unseen_of_none hnote.symm hcaptured.symm]
          exact .none
  | some d =>
      cases q with
      | none =>
          rw [unseen_of_none hnote hcaptured]
          exact .none
      | some e =>
          have hd : d.retired.hasUserData = e.retired.hasUserData :=
            Entry.hasUserData_congr hnote hcaptured
          have ha : d.retired.Agrees e.retired :=
            ⟨rfl, rfl, hnote, hcaptured, fun hr => (nomatch hr), fun hr => (nomatch hr)⟩
          cases hu : e.retired.hasUserData with
          | false => simp [unseen, Option.filter, hd, hu]
          | true => simpa [unseen, Option.filter, hd, hu] using ha

theorem seen_congr (h : SameData p q) (time : Instant) (s : Session) :
    seen time s p = seen time s q := by
  simp only [seen, h.note, h.captured]

theorem agrees_sessionAt (h : SameData p q) (f : Findings) (id : Identity) :
    Option.Rel Entry.Agrees (sessionAt f id p) (sessionAt f id q) := by
  unfold sessionAt
  split
  next => exact agrees_unseen h
  next s hl =>
    rw [seen_congr h]
    exact .some (.refl _)
  next => exact .some (.refl _)

theorem agrees_withOutput (h : Option.Rel Entry.Agrees p q) (time : Instant)
    (output : Option String) :
    Option.Rel Entry.Agrees (p.map (withOutput time output)) (q.map (withOutput time output)) := by
  cases h with
  | none => exact .none
  | some ha =>
      have hcaptured := congrArg (output.map fun text => Captured.mk text time).or ha.captured
      exact .some ⟨ha.status, ha.attached, ha.note, hcaptured, ha.createdAt, ha.lastSeen⟩

/-- A scan makes entries that agree of what holds the same note and output. -/
theorem agrees_mergeAt (h : SameData p q) (f : Findings) (id : Identity) :
    Option.Rel Entry.Agrees (mergeAt f id p) (mergeAt f id q) :=
  agrees_withOutput (agrees_sessionAt h f id) f.completedAt (outputAt f id)

end Inventory

/-! ## Operations -/

theorem Entry.Agrees.withoutNote (h : d.Agrees e) :
    Option.Rel Entry.Agrees d.withoutNote e.withoutNote := by
  have hbare : Entry.Agrees { d with note := none } { e with note := none } :=
    ⟨h.status, h.attached, rfl, h.captured, h.createdAt, h.lastSeen⟩
  have hdata := Entry.hasUserData_congr hbare.note hbare.captured
  unfold Entry.withoutNote
  dsimp only
  rw [hbare.isActive, hdata]
  split
  next => exact .some hbare
  next => exact .none

/-- An operation makes entries that agree of entries that agree. -/
theorem Operation.agrees_entryAt (op : Operation) (id : Identity)
    (h : Option.Rel Entry.Agrees p q) :
    Option.Rel Entry.Agrees (op.entryAt id p) (op.entryAt id q) := by
  cases op with
  | load => exact h
  | merge f => exact Inventory.agrees_mergeAt (sameData_of_agrees h) f id
  | setNote key text =>
      simp only [entryAt]
      split
      next =>
        cases h with
        | none => exact .none
        | some ha =>
            simp only [Option.bind_some]
            split
            next => exact ha.withoutNote
            next =>
              exact .some
                ⟨ha.status, ha.attached, rfl, ha.captured, ha.createdAt, ha.lastSeen⟩
      next => exact h
  | deleteNote key =>
      simp only [entryAt]
      split
      next =>
        cases h with
        | none => exact .none
        | some ha => exact ha.withoutNote
      next => exact h
  | setCapture key c =>
      simp only [entryAt]
      split
      next =>
        cases h with
        | none => exact .none
        | some ha =>
            exact .some ⟨ha.status, ha.attached, ha.note, rfl, ha.createdAt, ha.lastSeen⟩
      next => exact h
  | forget key =>
      simp only [entryAt]
      split
      next =>
        cases h with
        | none => exact .none
        | @some d e ha =>
            have hactive := ha.isActive
            cases hd : d.isActive with
            | false => simp [Option.filter, hd, ← hactive]
            | true => simpa [Option.filter, hd, ← hactive] using ha
      next => exact h
  | addIncident _ => exact h
  | flush => exact h

/-- An operation is refused in both of two tables that agree, for the same reason, or in none. -/
theorem Operation.refusal?_congr {s t : Table Identity Entry}
    (h : ∀ id, Option.Rel Entry.Agrees (s.get? id) (t.get? id)) (op : Operation) :
    op.refusal? s = op.refusal? t := by
  have hcontains : ∀ id, s.contains id = t.contains id := fun id => isSome_of_agrees (h id)
  cases op with
  | setNote id _ => simp only [refusal?, hcontains]
  | deleteNote id => simp only [refusal?, hcontains]
  | setCapture id _ => simp only [refusal?, hcontains]
  | forget id =>
      have hid := h id
      simp only [refusal?]
      generalize s.get? id = prior, t.get? id = prior' at hid ⊢
      cases hid with
      | none => rfl
      | some ha => simp only [ha.isActive]
  | load => rfl
  | merge _ => rfl
  | addIncident _ => rfl
  | flush => rfl

/-- A scan files an output in both of two tables that hold the same data, or in none. -/
theorem Inventory.filesCapture_congr {s t : Table Identity Entry}
    (h : ∀ id, SameData (s.get? id) (t.get? id)) (f : Findings) :
    filesCapture s f = filesCapture t f := by
  rw [filesCapture_eq, filesCapture_eq]
  congr 1
  funext c
  exact isSome_of_agrees (agrees_sessionAt (h c.1) f c.1)

/-! ## Keepers -/

namespace Keeper

variable {σ : Type} {g : Gateway σ}

/-- The keepers hold entries that agree, and show them. -/
structure Agree (k l : Keeper σ) : Prop where
  /-- The entries under each identity agree. -/
  entries : ∀ id, Option.Rel Entry.Agrees (k.inventory.entries.get? id)
    (l.inventory.entries.get? id)
  /-- The view of the one is up to date. -/
  shown : k.view = k.inventory.view
  /-- The view of the other is up to date. -/
  shown' : l.view = l.inventory.view

/-- Wherever both keepers save in a run, their saves go the same. -/
def SameSaves (g : Gateway σ) : Keeper σ → Keeper σ → List Step → Prop
  | _, _, [] => True
  | k, l, s :: rest =>
      (k.reachesSave s.op → l.reachesSave s.op → saveOutcome g k s = saveOutcome g l s)
        ∧ SameSaves g (step g k s).2 (step g l s).2 rest

/-- The saves of a steady gateway go the same if they meet the same faults. -/
theorem sameSaves_of_steady (hg : g.Steady) (steps : List Step)
    (k l : Keeper σ) : SameSaves g k l steps := by
  induction steps generalizing k l with
  | nil => trivial
  | cons s rest ih =>
      refine ⟨fun _ _ => ?_, ih _ _⟩
      show ((g.failing s.fault).save _ _).1 = ((g.failing s.fault).save _ _).1
      rw [hg.save_failing, hg.save_failing]

variable {k l : Keeper σ} {s : Step} {rest : List Step}

/-- A merge brings keepers that hold the same user data into agreement. -/
theorem agree_of_merge (h : ∀ id, SameData (k.inventory.entries.get? id)
      (l.inventory.entries.get? id)) {f : Findings} (hs : s.op = .merge f) :
    Agree (step g k s).2 (step g l s).2 := by
  have hload : s.op ≠ .load := by
    rw [hs]
    exact Operation.noConfusion
  -- a merge is no flush and is never refused, so it always publishes
  have hview : ∀ m : Keeper σ, s.op.refusal? m.inventory.entries ≠ none ∨ s.op = .flush →
      m.view = m.inventory.view := by
    rw [hs]
    rintro m (hr | hf)
    · exact absurd rfl hr
    · cases hf
  constructor
  · intro id
    rw [get?_step hload, get?_step hload, hs]
    exact Inventory.agrees_mergeAt (h id) f id
  · exact view_step hload (hview k)
  · exact view_step hload (hview l)

/-- A step that does not load keeps keepers in agreement. -/
theorem Agree.step (h : Agree k l) (hload : s.op ≠ .load) :
    Agree (Keeper.step g k s).2 (Keeper.step g l s).2 := by
  constructor
  · intro id
    rw [get?_step hload, get?_step hload]
    exact s.op.agrees_entryAt id (h.entries id)
  · exact view_step hload fun _ => h.shown
  · exact view_step hload fun _ => h.shown'

/-- Two keepers give the same answer to a step if they refuse it alike, save alike, and their saves
go the same. -/
theorem answer_congr (hload : s.op ≠ .load)
    (hrefusal : s.op.refusal? k.inventory.entries = s.op.refusal? l.inventory.entries)
    (hsaves : s.op.saves k.inventory.entries = s.op.saves l.inventory.entries)
    (hsame : k.reachesSave s.op → l.reachesSave s.op → saveOutcome g k s = saveOutcome g l s) :
    (step g k s).1 = (step g l s).1 := by
  rw [answer_step hload, answer_step hload, hrefusal, hsaves]
  split
  next => rfl
  next hr =>
    split
    next hs =>
      have hl : l.reachesSave s.op := by simp [reachesSave, hr, hs]
      have hk : k.reachesSave s.op := by simp [reachesSave, hrefusal, hsaves, hr, hs]
      rw [hsame hk hl]
    next => rfl

/-- Whether an operation saves is the same for tables that hold the same data. -/
theorem saves_congr (h : ∀ id, SameData (k.inventory.entries.get? id)
      (l.inventory.entries.get? id)) (op : Operation) :
    op.saves k.inventory.entries = op.saves l.inventory.entries := by
  cases op with
  | merge f => exact Inventory.filesCapture_congr h f
  | load => rfl
  | setNote _ _ => rfl
  | deleteNote _ => rfl
  | setCapture _ _ => rfl
  | forget _ => rfl
  | addIncident _ => rfl
  | flush => rfl

/-- Keepers in agreement stay so in a run without loads. -/
theorem Agree.run (h : Agree k l) (hload : ∀ s ∈ rest, s.op ≠ .load) :
    Agree (Keeper.run g k rest) (Keeper.run g l rest) := by
  induction rest generalizing k l with
  | nil => exact h
  | cons s rest ih =>
      have hs : Agree (Keeper.step g k s).2 (Keeper.step g l s).2 :=
        h.step (hload s List.mem_cons_self)
      rw [run_cons, run_cons]
      exact ih hs fun s' hs' => hload s' (List.mem_cons_of_mem _ hs')

/-- Keepers in agreement give the same answers in a run without loads in which their saves go the
same. -/
theorem Agree.answers_eq (h : Agree k l) (hload : ∀ s ∈ rest, s.op ≠ .load)
    (hsame : SameSaves g k l rest) : answers g k rest = answers g l rest := by
  induction rest generalizing k l with
  | nil => rfl
  | cons s rest ih =>
      obtain ⟨hsave, hrest⟩ := hsame
      have hs := hload s List.mem_cons_self
      have hanswer : (Keeper.step g k s).1 = (Keeper.step g l s).1 :=
        answer_congr hs (Operation.refusal?_congr h.entries s.op)
          (saves_congr (fun id => sameData_of_agrees (h.entries id)) s.op) hsave
      have htail := ih (h.step hs) (fun s' hs' => hload s' (List.mem_cons_of_mem _ hs')) hrest
      simp only [answers, hanswer, htail]

end Keeper

end Roster
