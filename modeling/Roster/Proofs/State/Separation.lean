import Mathlib.Data.List.Forall2
import Roster.Proofs.Disk.Agreement
import Roster.Proofs.Disk.Paths
import Roster.Proofs.State.Aside

/-!
# Outputs never cost a note

Two states of the files are *alike for the notes* if the same stands at the path of the notes and
beside it, and both have that path locked or neither (`NotesAlike`).  The outputs may be anything.

*Outputs.*  What is loaded or saved of the outputs leads to a state that is alike
(`loadFile_apart`, `saveFile_apart`), whatever their file is and whatever becomes of the operations
on it.

*Notes.*  What is loaded or saved of the notes is the same in two states that are alike, and leads
to two that are alike again (`loadFile_together`, `saveFile_together`).

So in two runs of loads and saves that differ in outputs only, all that is learnt and kept of the
notes is the same (`notes_unharmed`).
-/

namespace Roster.StateFiles

open Disk (Fate FileOp)
open StateText

/-- The directories of both files are there, and the files are unrelated. -/
structure Housed (s : StateFiles) : Prop where
  /-- The notes have a slot. -/
  notes : s.disk.Slot s.notesPath
  /-- The outputs have a slot. -/
  captures : s.disk.Slot s.capturesPath
  /-- What is done for one file leaves the other alone. -/
  unrelated : s.Unrelated

/-- Two states of the files are the same for the notes. -/
structure NotesAlike (s s' : StateFiles) : Prop where
  /-- The notes are in the same file. -/
  notesPath : s'.notesPath = s.notesPath
  /-- The same stands there and beside it. -/
  disk : s.disk.AgreeOn s'.disk (placesOf s.disk s.notesPath)
  /-- The file is locked in both or in neither. -/
  locked : s'.isLocked s.notesPath = s.isLocked s.notesPath

variable {s s' s'' : StateFiles} {places : List Place} {path text : String} {fates : List Fate}

theorem Housed.of_keeps (h : s.Keeps s' places) (hs : s.Housed) : s'.Housed :=
  ⟨h.notesPath ▸ h.disk.slot hs.notes, h.capturesPath ▸ h.disk.slot hs.captures,
    h.unrelated hs.unrelated⟩

namespace NotesAlike

theorem refl (s : StateFiles) : s.NotesAlike s := ⟨rfl, .refl s.disk _, rfl⟩

theorem placesOf (h : s.NotesAlike s') (path : String) :
    StateFiles.placesOf s'.disk path = StateFiles.placesOf s.disk path := by
  simp only [StateFiles.placesOf, h.disk.place]

theorem symm (h : s.NotesAlike s') : s'.NotesAlike s := by
  refine ⟨h.notesPath.symm, ?_, ?_⟩
  · rw [h.placesOf, h.notesPath]
    exact h.disk.symm
  · rw [h.notesPath]
    exact h.locked.symm

theorem trans (h : s.NotesAlike s') (h' : s'.NotesAlike s'') : s.NotesAlike s'' := by
  have hdisk := h'.disk
  have hlocked := h'.locked
  rw [h.placesOf, h.notesPath] at hdisk
  rw [h.notesPath] at hlocked
  exact ⟨h'.notesPath.trans h.notesPath, h.disk.trans hdisk, hlocked.trans h.locked⟩

end NotesAlike

/-! ## Locks -/

theorem same_iff {a b : String} :
    Path.same a b = true ↔ Path.isAbsolute a = Path.isAbsolute b ∧ Path.parts a = Path.parts b := by
  simp [Path.same]

theorem lock_eq (s : StateFiles) (path : String) : ∃ locked, s.lock path = { s with locked } := by
  unfold lock
  split
  next => exact ⟨s.locked, rfl⟩
  next => exact ⟨path :: s.locked, rfl⟩

theorem isLocked_unlock_self (s : StateFiles) (path : String) :
    (s.unlock path).isLocked path = false := by
  simp [isLocked, unlock]

theorem isLocked_lock_self (s : StateFiles) (path : String) :
    (s.lock path).isLocked path = true := by
  unfold lock
  split
  next h => exact h
  next => simp [isLocked, same_iff]

/-- To take the lock off a path says nothing of another. -/
theorem isLocked_unlock_other (s : StateFiles) {path other : String} (h : Path.same other path = false) :
    (s.unlock path).isLocked other = s.isLocked other := by
  have hapart : ∀ p, Path.same other p = true → Path.same path p = false := by
    intro p hp
    rw [Bool.eq_false_iff] at h ⊢
    intro hq
    rw [ne_eq, same_iff] at h
    rw [same_iff] at hp hq
    exact h ⟨hp.1.trans hq.1.symm, hp.2.trans hq.2.symm⟩
  unfold isLocked unlock
  rw [List.any_filter]
  congr 1
  funext p
  cases hp : Path.same other p with
  | false => simp
  | true => simp [hapart p hp]

/-- To lock a path says nothing of another. -/
theorem isLocked_lock_other (s : StateFiles) {path other : String} (h : Path.same other path = false) :
    (s.lock path).isLocked other = s.isLocked other := by
  unfold lock
  split
  next => rfl
  next => simp [isLocked, h]

/-! ## What is done for the outputs -/

/-- The path and what is written beside it are not where the notes are. -/
def Apart (s : StateFiles) (path : String) : Prop :=
  ∀ p ∈ placesOf s.disk path, p ∉ placesOf s.disk s.notesPath

theorem Housed.apart (h : s.Housed) : s.Apart s.capturesPath :=
  fun p hp hmem => h.unrelated p hmem hp

theorem Apart.not_same (h : s.Apart path) : Path.same s.notesPath path = false := by
  rw [Bool.eq_false_iff]
  intro hsame
  refine h (s.disk.place path) (List.mem_cons_self ..) ?_
  rw [← Disk.place_of_same s.disk hsame]
  exact List.mem_cons_self ..

/-- The state after a file is loaded: its path is locked or not, and the file may be moved aside. -/
theorem loadFile_state {α : Type} (decode : String → Option (Table String α)) (s : StateFiles)
    (path : String) :
    (loadFile decode s path).2.2 = s.unlock path ∨ (loadFile decode s path).2.2 = s.lock path
      ∨ ∃ disk, s.disk.moveFile path (corruptPath path) = .ok disk
        ∧ (loadFile decode s path).2.2 = { s with disk }.unlock path := by
  unfold loadFile
  split
  next => exact Or.inl rfl
  next => exact Or.inr (Or.inl rfl)
  next =>
    split
    next => exact Or.inl rfl
    next =>
      split
      next => exact Or.inl rfl
      next =>
        split
        next disk hmove => exact Or.inr (Or.inr ⟨disk, hmove, rfl⟩)
        next => exact Or.inl rfl

/-- A file apart from the notes is loaded without an effect on them. -/
theorem loadFile_apart {α : Type} (decode : String → Option (Table String α))
    (h : s.Apart path) : s.NotesAlike (loadFile decode s path).2.2 := by
  have hsame := h.not_same
  rcases loadFile_state decode s path with hstate | hstate | ⟨disk, hmove, hstate⟩
  · rw [hstate]
    exact ⟨rfl, .refl s.disk _, s.isLocked_unlock_other hsame⟩
  · obtain ⟨locked, hlock⟩ := s.lock_eq path
    have hlocked := s.isLocked_lock_other hsame
    rw [hlock] at hstate hlocked
    rw [hstate]
    exact ⟨rfl, .refl s.disk _, hlocked⟩
  · rw [hstate]
    exact ⟨rfl, Disk.moveFile_agrees hmove (h _ (by simp [placesOf])) (h _ (by simp [placesOf])),
      s.isLocked_unlock_other hsame⟩

/-- The operations that write a file work beside it, and at its places. -/
theorem writeOps_beside {d : Disk} (h : d.Slot path) (text : String) :
    ∀ op ∈ writeOps path text, op.Beside d path ∧ op.places d ⊆ placesOf d path := by
  have htemporary : Path.Sibling path (temporaryPath path) := Path.sibling_append path (by decide)
  intro op hop
  simp only [writeOps, List.mem_append, List.mem_cons, List.not_mem_nil, or_false] at hop
  rcases hop with hop | rfl | rfl
  · split at hop
    next => cases hop
    next above habove =>
      split at hop
      next => cases hop
      next hne =>
        cases List.mem_singleton.1 hop
        exact ⟨h.isDirectory_above habove hne, List.nil_subset _⟩
  · exact ⟨htemporary, by simp [FileOp.places, placesOf]⟩
  · exact ⟨⟨htemporary, .refl path⟩, by simp [FileOp.places, placesOf]⟩

/-- A file apart from the notes is saved without an effect on them. -/
theorem saveFile_apart (h : s.Apart path) (hslot : s.disk.Slot path) (fates : List Fate)
    (text : String) : s.NotesAlike (saveFile fates s path text).2 := by
  have hops : ∀ op ∈ writeOps path text, op.Beside s.disk path
      ∧ ∀ p ∈ op.places s.disk, p ∉ placesOf s.disk s.notesPath := by
    intro op hop
    obtain ⟨hbeside, hplaces⟩ := writeOps_beside hslot text op hop
    exact ⟨hbeside, fun p hp => h p (hplaces hp)⟩
  have hagree : s.disk.AgreeOn (s.disk.attemptAll fates (writeOps path text)).2
      (placesOf s.disk s.notesPath) := Disk.attemptAll_agrees hops
  unfold saveFile
  split
  next => exact .refl s
  next =>
    split
    next heq =>
      rw [heq] at hagree
      exact ⟨rfl, hagree, rfl⟩
    next heq =>
      rw [heq] at hagree
      exact ⟨rfl, hagree, rfl⟩

/-! ## What is done for the notes -/

theorem NotesAlike.unlock (h : s.NotesAlike s') :
    (s.unlock s.notesPath).NotesAlike (s'.unlock s.notesPath) :=
  ⟨h.notesPath, h.disk,
    (isLocked_unlock_self s' s.notesPath).trans (isLocked_unlock_self s s.notesPath).symm⟩

theorem NotesAlike.lock (h : s.NotesAlike s') :
    (s.lock s.notesPath).NotesAlike (s'.lock s.notesPath) := by
  have hlocked := (isLocked_lock_self s' s.notesPath).trans (isLocked_lock_self s s.notesPath).symm
  obtain ⟨locked, hlock⟩ := s.lock_eq s.notesPath
  obtain ⟨locked', hlock'⟩ := s'.lock_eq s.notesPath
  rw [hlock, hlock'] at hlocked ⊢
  exact ⟨h.notesPath, h.disk, hlocked⟩

/-- States that are alike stay so on disks that agree again. -/
theorem NotesAlike.withDisks {d d' : Disk} (h : s.NotesAlike s') (hcwd : d.cwd = s.disk.cwd)
    (hagree : d.AgreeOn d' (StateFiles.placesOf s.disk s.notesPath)) :
    { s with disk := d }.NotesAlike { s' with disk := d' } := by
  refine ⟨h.notesPath, ?_, h.locked⟩
  have hplaces : StateFiles.placesOf d s.notesPath = StateFiles.placesOf s.disk s.notesPath := by
    simp only [StateFiles.placesOf, Disk.place, hcwd]
  exact hplaces ▸ hagree

/-- The notes are loaded in the same way from files that are alike for them. -/
theorem loadFile_together {α : Type} (decode : String → Option (Table String α))
    (h : s.NotesAlike s') (hslot : s.disk.Slot s.notesPath) (hslot' : s'.disk.Slot s.notesPath) :
    (loadFile decode s' s.notesPath).1 = (loadFile decode s s.notesPath).1
      ∧ (loadFile decode s' s.notesPath).2.1 = (loadFile decode s s.notesPath).2.1
      ∧ (loadFile decode s s.notesPath).2.2.NotesAlike (loadFile decode s' s.notesPath).2.2 := by
  have hread : s'.disk.read s.notesPath = s.disk.read s.notesPath :=
    h.disk.read hslot hslot' (List.mem_cons_self ..)
  have hway : ∀ other, Path.Sibling s.notesPath other →
      s'.disk.findLast other = s.disk.findLast other :=
    fun _ hother => Disk.findLast_sibling h.disk.cwd hslot hslot' hother
  have hmove : Disk.Together (placesOf s.disk s.notesPath)
      (s.disk.moveFile s.notesPath (corruptPath s.notesPath))
      (s'.disk.moveFile s.notesPath (corruptPath s.notesPath)) :=
    Disk.moveFile_together (hway _ (.refl _)) (hway _ (Path.sibling_append _ (by decide))) h.disk
      (by simp [placesOf]) (by simp [placesOf])
  unfold loadFile
  rw [hread]
  split
  next => exact ⟨rfl, rfl, h.unlock⟩
  next => exact ⟨rfl, rfl, h.lock⟩
  next =>
    split
    next => exact ⟨rfl, rfl, h.unlock⟩
    next =>
      split
      next => exact ⟨rfl, rfl, h.unlock⟩
      next =>
        generalize hr : s.disk.moveFile s.notesPath (corruptPath s.notesPath) = r,
          s'.disk.moveFile s.notesPath (corruptPath s.notesPath) = r' at hmove
        cases hmove with
        | fail fault => exact ⟨rfl, rfl, h.unlock⟩
        | done hagree => exact ⟨rfl, rfl, (h.withDisks (Disk.moveFile_changes hr).cwd hagree).unlock⟩

/-- The notes are saved in the same way to files that are alike for them. -/
theorem saveFile_together (h : s.NotesAlike s') (hslot : s.disk.Slot s.notesPath)
    (hslot' : s'.disk.Slot s.notesPath) (fates : List Fate) (text : String) :
    (saveFile fates s' s.notesPath text).1 = (saveFile fates s s.notesPath text).1
      ∧ (saveFile fates s s.notesPath text).2.NotesAlike (saveFile fates s' s.notesPath text).2 := by
  have hops : ∀ op ∈ writeOps s.notesPath text, op.Beside s.disk s.notesPath
      ∧ op.Beside s'.disk s.notesPath ∧ op.places s.disk ⊆ placesOf s.disk s.notesPath := by
    intro op hop
    obtain ⟨hbeside, hsub⟩ := writeOps_beside hslot text op hop
    exact ⟨hbeside, (writeOps_beside hslot' text op hop).1, hsub⟩
  have hboth : (s'.disk.attemptAll fates (writeOps s.notesPath text)).1
        = (s.disk.attemptAll fates (writeOps s.notesPath text)).1
      ∧ (s.disk.attemptAll fates (writeOps s.notesPath text)).2.AgreeOn
        (s'.disk.attemptAll fates (writeOps s.notesPath text)).2 (placesOf s.disk s.notesPath) :=
    Disk.attemptAll_together h.disk hslot hslot' hops
  have hcwd : (s.disk.attemptAll fates (writeOps s.notesPath text)).2.cwd = s.disk.cwd :=
    (Disk.attemptAll_changes fun op hop => (hops op hop).2.2).cwd
  unfold saveFile
  rw [h.locked]
  split
  next => exact ⟨rfl, h⟩
  next =>
    generalize s.disk.attemptAll fates (writeOps s.notesPath text) = x,
      s'.disk.attemptAll fates (writeOps s.notesPath text) = x' at hboth hcwd
    obtain ⟨fault, d⟩ := x
    obtain ⟨fault', d'⟩ := x'
    obtain ⟨hfault, hagree⟩ := hboth
    cases hfault
    cases fault with
    | none => exact ⟨rfl, h.withDisks hcwd hagree⟩
    | some fault => exact ⟨rfl, h.withDisks hcwd hagree⟩

/-! ## Both halves -/

/-- The state after the outputs are loaded is alike for the notes. -/
theorem load_notesLoaded (hs : s.Housed) : s.notesLoaded.NotesAlike s.load.2 := by
  rw [s.load_parts.2.2]
  exact loadFile_apart _ (hs.of_keeps s.notesLoaded_keeps).apart

/-- The state after the outputs are saved is alike for the notes. -/
theorem afterSave_notesSaved (hs : s.Housed) (call : SaveCall) :
    (s.notesSaved call).NotesAlike (s.afterSave call) := by
  have hhoused := hs.of_keeps (s.notesSaved_keeps call)
  rw [s.afterSave_eq]
  exact saveFile_apart hhoused.apart hhoused.captures _ _

/-- The warnings about the file of the notes. -/
def noteWarnings (s : StateFiles) : List String :=
  (loadFile (readTable Json.readString) s s.notesPath).2.1
    ++ (notesOf (loadFile (readTable Json.readString) s s.notesPath).1).2

/-- The warnings about the file of the outputs. -/
def captureWarnings (s : StateFiles) : List String :=
  (loadFile (readTable captured) s.notesLoaded s.capturesPath).2.1
    ++ (capturesOf (loadFile (readTable captured) s.notesLoaded s.capturesPath).1).2

/-- A load warns of the notes first, and then of the outputs. -/
theorem warnings_load (s : StateFiles) :
    s.load.1.warnings = s.noteWarnings ++ s.captureWarnings := by
  have hpath : s.notesLoaded.capturesPath = s.capturesPath := s.notesLoaded_keeps.capturesPath
  unfold captureWarnings
  rw [← hpath]
  simp only [load, noteWarnings, notesLoaded, List.append_assoc]

/-! ## Runs -/

/-- An access to the files. -/
inductive Access where
  /-- Both files are loaded. -/
  | load
  /-- Both files are saved. -/
  | save (call : SaveCall)

/-- The files after an access. -/
def after (s : StateFiles) : Access → StateFiles
  | .load => s.load.2
  | .save call => s.afterSave call

/-- What an access tells of the notes. -/
inductive NoteReport where
  /-- The notes that a load brings back, and the warnings about their file. -/
  | loaded (notes : Table Identity String) (warnings : List String)
  /-- What becomes of the notes in a save. -/
  | saved (result : Except StateFault Unit)

/-- What an access tells of the notes. -/
def noteReport (s : StateFiles) : Access → NoteReport
  | .load => .loaded s.load.1.notes s.noteWarnings
  | .save call => .saved (saveFile call.noteFates s s.notesPath (call.text .notes)).1

/-- What stands at the path of the notes and beside it. -/
def noteItems (s : StateFiles) : List (Option Item) :=
  (placesOf s.disk s.notesPath).map s.disk.item?

/-- What each access of a run tells of the notes, and what stands there after it. -/
def noteTrace : StateFiles → List Access → List (NoteReport × List (Option Item))
  | _, [] => []
  | s, a :: rest => (s.noteReport a, (s.after a).noteItems) :: (s.after a).noteTrace rest

/-- Two accesses are the same for the notes. -/
inductive Access.NotesAlike : Access → Access → Prop where
  /-- Both are loads. -/
  | load : NotesAlike .load .load
  /-- Both save the same notes, and the same becomes of the operations on them. -/
  | save {call call' : SaveCall} (fates : call'.noteFates = call.noteFates)
      (notes : call'.saved.notes = call.saved.notes) : NotesAlike (.save call) (.save call')

theorem NotesAlike.noteItems (h : s.NotesAlike s') : s'.noteItems = s.noteItems := by
  unfold StateFiles.noteItems
  rw [h.notesPath, h.placesOf]
  exact List.map_congr_left h.disk.item

theorem Housed.after (hs : s.Housed) (a : Access) : (s.after a).Housed := by
  cases a with
  | load => exact hs.of_keeps s.load_keeps
  | save call => exact hs.of_keeps (s.afterSave_keeps call)

/-- Accesses that are the same for the notes tell the same of them, and lead to files that are alike
again. -/
theorem NotesAlike.after (h : s.NotesAlike s') (hs : s.Housed) (hs' : s'.Housed) {a a' : Access}
    (ha : a.NotesAlike a') :
    s'.noteReport a' = s.noteReport a ∧ (s.after a).NotesAlike (s'.after a') := by
  have hslot' : s'.disk.Slot s.notesPath := h.notesPath ▸ hs'.notes
  cases ha with
  | load =>
      obtain ⟨hnotes, hwarnings, hstate⟩ :=
        loadFile_together (readTable Json.readString) h hs.notes hslot'
      have hloaded : s.notesLoaded.NotesAlike s'.notesLoaded := by
        unfold notesLoaded
        rw [h.notesPath]
        exact hstate
      refine ⟨?_, (load_notesLoaded hs).symm.trans (hloaded.trans (load_notesLoaded hs'))⟩
      simp only [noteReport, s.load_parts.1, s'.load_parts.1, noteWarnings, h.notesPath, hnotes,
        hwarnings]
  | @save call call' hfates hsaved =>
      obtain ⟨hresult, hstate⟩ :=
        saveFile_together h hs.notes hslot' call.noteFates (call.text .notes)
      have htext : call'.text .notes = call.text .notes := by
        simp only [SaveCall.text, hsaved]
      have hnotesSaved : (s.notesSaved call).NotesAlike (s'.notesSaved call') := by
        unfold notesSaved
        rw [h.notesPath, hfates, htext]
        exact hstate
      refine ⟨?_, (afterSave_notesSaved hs call).symm.trans
        (hnotesSaved.trans (afterSave_notesSaved hs' call'))⟩
      simp only [noteReport, h.notesPath, hfates, htext, hresult]

/-- Trouble with the outputs never costs a note: two runs of loads and saves, on files that are
alike for the notes, in which the same notes are saved and the same becomes of the operations on
them, tell the same of the notes and leave the same at their path and beside it after every access,
whatever stands at the path of the outputs and beside it, whatever outputs are saved, and whatever
becomes of the operations on them. -/
theorem notes_unharmed (h : s.NotesAlike s') (hs : s.Housed) (hs' : s'.Housed)
    {accesses accesses' : List Access} (hall : List.Forall₂ Access.NotesAlike accesses accesses') :
    s'.noteTrace accesses' = s.noteTrace accesses := by
  induction hall generalizing s s' with
  | nil => rfl
  | @cons a a' rest rest' ha _ ih =>
      obtain ⟨hreport, hafter⟩ := h.after hs hs' ha
      rw [noteTrace, noteTrace, hreport, hafter.noteItems, ih hafter (hs.after a) (hs'.after a')]

/-- A malformed file of outputs that is moved aside, and a directory in its place with a refused
save, tell the same of the notes. -/
theorem notes_unharmed_by_directory :
    let s : StateFiles :=
      { disk :=
          { items := .ofList [(["notes.json"], .file (.text "\x7b\"n:a\": \"x\"\x7d")),
              (["snaps.json"], .file (.text "\x7bnot json"))] }
        notesPath := "notes.json", capturesPath := "snaps.json" }
    let s' : StateFiles :=
      { disk :=
          { items := .ofList [(["notes.json"], .file (.text "\x7b\"n:a\": \"x\"\x7d")),
              (["snaps.json"], .directory), (["snaps.json.tmp"], .file (.bytes [255]))] }
        notesPath := "notes.json", capturesPath := "snaps.json" }
    let notes : Table Identity String := .ofList [(⟨"n", "b"⟩, "y")]
    let call : SaveCall := { saved := { notes }, valid := nofun }
    let call' : SaveCall :=
      { captureFates := [.refused .denied]
        saved := { notes, captures := .ofList [(⟨"n", "b"⟩, ⟨"$ ", ⟨0, 0⟩⟩)] }
        valid := fun _ _ hget => by
          cases List.mem_singleton.1 (Table.mem_of_get?_ofList hget)
          exact ⟨by decide, by decide, by decide⟩ }
    s.NotesAlike s' ∧ s.Housed ∧ s'.Housed
      ∧ s'.noteTrace [.load, .save call', .load] = s.noteTrace [.load, .save call, .load] := by
  intro s s' notes call call'
  have hs : s.Housed :=
    ⟨Disk.slot_iff.2 ⟨by decide +kernel, [], "notes.json", by decide +kernel, by decide +kernel⟩,
      Disk.slot_iff.2 ⟨by decide +kernel, [], "snaps.json", by decide +kernel, by decide +kernel⟩, by decide +kernel⟩
  have hs' : s'.Housed :=
    ⟨Disk.slot_iff.2 ⟨by decide +kernel, [], "notes.json", by decide +kernel, by decide +kernel⟩,
      Disk.slot_iff.2 ⟨by decide +kernel, [], "snaps.json", by decide +kernel, by decide +kernel⟩, by decide +kernel⟩
  have hdisk : ∀ p ∈ placesOf s.disk s.notesPath, s'.disk.item? p = s.disk.item? p := by
    decide +kernel
  have halike : s.NotesAlike s' := ⟨rfl, ⟨rfl, hdisk⟩, rfl⟩
  exact ⟨halike, hs, hs', notes_unharmed halike hs hs'
    (.cons .load (.cons (.save rfl rfl) (.cons .load .nil)))⟩

end Roster.StateFiles
