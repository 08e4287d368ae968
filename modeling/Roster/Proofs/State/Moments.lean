import Mathlib.Data.List.Basic
import Roster.Proofs.State.Files

/-!
# Files at every moment of a save

Both files are saved one after the other, and any operation may fail on the way (`Saves`).  A save
may also be cut short, and `Moment` says what the disk can look like whenever that happens.

A file has its old text until the new one is moved there, all of it at once, so `saves_whole` finds
the old text or the new one at every moment.  Only where nothing stood there is a third case.  The
directories on the way to a file are made first, and the way may lead through the very place, as that
to `a/../a` does (`way_made_at_target`).
-/

namespace Roster.StateFiles

open Disk (Amid Fate)
open StateText

variable {s s₁ : StateFiles} {text : String}

/-- A save of both files: one after the other, whatever becomes of the first. -/
structure Saves (s : StateFiles) (saved : Saved) (first : Except StateFault Unit) (s₁ : StateFiles)
    (second : Except StateFault Unit) (s₂ : StateFiles) : Prop where
  /-- What becomes of the notes. -/
  notes : FileEnds s s.notesPath (writeNotes saved.notes) first s₁
  /-- What becomes of the outputs. -/
  captures : FileEnds s₁ s₁.capturesPath (writeCaptures saved.captures) second s₂

/-- The disk at some moment of a save. -/
inductive Moment (s : StateFiles) (saved : Saved) : Disk → Prop
  /-- The save has not begun. -/
  | before : Moment s saved s.disk
  /-- The notes are being written. -/
  | notes {disk : Disk} (hopen : s.isLocked s.notesPath = false)
      (h : Amid s.disk (writeOps s.notesPath (writeNotes saved.notes)) disk) : Moment s saved disk
  /-- The outputs are being written. -/
  | captures {first : Except StateFault Unit} {s₁ : StateFiles} {disk : Disk}
      (hfirst : FileEnds s s.notesPath (writeNotes saved.notes) first s₁)
      (hopen : s₁.isLocked s₁.capturesPath = false)
      (h : Amid s₁.disk (writeOps s₁.capturesPath (writeCaptures saved.captures)) disk) :
      Moment s saved disk
  /-- The save has come to an end. -/
  | after {first second : Except StateFault Unit} {s₁ s₂ : StateFiles}
      (h : s.Saves saved first s₁ second s₂) : Moment s saved s₂.disk

/-- The files have different places, and neither is where the other is written first. -/
def Distinct (s : StateFiles) : Prop :=
  s.disk.place s.notesPath ≠ s.disk.place s.capturesPath
  ∧ s.disk.place s.notesPath ≠ s.disk.place (temporaryPath s.capturesPath)
  ∧ s.disk.place s.capturesPath ≠ s.disk.place (temporaryPath s.notesPath)

instance (s : StateFiles) : Decidable s.Distinct := by
  unfold Distinct
  infer_instance

/-- The places of the directories that are made on the way to either file. -/
def ways (s : StateFiles) : List Place :=
  wayTo s.disk s.notesPath ++ wayTo s.disk s.capturesPath

/-- The answer to a save: the fault of the notes, if there is one, or else what became of the
outputs. -/
def answer (first second : Except StateFault Unit) : Except StateFault Unit :=
  match first with
  | .error fault => .error fault
  | .ok () => second

/-- The outputs are saved after the notes, whatever became of these. -/
theorem saveWith_eq (noteFates captureFates : List Fate) (saved : Saved) (s : StateFiles) :
    saveWith noteFates captureFates saved s =
      let first := saveFile noteFates s s.notesPath (writeNotes saved.notes)
      let second :=
        saveFile captureFates first.2 first.2.capturesPath (writeCaptures saved.captures)
      (answer first.1 second.1, second.2) := by
  unfold saveWith answer
  dsimp only
  cases (saveFile noteFates s s.notesPath (writeNotes saved.notes)).1 <;> rfl

theorem saveWith_saves (noteFates captureFates : List Fate) (saved : Saved) (s : StateFiles) :
    ∃ first s₁ second s₂, s.Saves saved first s₁ second s₂
      ∧ saveWith noteFates captureFates saved s = (answer first second, s₂) :=
  ⟨_, _, _, _, ⟨saveFile_ends noteFates s s.notesPath (writeNotes saved.notes),
    saveFile_ends captureFates _ _ (writeCaptures saved.captures)⟩,
    saveWith_eq noteFates captureFates saved s⟩

/-! ## Each file while the other is written -/

/-- While the notes are written, the outputs are kept. -/
theorem captures_kept (hs : s.Distinct) {disk : Disk}
    (h : s.disk.Reaches disk [s.disk.place (temporaryPath s.notesPath), s.disk.place s.notesPath]
      (wayTo s.disk s.notesPath)) :
    s.disk.Kept disk s.ways (s.disk.place s.capturesPath) := by
  refine (h.kept ?_).mono (List.subset_append_left _ _)
  simpa using ⟨hs.2.2, hs.1.symm⟩

/-- The notes are not where the outputs are written. -/
theorem SamePaths.notes_not_mem (h : s.SamePaths s₁) (hs : s.Distinct) :
    s.disk.place s.notesPath
      ∉ [s₁.disk.place (temporaryPath s₁.capturesPath), s₁.disk.place s₁.capturesPath] := by
  rw [h.place, h.place, h.capturesPath]
  simpa using ⟨hs.2.1, hs.1⟩

/-- While the outputs are written, the notes are kept. -/
theorem SamePaths.notes_kept (h : s.SamePaths s₁) (hs : s.Distinct) {disk : Disk}
    (hreach : s₁.disk.Reaches disk
      [s₁.disk.place (temporaryPath s₁.capturesPath), s₁.disk.place s₁.capturesPath]
      (StateFiles.wayTo s₁.disk s₁.capturesPath)) :
    s₁.disk.Kept disk s.ways (s.disk.place s.notesPath) := by
  refine (hreach.kept (h.notes_not_mem hs)).mono ?_
  rw [h.wayTo, h.capturesPath]
  exact List.subset_append_right _ _

/-- What the outputs come to is told of their place as it was. -/
theorem SamePaths.captures_whole (h : s.SamePaths s₁) {disk : Disk}
    (hwhole : s₁.disk.Whole disk (StateFiles.wayTo s₁.disk s₁.capturesPath)
      (s₁.disk.place s₁.capturesPath) text) :
    s₁.disk.Whole disk s.ways (s.disk.place s.capturesPath) text := by
  rw [h.wayTo, h.place, h.capturesPath] at hwhole
  exact hwhole.mono (List.subset_append_right _ _)

/-! ## Both files -/

variable {saved : Saved} {first second : Except StateFault Unit} {s₂ : StateFiles}

/-- At every moment each place holds what it held, or the whole of its new text. -/
theorem Moment.whole (hs : s.Distinct) {disk : Disk} (h : s.Moment saved disk) :
    s.disk.Whole disk s.ways (s.disk.place s.notesPath) (writeNotes saved.notes)
      ∧ s.disk.Whole disk s.ways (s.disk.place s.capturesPath) (writeCaptures saved.captures) := by
  have hleft : wayTo s.disk s.notesPath ⊆ s.ways := List.subset_append_left _ _
  cases h with
  | before => exact ⟨.inl (.inl rfl), .inl (.inl rfl)⟩
  | notes _ hamid =>
      exact ⟨(whole_of_amid hamid).mono hleft, .inl (captures_kept hs (reaches_of_amid hamid))⟩
  | captures hfirst _ hamid =>
      have hpaths := hfirst.samePaths
      exact ⟨(hfirst.whole.mono hleft).trans (hpaths.notes_kept hs (reaches_of_amid hamid)),
        (captures_kept hs hfirst.reaches).whole (hpaths.captures_whole (whole_of_amid hamid))⟩
  | after hsaves =>
      have hpaths := hsaves.notes.samePaths
      exact ⟨(hsaves.notes.whole.mono hleft).trans (hpaths.notes_kept hs hsaves.captures.reaches),
        (captures_kept hs hsaves.notes.reaches).whole
          (hpaths.captures_whole hsaves.captures.whole)⟩

/-- The notes hold the new text if their write did not fail, and are kept if it did. -/
theorem Saves.notes_end (hs : s.Distinct) (h : s.Saves saved first s₁ second s₂) :
    (first = .ok () → s₂.disk.read s.notesPath = .ok (writeNotes saved.notes))
      ∧ (first ≠ .ok () → s.disk.Kept s₂.disk s.ways (s.disk.place s.notesPath)) := by
  have hpaths := h.notes.samePaths
  refine ⟨fun hok => ?_, fun hfailed => ?_⟩
  · refine h.captures.reaches.read ?_ (h.notes.read hok)
    rw [hpaths.place s.notesPath]
    exact hpaths.notes_not_mem hs
  · exact ((h.notes.kept hfailed).mono (List.subset_append_left _ _)).trans
      (hpaths.notes_kept hs h.captures.reaches)

/-- The outputs hold the new text if their write did not fail, and are kept if it did. -/
theorem Saves.captures_end (hs : s.Distinct) (h : s.Saves saved first s₁ second s₂) :
    (second = .ok () → s₂.disk.read s.capturesPath = .ok (writeCaptures saved.captures))
      ∧ (second ≠ .ok () → s.disk.Kept s₂.disk s.ways (s.disk.place s.capturesPath)) := by
  have hpaths := h.notes.samePaths
  refine ⟨fun hok => ?_, fun hfailed => ?_⟩
  · have hread := h.captures.read hok
    rwa [hpaths.capturesPath] at hread
  · have hkept := h.captures.kept hfailed
    rw [hpaths.wayTo, hpaths.place, hpaths.capturesPath] at hkept
    exact (captures_kept hs h.notes.reaches).trans (hkept.mono (List.subset_append_right _ _))

theorem answer_eq_ok_iff : answer first second = .ok () ↔ first = .ok () ∧ second = .ok () := by
  cases first with
  | error fault => simp [answer]
  | ok _ => simp [answer]

/-- A save replaces each file whole or not at all, and tries both.

Every save, with whatever fates for its operations, is one of the courses that `Saves` allows: both
files are tried, and the fault of the notes is given if there is one, or else that of the outputs.
In each such course, if no fault is given both files hold the new texts, a file whose own write did
not fail holds the new text, and one whose own write failed is kept.  At every moment on the way, at
which the save may also be cut short, each place holds what it held or the whole of its new text.
Where nothing stood, on the way to one of the files, there may be a new directory. -/
theorem saves_whole (hs : s.Distinct) (saved : Saved) :
    (∀ noteFates captureFates, ∃ first s₁ second s₂, s.Saves saved first s₁ second s₂
      ∧ saveWith noteFates captureFates saved s = (answer first second, s₂))
    ∧ (∀ first s₁ second s₂, s.Saves saved first s₁ second s₂ →
      (answer first second = .ok () →
        s₂.disk.read s.notesPath = .ok (writeNotes saved.notes)
          ∧ s₂.disk.read s.capturesPath = .ok (writeCaptures saved.captures))
      ∧ (first = .ok () → s₂.disk.read s.notesPath = .ok (writeNotes saved.notes))
      ∧ (first ≠ .ok () → s.disk.Kept s₂.disk s.ways (s.disk.place s.notesPath))
      ∧ (second = .ok () → s₂.disk.read s.capturesPath = .ok (writeCaptures saved.captures))
      ∧ (second ≠ .ok () → s.disk.Kept s₂.disk s.ways (s.disk.place s.capturesPath)))
    ∧ ∀ disk, s.Moment saved disk →
      s.disk.Whole disk s.ways (s.disk.place s.notesPath) (writeNotes saved.notes)
        ∧ s.disk.Whole disk s.ways (s.disk.place s.capturesPath) (writeCaptures saved.captures) := by
  refine ⟨fun noteFates captureFates => saveWith_saves noteFates captureFates saved s,
    fun first s₁ second s₂ h => ?_, fun disk h => h.whole hs⟩
  obtain ⟨hnotes, hnotes'⟩ := h.notes_end hs
  obtain ⟨hcaptures, hcaptures'⟩ := h.captures_end hs
  refine ⟨fun hanswer => ?_, hnotes, hnotes', hcaptures, hcaptures'⟩
  obtain ⟨hfirst, hsecond⟩ := answer_eq_ok_iff.1 hanswer
  exact ⟨hnotes hfirst, hcaptures hsecond⟩

/-- A write of the notes that breaks off leaves their old text, and the outputs are saved. -/
theorem saves_whole_torn :
    let s : StateFiles :=
      { disk := { items := .ofList [(["notes.json"], .file (.text "old"))] }
        notesPath := "notes.json", capturesPath := "snaps.json" }
    let after := (saveWith [.torn .denied (.bytes [255])] [] {} s).2.disk
    s.Distinct ∧ s.Moment {} after
      ∧ s.disk.Whole after s.ways (s.disk.place s.notesPath) (writeNotes .empty)
      ∧ s.disk.Whole after s.ways (s.disk.place s.capturesPath) (writeCaptures .empty)
      ∧ after.read "notes.json" = .ok "old" ∧ after.read "snaps.json" = .ok (writeCaptures .empty) := by
  intro s after
  have hs : s.Distinct := by decide +kernel
  have hread : after.read "notes.json" = .ok "old"
      ∧ after.read "snaps.json" = .ok (writeCaptures .empty) := by decide +kernel
  obtain ⟨first, s₁, second, s₂, hsaves, hsave⟩ :=
    (saves_whole hs {}).1 [.torn .denied (.bytes [255])] []
  have hafter : after = s₂.disk := congrArg (·.2.disk) hsave
  have hmoment : s.Moment {} after := hafter ▸ .after hsaves
  obtain ⟨hnotes, hcaptures⟩ := (saves_whole hs {}).2.2 after hmoment
  exact ⟨hs, hmoment, hnotes, hcaptures, hread⟩

/-- On the way to `a/../a` the directory `a` is made, and then nothing can be moved there.  So a save
that fails has put something where nothing stood, which is not the new text either. -/
theorem way_made_at_target :
    let s : StateFiles := { disk := {}, notesPath := "a/../a", capturesPath := "snaps.json" }
    let p := s.disk.place s.notesPath
    let after := (saveWith [] [] {} s).2.disk
    s.Distinct ∧ ¬ p <+: s.disk.place s.capturesPath ∧ ¬ s.disk.place s.capturesPath <+: p
      ∧ (saveWith [] [] {} s).1 = .error (.write s.notesPath DiskFault.isDirectory.message)
      ∧ s.disk.item? p = none ∧ after.item? p = some .directory
      ∧ ¬ (after.item? p = s.disk.item? p
        ∨ after.item? p = some (.file (.text (writeNotes .empty)))) := by
  decide +kernel

end Roster.StateFiles
