import Roster.Proofs.State.Files
import Roster.Proofs.State.Text

/-!
# Files that are moved aside

A load that meets a malformed text tries to move it aside.  Where this can be done, the text stays
there, since no save writes there.  Where it cannot, since the name is too long or a directory
stands there, the text stays in its file and the file is not locked.  Then the next save that
writes the file takes the text away, and it is nowhere any more.

`malformed_lasts_iff` is the exact statement, for either file (`Part`) and every run of saves: a
malformed text lasts exactly if it could be moved aside or no save of the run has written its file.
-/

namespace Roster

/-- A file can be put at the path: it has a slot where no directory stands. -/
def Disk.Admits (d : Disk) (path : String) : Prop :=
  d.Slot path ∧ d.item? (d.place path) ≠ some .directory

namespace StateFiles

open Disk (Fate)
open StateText

/-! ## The two files -/

/-- One of the two files. -/
inductive Part where
  /-- The file of the notes. -/
  | notes
  /-- The file of the outputs. -/
  | captures
deriving DecidableEq

/-- The path of a file. -/
def path (s : StateFiles) : Part → String
  | .notes => s.notesPath
  | .captures => s.capturesPath

/-- Whether a text is what the file should hold. -/
def Part.decodes : Part → String → Bool
  | .notes, text => (readTable Json.readString text).isSome
  | .captures, text => (readTable captured text).isSome

/-- A text is not blank, and not what the file should hold. -/
def Part.Malformed (part : Part) (text : String) : Prop :=
  Text.isBlankText text = false ∧ part.decodes text = false

/-- A save: the fates of the operations on each file, and what is saved. -/
structure SaveCall where
  /-- The fates of the operations on the notes. -/
  noteFates : List Fate := []
  /-- The fates of the operations on the outputs. -/
  captureFates : List Fate := []
  /-- What is saved. -/
  saved : Saved
  /-- All times are valid. -/
  valid : ∀ id c, saved.captures.get? id = some c → c.takenAt.Valid

/-- The text that a save writes to a file. -/
def SaveCall.text (call : SaveCall) : Part → String
  | .notes => writeNotes call.saved.notes
  | .captures => writeCaptures call.saved.captures

/-- A saved text is what its file should hold. -/
theorem SaveCall.decodes_text (call : SaveCall) (part : Part) :
    part.decodes (call.text part) = true := by
  cases part with
  | notes => simp [Part.decodes, SaveCall.text, readTable_writeNotes]
  | captures => simp [Part.decodes, SaveCall.text, readTable_writeCaptures call.valid]

/-- The files after a save. -/
def afterSave (s : StateFiles) (call : SaveCall) : StateFiles :=
  (saveWith call.noteFates call.captureFates call.saved s).2

/-- The files after a run of saves. -/
def saveAll (s : StateFiles) : List SaveCall → StateFiles
  | [] => s
  | call :: rest => (s.afterSave call).saveAll rest

/-- The files after the first half of a save. -/
def notesSaved (s : StateFiles) (call : SaveCall) : StateFiles :=
  (saveFile call.noteFates s s.notesPath (call.text .notes)).2

/-- A save writes a file. -/
def Writes (s : StateFiles) (call : SaveCall) : Part → Prop
  | .notes => (saveFile call.noteFates s s.notesPath (call.text .notes)).1 = .ok ()
  | .captures => (saveFile call.captureFates (s.notesSaved call) (s.notesSaved call).capturesPath
      (call.text .captures)).1 = .ok ()

/-- A save of a run writes a file. -/
def WritesIn (s : StateFiles) (part : Part) : List SaveCall → Prop
  | [] => False
  | call :: rest => s.Writes call part ∨ (s.afterSave call).WritesIn part rest

variable {s s' : StateFiles}

theorem path_of_keeps {places : List Place} (h : s.Keeps s' places) (part : Part) :
    s'.path part = s.path part := by
  cases part with
  | notes => exact h.notesPath
  | captures => exact h.capturesPath

/-! ## Saves, file by file -/

theorem afterSave_eq (s : StateFiles) (call : SaveCall) :
    s.afterSave call = (saveFile call.captureFates (s.notesSaved call)
      (s.notesSaved call).capturesPath (call.text .captures)).2 := by
  unfold afterSave saveWith notesSaved SaveCall.text
  simp only
  split <;> rfl

theorem notesSaved_keeps (s : StateFiles) (call : SaveCall) : s.Keeps (s.notesSaved call)
    [s.disk.place (temporaryPath s.notesPath), s.disk.place s.notesPath] :=
  saveFile_keeps call.noteFates s s.notesPath (call.text .notes)

/-- What a save may change: the files, and what is written beside them first. -/
def savePlaces (s : StateFiles) : List Place :=
  [s.disk.place (temporaryPath s.notesPath), s.disk.place s.notesPath,
    s.disk.place (temporaryPath s.capturesPath), s.disk.place s.capturesPath]

theorem afterSave_keeps (s : StateFiles) (call : SaveCall) :
    s.Keeps (s.afterSave call) s.savePlaces := by
  have hfirst := s.notesSaved_keeps call
  have hsecond := saveFile_keeps call.captureFates (s.notesSaved call)
    (s.notesSaved call).capturesPath (call.text .captures)
  rw [hfirst.disk.place, hfirst.disk.place, hfirst.capturesPath] at hsecond
  rw [afterSave_eq, hfirst.capturesPath]
  refine (hfirst.mono ?_).trans (hsecond.mono ?_) <;> simp [savePlaces]

theorem savePlaces_of_keeps {places : List Place} (h : s.Keeps s' places) :
    s'.savePlaces = s.savePlaces := by
  simp only [savePlaces, h.disk.place, h.notesPath, h.capturesPath]

/-- A file that a save writes holds the text of the save. -/
theorem read_of_writes (hun : s.Unrelated) {call : SaveCall} {part : Part}
    (h : s.Writes call part) :
    (s.afterSave call).disk.read (s.path part) = .ok (call.text part)
      ∧ (s.afterSave call).disk.Slot (s.path part) := by
  have hfirst := s.notesSaved_keeps call
  rw [afterSave_eq]
  cases part with
  | notes =>
      rcases saveFile_cases call.noteFates s s.notesPath (call.text .notes) with
        ⟨⟨fault, herror⟩, -⟩ | ⟨-, -, hslot, hread⟩
      · cases herror.symm.trans h
      have hplace := hun _ (List.mem_cons_self ..)
      rw [← hfirst.placesOf, ← hfirst.disk.place, ← hfirst.capturesPath] at hplace
      exact ⟨read_saveFile_other hplace hread,
        (saveFile_keeps call.captureFates (s.notesSaved call) _ _).disk.slot hslot⟩
  | captures =>
      rcases saveFile_cases call.captureFates (s.notesSaved call) (s.notesSaved call).capturesPath
        (call.text .captures) with ⟨⟨fault, herror⟩, -⟩ | ⟨-, -, hslot, hread⟩
      · cases herror.symm.trans h
      rw [hfirst.capturesPath] at hslot hread ⊢
      exact ⟨hread, hslot⟩

/-- A file that a save does not write is read as before. -/
theorem read_of_not_writes (hun : s.Unrelated) {call : SaveCall} {part : Part} {content : String}
    (h : ¬ s.Writes call part) (hread : s.disk.read (s.path part) = .ok content) :
    (s.afterSave call).disk.read (s.path part) = .ok content := by
  have hfirst := s.notesSaved_keeps call
  rw [afterSave_eq]
  cases part with
  | notes =>
      have hplace := hun _ (List.mem_cons_self ..)
      rw [← hfirst.placesOf, ← hfirst.disk.place, ← hfirst.capturesPath] at hplace
      exact read_saveFile_other hplace (read_saveFile_of_error h hread)
  | captures =>
      have hplace : s.disk.place s.capturesPath ∉ placesOf s.disk s.notesPath := fun hmem =>
        hun _ hmem (List.mem_cons_self ..)
      have hbetween : (s.notesSaved call).disk.read (s.notesSaved call).capturesPath
          = .ok content := by
        rw [hfirst.capturesPath]
        exact read_saveFile_other hplace hread
      have hafter := read_saveFile_of_error h hbetween
      rw [hfirst.capturesPath] at hafter ⊢
      exact hafter

/-! ## Runs of saves -/

theorem saveAll_keeps (s : StateFiles) (calls : List SaveCall) :
    s.Keeps (s.saveAll calls) s.savePlaces := by
  induction calls generalizing s with
  | nil => exact .refl s _
  | cons call rest ih =>
      have hfirst := s.afterSave_keeps call
      have hrest := ih (s.afterSave call)
      rw [savePlaces_of_keeps hfirst] at hrest
      exact hfirst.trans hrest

/-- A file that no save of a run writes is read as before. -/
theorem read_of_not_writesIn (hun : s.Unrelated) {part : Part} {content : String}
    {calls : List SaveCall} (h : ¬ s.WritesIn part calls)
    (hread : s.disk.read (s.path part) = .ok content) :
    (s.saveAll calls).disk.read (s.path part) = .ok content := by
  induction calls generalizing s with
  | nil => exact hread
  | cons call rest ih =>
      obtain ⟨hnot, hrest⟩ := not_or.1 h
      have hkeeps := s.afterSave_keeps call
      have hnext := read_of_not_writes hun hnot hread
      rw [← path_of_keeps hkeeps] at hnext ⊢
      exact ih (hkeeps.unrelated hun) hrest hnext

/-- The file holds a text that it should hold. -/
structure Sound (s : StateFiles) (part : Part) : Prop where
  /-- It has a slot. -/
  slot : s.disk.Slot (s.path part)
  /-- Its text is what it should be. -/
  text : ∃ text, s.disk.read (s.path part) = .ok text ∧ part.decodes text = true

theorem sound_of_writes (hun : s.Unrelated) {call : SaveCall} {part : Part}
    (h : s.Writes call part) : (s.afterSave call).Sound part := by
  obtain ⟨hread, hslot⟩ := read_of_writes hun h
  rw [← path_of_keeps (s.afterSave_keeps call)] at hread hslot
  exact ⟨hslot, call.text part, hread, call.decodes_text part⟩

theorem Sound.afterSave {part : Part} (hsound : s.Sound part) (hun : s.Unrelated)
    (call : SaveCall) : (s.afterSave call).Sound part := by
  by_cases h : s.Writes call part
  · exact sound_of_writes hun h
  · have hkeeps := s.afterSave_keeps call
    obtain ⟨text, hread, hdecodes⟩ := hsound.text
    have hnext := read_of_not_writes hun h hread
    rw [← path_of_keeps hkeeps] at hnext
    exact ⟨path_of_keeps hkeeps part ▸ hkeeps.disk.slot hsound.slot, text, hnext, hdecodes⟩

theorem Sound.saveAll {part : Part} (hsound : s.Sound part) (hun : s.Unrelated)
    (calls : List SaveCall) : (s.saveAll calls).Sound part := by
  induction calls generalizing s with
  | nil => exact hsound
  | cons call rest ih =>
      exact ih (hsound.afterSave hun call) ((s.afterSave_keeps call).unrelated hun)

/-- A file that a save of a run writes holds what it should after the run. -/
theorem sound_of_writesIn (hun : s.Unrelated) {part : Part} {calls : List SaveCall}
    (h : s.WritesIn part calls) : (s.saveAll calls).Sound part := by
  induction calls generalizing s with
  | nil => cases h
  | cons call rest ih =>
      have hnext := (s.afterSave_keeps call).unrelated hun
      rcases h with h | h
      · exact (sound_of_writes hun h).saveAll hnext rest
      · exact ih hnext h

/-! ## Loading a malformed text -/

variable {part : Part} {content : String}

/-- A malformed text is moved aside, if a file can be put there. -/
theorem loadFile_aside {α : Type} {decode : String → Option (Table String α)} {path : String}
    (hread : s.disk.read path = .ok content) (hblank : Text.isBlankText content = false)
    (hdecode : decode content = none) :
    (s.disk.Slot path ∧ s.disk.Admits (corruptPath path))
        ∧ (loadFile decode s path).2.2.disk.read (corruptPath path) = .ok content
      ∨ ¬ (s.disk.Slot path ∧ s.disk.Admits (corruptPath path))
        ∧ (loadFile decode s path).2.2.disk.read path = .ok content := by
  have hitem := (Disk.read_eq_ok.1 hread).2.2.1
  rcases loadFile_of_malformed hread hblank hdecode with ⟨disk, hmove, hload⟩ |
    ⟨⟨fault, hmove⟩, hload⟩
  · obtain ⟨hslot, hadmits, hdir, -⟩ := Disk.moveFile_eq_ok.1 hmove
    obtain ⟨f, hf, hitems⟩ := Disk.item?_of_moveFile hmove
    have hmoves := Disk.moveFile_changes hmove
    rw [hitem] at hf
    cases hf
    refine Or.inl ⟨⟨hslot, hadmits, hdir⟩, ?_⟩
    rw [hload]
    show disk.read (corruptPath path) = .ok content
    rw [(hmoves.slot hadmits).read_eq_ok, hitems, hmoves.place, if_pos rfl]
  · refine Or.inr ⟨fun ⟨hslot, hadmits, hdir⟩ => ?_, ?_⟩
    · have hok := Disk.moveFile_eq_ok.2 ⟨hslot, hadmits, hdir, _, hitem, rfl⟩
      rw [hmove] at hok
      cases hok
    · rw [hload]
      exact hread

/-- Loading the notes changes nothing of whether a text can be moved aside. -/
theorem admits_notesLoaded_iff {path : String} (hread : s.disk.read path = .ok content) :
    s.notesLoaded.disk.Slot path ∧ s.notesLoaded.disk.Admits (corruptPath path)
      ↔ s.disk.Slot path ∧ s.disk.Admits (corruptPath path) := by
  have hkeeps := s.notesLoaded_keeps.disk
  constructor
  · rintro ⟨hslot, hcorrupt, hdir⟩
    have hslot' := hslot.of_read hread
    refine ⟨hslot', hslot'.sibling (by decide) hcorrupt, fun h => hdir ?_⟩
    rw [hkeeps.place]
    exact hkeeps.directory _ h
  · rintro ⟨hslot, hcorrupt, hdir⟩
    refine ⟨hkeeps.slot hslot, hkeeps.slot hcorrupt, fun h => hdir ?_⟩
    rw [hkeeps.place] at h
    rcases (loadFile_spec (readTable Json.readString) s s.notesPath).2.1 with hsame | hmove
    · have hdisk : s.notesLoaded.disk = s.disk := hsame
      rw [hdisk] at h
      exact h
    · exact Disk.directory_of_moveFile hmove h

/-- After a load a malformed text is beside its file, if a file can be put there, and else still in
its file. -/
theorem load_aside (hun : s.Unrelated) (hread : s.disk.read (s.path part) = .ok content)
    (h : part.Malformed content) :
    (s.disk.Slot (s.path part) ∧ s.disk.Admits (corruptPath (s.path part)))
        ∧ s.load.2.disk.read (corruptPath (s.path part)) = .ok content
      ∨ ¬ (s.disk.Slot (s.path part) ∧ s.disk.Admits (corruptPath (s.path part)))
        ∧ s.load.2.disk.read (s.path part) = .ok content := by
  obtain ⟨hblank, hdecodes⟩ := h
  cases part with
  | notes =>
      have hdecode : readTable Json.readString content = none := by
        simpa [Part.decodes] using hdecodes
      have hafter := s.load_keeps_notesLoaded.disk
      -- The outputs are moved at places of their own.
      have helsewhere : ∀ p ∈ placesOf s.disk s.notesPath,
          p ∉ [s.disk.place s.capturesPath, s.disk.place (corruptPath s.capturesPath)] := by
        intro p hp hmem
        have hsub : [s.disk.place s.capturesPath, s.disk.place (corruptPath s.capturesPath)]
            ⊆ placesOf s.disk s.capturesPath := by simp [placesOf]
        exact hun p hp (hsub hmem)
      rcases loadFile_aside hread hblank hdecode with ⟨hcan, haside⟩ | ⟨hcannot, hstays⟩
      · refine Or.inl ⟨hcan, hafter.read ?_ haside⟩
        rw [s.notesLoaded_keeps.disk.place]
        exact helsewhere _ (by simp [placesOf, path])
      · refine Or.inr ⟨hcannot, hafter.read ?_ hstays⟩
        rw [s.notesLoaded_keeps.disk.place]
        exact helsewhere _ (by simp [placesOf, path])
  | captures =>
      have hdecode : readTable captured content = none := by
        simpa [Part.decodes] using hdecodes
      have hplace : s.disk.place s.capturesPath
          ∉ [s.disk.place s.notesPath, s.disk.place (corruptPath s.notesPath)] := by
        intro hmem
        have hsub : [s.disk.place s.notesPath, s.disk.place (corruptPath s.notesPath)]
            ⊆ placesOf s.disk s.notesPath := by simp [placesOf]
        exact hun _ (hsub hmem) (List.mem_cons_self ..)
      have hbetween : s.notesLoaded.disk.read s.capturesPath = .ok content :=
        s.notesLoaded_keeps.disk.read hplace hread
      have hsame :=
        admits_notesLoaded_iff (show s.disk.read s.capturesPath = .ok content from hread)
      have haside := loadFile_aside hbetween hblank hdecode
      rw [hsame] at haside
      rw [s.load_parts.2.2, s.notesLoaded_keeps.capturesPath]
      exact haside

/-! ## Malformed texts last or are lost -/

/-- Where no file can be put beside a file, none is read, whatever is saved. -/
theorem not_read_of_not_admits {d d' : Disk} {places : List Place} {path : String}
    (hslot : d.Slot path) (h : ¬ d.Admits (corruptPath path)) (hchanges : d.Changes d' places) :
    d'.read (corruptPath path) ≠ .ok content := by
  intro hread
  refine h ⟨hslot.sibling_of_read (by decide) (by decide) hread, fun hdir => ?_⟩
  have hitem := (Disk.read_eq_ok.1 hread).2.2.1
  rw [hchanges.place, hchanges.directory _ hdir] at hitem
  cases hitem

/-- What is beside a file is not where a save writes. -/
theorem corruptPath_not_mem_savePlaces (hun : s.Unrelated)
    (hpath : s.path part ≠ "") (hslash : Path.endsInSlash (s.path part) = false) :
    s.disk.place (corruptPath (s.path part)) ∉ s.savePlaces := by
  have hown : s.disk.place (s.path part) ≠ s.disk.place (corruptPath (s.path part)) :=
    Disk.place_ne_append s.disk (by decide) (by decide)
  have htemporary : s.disk.place (temporaryPath (s.path part))
      ≠ s.disk.place (corruptPath (s.path part)) :=
    Disk.place_append_ne_append s.disk hpath hslash (by decide) (by decide) (by decide) (by decide)
      (by decide)
  simp only [savePlaces, List.mem_cons, List.not_mem_nil, or_false, not_or]
  cases part with
  | notes =>
      have helsewhere := hun (s.disk.place (corruptPath s.notesPath)) (by simp [placesOf])
      simp only [placesOf, List.mem_cons, List.not_mem_nil, or_false, not_or] at helsewhere
      exact ⟨htemporary.symm, hown.symm, helsewhere.2.1, helsewhere.1⟩
  | captures =>
      have helsewhere : ∀ p ∈ placesOf s.disk s.notesPath,
          s.disk.place (corruptPath s.capturesPath) ≠ p := by
        rintro p hp rfl
        exact hun _ hp (by simp [placesOf])
      exact ⟨helsewhere _ (by simp [placesOf]), helsewhere _ (by simp [placesOf]),
        htemporary.symm, hown.symm⟩

/-- A malformed text that a load finds is in its file or beside it after any run of saves exactly
if it could be put beside its file, or no save of the run has written the file. -/
theorem malformed_lasts_iff (hun : s.Unrelated) (hread : s.disk.read (s.path part) = .ok content)
    (hmal : part.Malformed content) (calls : List SaveCall) :
    (s.load.2.saveAll calls).disk.read (s.path part) = .ok content
        ∨ (s.load.2.saveAll calls).disk.read (corruptPath (s.path part)) = .ok content
      ↔ s.disk.Admits (corruptPath (s.path part)) ∨ ¬ s.load.2.WritesIn part calls := by
  have hload := s.load_keeps
  have hun' := hload.unrelated hun
  have hpart := path_of_keeps hload part
  obtain ⟨hpath, -, -, hslash⟩ := Disk.read_eq_ok.1 hread
  have hsaves := s.load.2.saveAll_keeps calls
  rcases load_aside hun hread hmal with ⟨⟨-, hadmits⟩, haside⟩ | ⟨hcannot, hstays⟩
  · refine iff_of_true (Or.inr (hsaves.disk.read ?_ haside)) (Or.inl hadmits)
    have hplace := corruptPath_not_mem_savePlaces hun hpath.ne hslash
    rw [savePlaces_of_keeps hload, hload.disk.place]
    exact hplace
  · by_cases hwrites : s.load.2.WritesIn part calls
    · have hsound := sound_of_writesIn hun' hwrites
      have hslot := hsound.slot
      obtain ⟨text, htext, hdecodes⟩ := hsound.text
      rw [path_of_keeps hsaves, hpart] at hslot htext
      have hslot' := hslot.of_read hread
      have hnot : ¬ s.disk.Admits (corruptPath (s.path part)) := fun h => hcannot ⟨hslot', h⟩
      refine iff_of_false ?_ ?_
      · rintro (hpathRead | hcorruptRead)
        · rw [htext] at hpathRead
          cases hpathRead
          rw [hmal.2] at hdecodes
          cases hdecodes
        · have hall := (hload.disk.mono (List.subset_append_left ..)).trans
            (hsaves.disk.mono (List.subset_append_right ..))
          exact not_read_of_not_admits hslot' hnot hall hcorruptRead
      · rintro (h | h)
        · exact hnot h
        · exact h hwrites
    · refine iff_of_true (Or.inl ?_) (Or.inr hwrites)
      rw [← hpart] at hstays ⊢
      exact read_of_not_writesIn hun' hwrites hstays

theorem read_of_toOption {d : Disk} {path text : String}
    (h : (d.read path).toOption = some text) : d.read path = .ok text := by
  cases hread : d.read path with
  | error fault =>
      rw [hread] at h
      cases h
  | ok text' =>
      rw [hread] at h
      cases h
      rfl

/-- A malformed file of notes is moved aside, and an empty save leaves it there. -/
theorem malformed_lasts_iff_moved :
    let s : StateFiles :=
      { disk := { items := .ofList [(["notes.json"], .file (.text "\x7bnot json"))] }
        notesPath := "notes.json", capturesPath := "snaps.json" }
    let call : SaveCall := { saved := {}, valid := nofun }
    s.Unrelated ∧ s.disk.read (s.path .notes) = .ok "\x7bnot json"
      ∧ Part.Malformed .notes "\x7bnot json"
      ∧ ((s.load.2.saveAll [call]).disk.read (s.path .notes) = .ok "\x7bnot json"
          ∨ (s.load.2.saveAll [call]).disk.read (corruptPath (s.path .notes)) = .ok "\x7bnot json"
        ↔ s.disk.Admits (corruptPath (s.path .notes)) ∨ ¬ s.load.2.WritesIn .notes [call]) := by
  intro s call
  have hun : s.Unrelated := by decide +kernel
  have hread : s.disk.read (s.path .notes) = .ok "\x7bnot json" :=
    read_of_toOption (by decide +kernel)
  have hmal : Part.Malformed .notes "\x7bnot json" := ⟨by decide +kernel, by decide +kernel⟩
  exact ⟨hun, hread, hmal, malformed_lasts_iff hun hread hmal [call]⟩

/-- With a directory where the malformed file should be moved, an empty save takes its text away. -/
theorem malformed_lost_at_directory :
    let s : StateFiles :=
      { disk :=
          { items := .ofList [(["notes.json"], .file (.text "\x7bnot json")),
              (["notes.json.corrupt"], .directory)] }
        notesPath := "notes.json", capturesPath := "snaps.json" }
    let call : SaveCall := { saved := {}, valid := nofun }
    s.Unrelated ∧ s.disk.read (s.path .notes) = .ok "\x7bnot json"
      ∧ Part.Malformed .notes "\x7bnot json"
      ∧ ¬ ((s.load.2.saveAll [call]).disk.read (s.path .notes) = .ok "\x7bnot json"
        ∨ (s.load.2.saveAll [call]).disk.read (corruptPath (s.path .notes))
          = .ok "\x7bnot json") := by
  intro s call
  have hpath : ((s.load.2.saveAll [call]).disk.read (s.path .notes)).toOption
      ≠ some "\x7bnot json" := by decide +kernel
  have hcorrupt : ((s.load.2.saveAll [call]).disk.read (corruptPath (s.path .notes))).toOption
      ≠ some "\x7bnot json" := by decide +kernel
  refine ⟨by decide +kernel, read_of_toOption (by decide +kernel),
    ⟨by decide +kernel, by decide +kernel⟩, ?_⟩
  rintro (h | h)
  · exact hpath (by rw [h]; rfl)
  · exact hcorrupt (by rw [h]; rfl)

end StateFiles

end Roster
