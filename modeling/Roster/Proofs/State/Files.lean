import Roster.Proofs.Disk.Reach
import Roster.State.Files

/-!
# What loading and saving do to the disk

A file is saved in two moves: its text is written beside it, and then moved to it.  If the second
move is made, the text can be read (`Written`), and if it is not, only what stands beside the file
has changed.  So it is wherever the save is broken off (`amid_writeOps`), and whichever of its
operations fails (`FileEnds`).  Loading changes a file only to move it aside (`loadFile_spec`).

Two files are *unrelated* if they and what is written beside them have different places
(`Unrelated`).  Then what is done for one leaves the other alone.
-/

namespace Roster.StateFiles

open Disk (AllComeOut Amid ComesOut Fate FileOp)

/-- The places of a file and of what is written beside it. -/
def placesOf (d : Disk) (path : String) : List Place :=
  [d.place path, d.place (temporaryPath path), d.place (corruptPath path)]

/-- What is written beside a file is not where it is. -/
theorem place_ne_temporaryPath (d : Disk) (path : String) :
    d.place path ≠ d.place (temporaryPath path) :=
  d.place_ne_append (by decide) (by decide)

/-- The two files, and what is written beside them, have different places. -/
def Unrelated (s : StateFiles) : Prop :=
  ∀ p ∈ placesOf s.disk s.notesPath, p ∉ placesOf s.disk s.capturesPath

instance (s : StateFiles) : Decidable s.Unrelated := by
  unfold Unrelated
  infer_instance

/-- The same files, on a disk that is changed at the given places only. -/
structure Keeps (s s' : StateFiles) (places : List Place) : Prop where
  /-- The notes are in the same file. -/
  notesPath : s'.notesPath = s.notesPath
  /-- The outputs are in the same file. -/
  capturesPath : s'.capturesPath = s.capturesPath
  /-- Files elsewhere stay. -/
  disk : s.disk.Changes s'.disk places

namespace Keeps

variable {s s' s'' : StateFiles} {places places' : List Place}

theorem refl (s : StateFiles) (places : List Place) : s.Keeps s places :=
  ⟨rfl, rfl, .refl s.disk places⟩

theorem trans (h : s.Keeps s' places) (h' : s'.Keeps s'' places) : s.Keeps s'' places :=
  ⟨h'.notesPath.trans h.notesPath, h'.capturesPath.trans h.capturesPath, h.disk.trans h'.disk⟩

theorem mono (h : s.Keeps s' places) (hsub : places ⊆ places') : s.Keeps s' places' :=
  ⟨h.notesPath, h.capturesPath, h.disk.mono hsub⟩

theorem placesOf (h : s.Keeps s' places) (path : String) :
    StateFiles.placesOf s'.disk path = StateFiles.placesOf s.disk path := by
  simp only [StateFiles.placesOf, h.disk.place]

theorem unrelated (h : s.Keeps s' places) (hs : s.Unrelated) : s'.Unrelated := by
  unfold Unrelated
  rw [h.notesPath, h.capturesPath, h.placesOf, h.placesOf]
  exact hs

end Keeps

/-- The paths mean what they meant. -/
structure SamePaths (s s' : StateFiles) : Prop where
  /-- The notes are in the same file. -/
  notesPath : s'.notesPath = s.notesPath
  /-- The outputs are in the same file. -/
  capturesPath : s'.capturesPath = s.capturesPath
  /-- Relative paths start at the same directory. -/
  cwd : s'.disk.cwd = s.disk.cwd

namespace SamePaths

variable {s s' s'' : StateFiles}

theorem refl (s : StateFiles) : s.SamePaths s := ⟨rfl, rfl, rfl⟩

theorem trans (h : s.SamePaths s') (h' : s'.SamePaths s'') : s.SamePaths s'' :=
  ⟨h'.notesPath.trans h.notesPath, h'.capturesPath.trans h.capturesPath, h'.cwd.trans h.cwd⟩

theorem place (h : s.SamePaths s') (path : String) : s'.disk.place path = s.disk.place path := by
  simp only [Disk.place, h.cwd]

theorem placesOf (h : s.SamePaths s') (path : String) :
    StateFiles.placesOf s'.disk path = StateFiles.placesOf s.disk path := by
  simp only [StateFiles.placesOf, h.place]

end SamePaths

/-! ## Writing one file -/

variable {d d' : Disk} {s s' : StateFiles} {fates : List Fate} {path text : String}
  {fault? : Option DiskFault}

/-- The places of the directories that are made on the way to a file. -/
def wayTo (d : Disk) (path : String) : List Place :=
  match Path.parent? path with
  | none => []
  | some parent => if parent = "" then [] else d.wayUp parent

theorem SamePaths.wayTo (h : s.SamePaths s') (path : String) :
    wayTo s'.disk path = wayTo s.disk path := by
  have hup (above : String) : s'.disk.wayUp above = s.disk.wayUp above :=
    List.map_congr_left fun _ _ => h.place _
  simp only [StateFiles.wayTo, hup]

/-- The text has been moved to its file, and nothing else was done but on the way. -/
structure Written (d : Disk) (path text : String) (d' : Disk) : Prop where
  /-- Only the file and what is beside it were written. -/
  reaches : d.Reaches d' [d.place (temporaryPath path), d.place path] (wayTo d path)
  /-- The path has a slot. -/
  slot : d'.Slot path
  /-- The file holds the text. -/
  read : d'.read path = .ok text

theorem Written.item (h : Written d path text d') :
    d'.item? (d.place path) = some (.file (.text text)) := by
  rw [← h.reaches.place]
  exact (Disk.read_eq_ok.1 h.read).2.2.1

/-- Before the text is moved, the way is made and the text is written beside its file. -/
theorem writeOps_cut (d : Disk) (path text : String) :
    ∃ start, writeOps path text = (start ++ [.write (temporaryPath path) text])
        ++ [.rename (temporaryPath path) path]
      ∧ ∀ op ∈ start, op.places d = [] ∧ op.dirs d ⊆ wayTo d path := by
  unfold writeOps wayTo
  cases Path.parent? path with
  | none => exact ⟨[], rfl, nofun⟩
  | some parent =>
      dsimp only
      split
      next => exact ⟨[], rfl, nofun⟩
      next => exact ⟨[.makeDirs parent], rfl, by simp [FileOp.places, FileOp.dirs]⟩

/-- Up to the move, nothing is written but what is beside the file. -/
theorem reaches_of_start {start : List FileOp}
    (hstart : ∀ op ∈ start, op.places d = [] ∧ op.dirs d ⊆ wayTo d path)
    (h : Amid d (start ++ [.write (temporaryPath path) text]) d') :
    d.Reaches d' [d.place (temporaryPath path)] (wayTo d path) := by
  refine h.reaches fun op hop => ?_
  rcases List.mem_append.1 hop with hop | hop
  · obtain ⟨hplaces, hdirs⟩ := hstart op hop
    rw [hplaces]
    exact ⟨List.nil_subset _, hdirs⟩
  · rw [List.mem_singleton.1 hop]
    exact ⟨List.Subset.refl _, List.nil_subset _⟩

/-- What is moved was written right before. -/
theorem written_of_moved {start : List FileOp} {d₁ : Disk}
    (hstart : ∀ op ∈ start, op.places d = [] ∧ op.dirs d ⊆ wayTo d path)
    (hfirst : AllComeOut d (start ++ [.write (temporaryPath path) text]) none d₁)
    (hmove : ComesOut d₁ (.rename (temporaryPath path) path) none d') :
    Written d path text d' := by
  have hbefore := reaches_of_start hstart hfirst.amid
  have hlast := hmove.reaches
  cases hmove with
  | done hmove =>
    have hmoved := Disk.outcome_eq_none hmove
    obtain ⟨-, hslot, -, -⟩ := Disk.moveFile_eq_ok.1 hmoved
    obtain ⟨f, hf, hitems⟩ := Disk.item?_of_moveFile hmoved
    have htext : d₁.item? (d₁.place (temporaryPath path)) = some (.file (.text text)) := by
      rcases hfirst.of_append with ⟨-, hfault⟩ | ⟨d₀, -, hcourse⟩
      · exact absurd rfl hfault
      cases hcourse with
      | step hwrite hnil =>
        cases hnil
        cases hwrite with
        | done hwrite =>
          have hchanges := Disk.writeFile_changes (Disk.outcome_eq_none hwrite)
          obtain ⟨-, hdir, rfl⟩ := Disk.writeFile_eq_ok.1 (Disk.outcome_eq_none hwrite)
          rw [hchanges.place, Disk.item?_put (Disk.ne_root hdir), if_pos rfl]
    rw [htext] at hf
    cases hf
    have hslot' := hlast.slot hslot
    refine ⟨?_, hslot', ?_⟩
    · simp only [FileOp.places, FileOp.dirs, hbefore.place] at hlast
      exact (hbefore.mono (by simp) (List.Subset.refl _)).trans
        (hlast.mono (List.Subset.refl _) (List.nil_subset _))
    · rw [hslot'.read_eq_ok, hitems, hlast.place, if_pos rfl]

/-- Wherever the writing of a file is broken off, its text was moved there, or nothing but what is
beside it was written. -/
theorem amid_writeOps (h : Amid d (writeOps path text) d') :
    d.Reaches d' [d.place (temporaryPath path)] (wayTo d path) ∨ Written d path text d' := by
  obtain ⟨start, hops, hstart⟩ := writeOps_cut d path text
  rw [hops] at h
  rcases h.of_append with hamid | ⟨d₁, hfirst, hamid⟩
  · exact .inl (reaches_of_start hstart hamid)
  · cases hamid with
    | partway hpart =>
      -- a move that is not made leaves the disk as it is
      cases hpart
      exact .inl (reaches_of_start hstart hfirst.amid)
    | step hmove hnil =>
      cases hnil
      exact .inr (written_of_moved hstart hfirst hmove)

theorem allComeOut_writeOps (h : AllComeOut d (writeOps path text) fault? d') :
    fault? ≠ none ∧ d.Reaches d' [d.place (temporaryPath path)] (wayTo d path)
      ∨ fault? = none ∧ Written d path text d' := by
  obtain ⟨start, hops, hstart⟩ := writeOps_cut d path text
  rw [hops] at h
  rcases h.of_append with ⟨hcourse, hfault⟩ | ⟨d₁, hfirst, hcourse⟩
  · exact .inl ⟨hfault, reaches_of_start hstart hcourse.amid⟩
  · cases hcourse with
    | halt hmove =>
      cases hmove with
      | broken hpart =>
        cases hpart
        exact .inl ⟨nofun, reaches_of_start hstart hfirst.amid⟩
    | step hmove hnil =>
      cases hnil
      exact .inr ⟨rfl, written_of_moved hstart hfirst hmove⟩

/-- What happens for a file, cut short or not, reaches no further than beside it. -/
theorem reaches_of_amid (h : Amid d (writeOps path text) d') :
    d.Reaches d' [d.place (temporaryPath path), d.place path] (wayTo d path) := by
  rcases amid_writeOps h with hreach | hwritten
  · exact hreach.mono (by simp) (List.Subset.refl _)
  · exact hwritten.reaches

theorem place_not_mem_temporary (d : Disk) (path : String) :
    d.place path ∉ [d.place (temporaryPath path)] := by
  rw [List.mem_singleton]
  exact place_ne_temporaryPath d path

theorem whole_of_amid (h : Amid d (writeOps path text) d') :
    d.Whole d' (wayTo d path) (d.place path) text := by
  rcases amid_writeOps h with hreach | hwritten
  · exact .inl (hreach.kept (place_not_mem_temporary d path))
  · exact .inr hwritten.item

/-! ## Saving one file -/

/-- What may become of a file that is saved. -/
inductive FileEnds (s : StateFiles) (path text : String) :
    Except StateFault Unit → StateFiles → Prop
  /-- It is locked, and not written. -/
  | locked (hlocked : s.isLocked path = true) :
      FileEnds s path text (.error (.unreadable path)) s
  /-- Some operation fails. -/
  | failed {fault : DiskFault} {disk : Disk} (hopen : s.isLocked path = false)
      (hops : AllComeOut s.disk (writeOps path text) (some fault) disk) :
      FileEnds s path text (.error (.write path fault.message)) { s with disk }
  /-- No operation fails. -/
  | written {disk : Disk} (hopen : s.isLocked path = false)
      (hops : AllComeOut s.disk (writeOps path text) none disk) :
      FileEnds s path text (.ok ()) { s with disk }

theorem saveFile_ends (fates : List Fate) (s : StateFiles) (path text : String) :
    FileEnds s path text (saveFile fates s path text).1 (saveFile fates s path text).2 := by
  have hops := Disk.attemptAll_comesOut s.disk fates (writeOps path text)
  unfold saveFile
  split
  next h => exact .locked h
  next h =>
    have hopen := Bool.eq_false_iff.2 h
    split
    next hnone =>
      rw [hnone] at hops
      exact .written hopen hops
    next hsome =>
      rw [hsome] at hops
      exact .failed hopen hops

namespace FileEnds

variable {result : Except StateFault Unit}

theorem kept_or_written (h : FileEnds s path text result s') :
    result ≠ .ok () ∧ s.disk.Reaches s'.disk [s.disk.place (temporaryPath path)] (wayTo s.disk path)
      ∨ result = .ok () ∧ Written s.disk path text s'.disk := by
  cases h with
  | locked => exact .inl ⟨nofun, .refl _ _ _⟩
  | failed _ hops =>
      rcases allComeOut_writeOps hops with ⟨-, hreach⟩ | ⟨hnone, -⟩
      · exact .inl ⟨nofun, hreach⟩
      · cases hnone
  | written _ hops =>
      rcases allComeOut_writeOps hops with ⟨hsome, -⟩ | ⟨-, hwritten⟩
      · exact absurd rfl hsome
      · exact .inr ⟨rfl, hwritten⟩

theorem reaches (h : FileEnds s path text result s') :
    s.disk.Reaches s'.disk [s.disk.place (temporaryPath path), s.disk.place path]
      (wayTo s.disk path) := by
  rcases h.kept_or_written with ⟨-, hreach⟩ | ⟨-, hwritten⟩
  · exact hreach.mono (by simp) (List.Subset.refl _)
  · exact hwritten.reaches

theorem samePaths (h : FileEnds s path text result s') : s.SamePaths s' := by
  have hcwd := h.reaches.cwd
  cases h <;> exact ⟨rfl, rfl, hcwd⟩

/-- A file that is not written is kept. -/
theorem kept (h : FileEnds s path text result s') (hresult : result ≠ .ok ()) :
    s.disk.Kept s'.disk (wayTo s.disk path) (s.disk.place path) := by
  rcases h.kept_or_written with ⟨-, hreach⟩ | ⟨hok, -⟩
  · exact hreach.kept (place_not_mem_temporary s.disk path)
  · exact absurd hok hresult

theorem read (h : FileEnds s path text result s') (hresult : result = .ok ()) :
    s'.disk.read path = .ok text := by
  rcases h.kept_or_written with ⟨hfailed, -⟩ | ⟨-, hwritten⟩
  · exact absurd hresult hfailed
  · exact hwritten.read

theorem whole (h : FileEnds s path text result s') :
    s.disk.Whole s'.disk (wayTo s.disk path) (s.disk.place path) text := by
  rcases h.kept_or_written with ⟨hfailed, -⟩ | ⟨-, hwritten⟩
  · exact .inl (h.kept hfailed)
  · exact .inr hwritten.item

end FileEnds

/-- What becomes of one file: it is not written, or its text is. -/
theorem saveFile_cases (fates : List Fate) (s : StateFiles) (path text : String) :
    (∃ fault, (saveFile fates s path text).1 = .error fault)
        ∧ s.Keeps (saveFile fates s path text).2 [s.disk.place (temporaryPath path)]
      ∨ (saveFile fates s path text).1 = .ok ()
        ∧ s.Keeps (saveFile fates s path text).2
          [s.disk.place (temporaryPath path), s.disk.place path]
        ∧ (saveFile fates s path text).2.disk.Slot path
        ∧ (saveFile fates s path text).2.disk.read path = .ok text := by
  have hends := saveFile_ends fates s path text
  have hpaths := hends.samePaths
  rcases hends.kept_or_written with ⟨hfailed, hreach⟩ | ⟨hok, hwritten⟩
  · refine .inl ⟨?_, hpaths.notesPath, hpaths.capturesPath, hreach.toChanges⟩
    cases hresult : (saveFile fates s path text).1 with
    | error fault => exact ⟨fault, rfl⟩
    | ok _ => exact absurd hresult hfailed
  · exact .inr ⟨hok, ⟨hpaths.notesPath, hpaths.capturesPath, hwritten.reaches.toChanges⟩,
      hwritten.slot, hwritten.read⟩

theorem saveFile_keeps (fates : List Fate) (s : StateFiles) (path text : String) :
    s.Keeps (saveFile fates s path text).2
      [s.disk.place (temporaryPath path), s.disk.place path] := by
  rcases saveFile_cases fates s path text with ⟨-, hkeeps⟩ | ⟨-, hkeeps, -⟩
  · exact hkeeps.mono (List.cons_subset_cons _ (List.nil_subset _))
  · exact hkeeps

/-- What is read elsewhere is read as before. -/
theorem read_saveFile_other {other content : String}
    (hother : s.disk.place other ∉ placesOf s.disk path)
    (hread : s.disk.read other = .ok content) :
    (saveFile fates s path text).2.disk.read other = .ok content := by
  refine (saveFile_keeps fates s path text).disk.read ?_ hread
  simp only [placesOf, List.mem_cons, List.not_mem_nil, or_false, not_or] at hother ⊢
  exact ⟨hother.2.1, hother.1⟩

/-- A file that is not written is read as before. -/
theorem read_saveFile_of_error {content : String} (h : (saveFile fates s path text).1 ≠ .ok ())
    (hread : s.disk.read path = .ok content) :
    (saveFile fates s path text).2.disk.read path = .ok content := by
  rcases saveFile_cases fates s path text with ⟨-, hkeeps⟩ | ⟨hok, -⟩
  · refine hkeeps.disk.read (fun hmem => ?_) hread
    exact place_ne_temporaryPath s.disk path (List.mem_singleton.1 hmem)
  · exact absurd hok h

/-! ## Loading one file -/

variable {α : Type} {decode : String → Option (Table String α)} {s : StateFiles} {path : String}

/-- A text that holds what it should is loaded. -/
theorem loadFile_of_read {text : String} {t : Table String α} (hread : s.disk.read path = .ok text)
    (hblank : Text.isBlankText text = false) (hdecode : decode text = some t) :
    loadFile decode s path = (t, [], s.unlock path) := by
  simp [loadFile, hread, hblank, hdecode]

/-- A text that does not is moved aside, if that can be done. -/
theorem loadFile_of_malformed {text : String} (hread : s.disk.read path = .ok text)
    (hblank : Text.isBlankText text = false) (hdecode : decode text = none) :
    (∃ disk, s.disk.moveFile path (corruptPath path) = .ok disk
        ∧ (loadFile decode s path).2.2 = { s with disk }.unlock path)
      ∨ (∃ fault, s.disk.moveFile path (corruptPath path) = .error fault)
        ∧ (loadFile decode s path).2.2 = s.unlock path := by
  unfold loadFile
  rw [hread]
  simp only [hblank, Bool.false_eq_true, if_false, hdecode]
  cases hmove : s.disk.moveFile path (corruptPath path) with
  | ok disk => exact Or.inl ⟨disk, rfl, rfl⟩
  | error fault => exact Or.inr ⟨⟨fault, rfl⟩, rfl⟩

/-- What is loaded is nothing or what a text holds, and the disk stays as it is or a file is moved
aside. -/
theorem loadFile_spec (decode : String → Option (Table String α)) (s : StateFiles)
    (path : String) :
    ((loadFile decode s path).1 = .empty
        ∨ ∃ text, decode text = some (loadFile decode s path).1)
      ∧ ((loadFile decode s path).2.2.disk = s.disk
        ∨ s.disk.moveFile path (corruptPath path) = .ok (loadFile decode s path).2.2.disk)
      ∧ (loadFile decode s path).2.2.notesPath = s.notesPath
      ∧ (loadFile decode s path).2.2.capturesPath = s.capturesPath := by
  unfold loadFile lock
  split
  next => exact ⟨Or.inl rfl, Or.inl rfl, rfl, rfl⟩
  next => split <;> exact ⟨Or.inl rfl, Or.inl rfl, rfl, rfl⟩
  next text _ =>
    split
    next => exact ⟨Or.inl rfl, Or.inl rfl, rfl, rfl⟩
    next =>
      split
      next t hdecode => exact ⟨Or.inr ⟨text, hdecode⟩, Or.inl rfl, rfl, rfl⟩
      next =>
        split
        next hmove => exact ⟨Or.inl rfl, Or.inr hmove, rfl, rfl⟩
        next => exact ⟨Or.inl rfl, Or.inl rfl, rfl, rfl⟩

theorem loadFile_keeps (decode : String → Option (Table String α)) (s : StateFiles)
    (path : String) : s.Keeps (loadFile decode s path).2.2
      [s.disk.place path, s.disk.place (corruptPath path)] := by
  obtain ⟨-, hsame | hmove, hnotes, hcaptures⟩ := loadFile_spec decode s path
  · refine ⟨hnotes, hcaptures, ?_⟩
    rw [hsame]
    exact .refl s.disk _
  · exact ⟨hnotes, hcaptures, Disk.moveFile_changes hmove⟩

/-! ## Loading both files -/

open StateText

/-- The files after the notes are loaded. -/
def notesLoaded (s : StateFiles) : StateFiles :=
  (loadFile (readTable Json.readString) s s.notesPath).2.2

/-- The notes are loaded first, and then the outputs. -/
theorem load_parts (s : StateFiles) :
    s.load.1.notes = (notesOf (loadFile (readTable Json.readString) s s.notesPath).1).1
      ∧ s.load.1.captures
        = (capturesOf (loadFile (readTable captured) s.notesLoaded s.notesLoaded.capturesPath).1).1
      ∧ s.load.2
        = (loadFile (readTable captured) s.notesLoaded s.notesLoaded.capturesPath).2.2 := by
  unfold load notesLoaded
  rcases loadFile (readTable Json.readString) s s.notesPath with ⟨notes, flaws, s₁⟩
  simp only [and_self]

theorem notesLoaded_keeps (s : StateFiles) : s.Keeps s.notesLoaded
    [s.disk.place s.notesPath, s.disk.place (corruptPath s.notesPath)] :=
  loadFile_keeps (readTable Json.readString) s s.notesPath

theorem load_keeps_notesLoaded (s : StateFiles) : s.notesLoaded.Keeps s.load.2
    [s.disk.place s.capturesPath, s.disk.place (corruptPath s.capturesPath)] := by
  have h := loadFile_keeps (readTable captured) s.notesLoaded s.notesLoaded.capturesPath
  rw [s.notesLoaded_keeps.disk.place, s.notesLoaded_keeps.disk.place,
    s.notesLoaded_keeps.capturesPath] at h
  rw [s.load_parts.2.2, s.notesLoaded_keeps.capturesPath]
  exact h

/-- A load leaves the files where they are, but for those that it moves aside. -/
theorem load_keeps (s : StateFiles) : s.Keeps s.load.2
    (placesOf s.disk s.notesPath ++ placesOf s.disk s.capturesPath) :=
  (s.notesLoaded_keeps.mono (by simp [placesOf])).trans
    (s.load_keeps_notesLoaded.mono (by simp [placesOf]))

end Roster.StateFiles
