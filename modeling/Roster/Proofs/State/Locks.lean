import Roster.Proofs.State.Moments
import Roster.Proofs.State.Separation

/-!
# Locked files

A load locks a file that it cannot read, unless there is none, and takes the lock off any other
(`isLocked_loadWith`).  Nothing but a load touches a lock (`isLocked_run`), so what the last load
found decides about every save until the next, whatever else is done to the disk in between.

A save leaves a locked file alone, with all that stands beside it or below, and treats the other file
as it would without the lock (`refuses_of_locked`).  A file that is not locked is written, if the disk
allows it (`resumes_of_open`).  `locks_last` puts this together for every run of loads, saves and
changes from outside.
-/

namespace Roster.StateFiles

open Disk (Fate FileOp)
open StateText

variable {α : Type} {s s' : StateFiles}

/-! ## Loads that may fail to read -/

/-- What a load gets when it reads a path, where the reading may fail for a reason beyond what stands
on the disk. -/
def reading (s : StateFiles) (trouble : Option DiskFault) (path : String) :
    Except DiskFault String :=
  match trouble with
  | some fault => .error fault
  | none => s.disk.read path

/-- Loads one file, of which this was read. -/
def loadRead (decode : String → Option (Table String α)) (read : Except DiskFault String)
    (s : StateFiles) (path : String) : Table String α × List String × StateFiles :=
  match read with
  | .error .notFound => (.empty, [], s.unlock path)
  | .error fault =>
      (.empty, [(StateFault.read path fault.message).message ++ "; leaving it untouched"],
        s.lock path)
  | .ok text =>
      if Text.isBlankText text then (.empty, [], s.unlock path)
      else match decode text with
        | some t => (t, [], s.unlock path)
        | none =>
            match s.disk.moveFile path (corruptPath path) with
            | .ok disk => (.empty, [malformedWarning path true], { s with disk }.unlock path)
            | .error _ => (.empty, [malformedWarning path false], s.unlock path)

theorem loadFile_eq_loadRead (decode : String → Option (Table String α)) (s : StateFiles)
    (path : String) : loadFile decode s path = loadRead decode (s.disk.read path) s path := rfl

/-- The files after the notes are loaded. -/
def notesLoadedWith (noteTrouble : Option DiskFault) (s : StateFiles) : StateFiles :=
  (loadRead (readTable Json.readString) (s.reading noteTrouble s.notesPath) s s.notesPath).2.2

/-- The files after both are loaded. -/
def loadWith (noteTrouble captureTrouble : Option DiskFault) (s : StateFiles) : StateFiles :=
  let s₁ := s.notesLoadedWith noteTrouble
  (loadRead (readTable captured) (s₁.reading captureTrouble s₁.capturesPath) s₁
    s₁.capturesPath).2.2

/-- Without trouble it is the load of both files. -/
theorem loadWith_none (s : StateFiles) : s.loadWith none none = s.load.2 := by
  rw [s.load_parts.2.2, loadFile_eq_loadRead]
  rfl

/-- What a load gets when it reads a file. -/
def found (s : StateFiles) (noteTrouble captureTrouble : Option DiskFault) :
    Part → Except DiskFault String
  | .notes => s.reading noteTrouble s.notesPath
  | .captures =>
      let s₁ := s.notesLoadedWith noteTrouble
      s₁.reading captureTrouble s₁.capturesPath

/-! ## Runs -/

/-- A save of both files, with the fates of the operations on each. -/
structure SaveOrder where
  /-- The fates of the operations on the notes. -/
  noteFates : List Fate := []
  /-- The fates of the operations on the outputs. -/
  captureFates : List Fate := []
  /-- What is saved. -/
  saved : Saved

namespace SaveOrder

/-- The fates of the operations on a file. -/
def fates (order : SaveOrder) : Part → List Fate
  | .notes => order.noteFates
  | .captures => order.captureFates

/-- The text for a file. -/
def text (order : SaveOrder) : Part → String
  | .notes => writeNotes order.saved.notes
  | .captures => writeCaptures order.saved.captures

end SaveOrder

/-- Something that happens to the files. -/
inductive Event where
  /-- They are loaded, perhaps with trouble. -/
  | load (noteTrouble captureTrouble : Option DiskFault)
  /-- They are saved. -/
  | save (order : SaveOrder)
  /-- Someone else changes what is on the disk. -/
  | outside (items : Table Place Item)

/-- Whether the event is a load. -/
def Event.isLoad : Event → Bool
  | .load _ _ => true
  | _ => false

/-- The answer to a save, and the files after it. -/
def saveOrdered (s : StateFiles) (order : SaveOrder) : Except StateFault Unit × StateFiles :=
  saveWith order.noteFates order.captureFates order.saved s

/-- The files after an event. -/
def happen (s : StateFiles) : Event → StateFiles
  | .load noteTrouble captureTrouble => s.loadWith noteTrouble captureTrouble
  | .save order => (s.saveOrdered order).2
  | .outside items => { s with disk := { s.disk with items } }

/-- The files after some events. -/
def run (s : StateFiles) (events : List Event) : StateFiles := events.foldl happen s

/-! ## Unrelated paths -/

/-- The other file. -/
def Part.other : Part → Part
  | .notes => .captures
  | .captures => .notes

/-- No place of one file, or beside it, is where the other is written, beside it, on the way to it,
or above any of these. -/
def Secluded (s : StateFiles) : Prop :=
  ∀ part : Part, ∀ p ∈ placesOf s.disk (s.path part),
    ∀ q ∈ placesOf s.disk (s.path part.other) ++ wayTo s.disk (s.path part.other), ¬ p <+: q

theorem SamePaths.path (h : s.SamePaths s') (part : Part) : s'.path part = s.path part := by
  cases part with
  | notes => exact h.notesPath
  | captures => exact h.capturesPath

theorem SamePaths.secluded (h : s.SamePaths s') (hs : s.Secluded) : s'.Secluded := by
  intro part
  rw [h.path, h.path, h.placesOf, h.placesOf, h.wayTo]
  exact hs part

variable {decode : String → Option (Table String α)} {got : Except DiskFault String}
  {path other text : String} {fates : List Fate} {part : Part} {order : SaveOrder}

namespace Secluded

/-- Where nothing but the other file is written, one file stays, with all below it. -/
theorem not_mem (hs : s.Secluded) {p q : Place} (hp : p ∈ placesOf s.disk (s.path part))
    (hpq : p <+: q) :
    q ∉ placesOf s.disk (s.path part.other) ∧ q ∉ wayTo s.disk (s.path part.other) :=
  ⟨fun hq => hs part p hp q (List.mem_append_left _ hq) hpq,
    fun hq => hs part p hp q (List.mem_append_right _ hq) hpq⟩

theorem not_same (hs : s.Secluded) (part : Part) :
    Path.same (s.path part.other) (s.path part) = false := by
  rw [Bool.eq_false_iff]
  intro hsame
  have hplace : s.disk.place (s.path part) ∈ placesOf s.disk (s.path part) := List.mem_cons_self
  refine (hs.not_mem hplace (List.prefix_refl _)).1 ?_
  rw [← Disk.place_of_same s.disk hsame]
  exact List.mem_cons_self

end Secluded

/-! ## What sets a lock -/

/-- A load locks a path if it could not read what is there, and takes the lock off if it could, or if
there is nothing. -/
theorem loadRead_state (decode : String → Option (Table String α)) (got : Except DiskFault String)
    (s : StateFiles) (path : String) :
    (∃ fault, got = .error fault ∧ fault ≠ .notFound
        ∧ (loadRead decode got s path).2.2 = s.lock path)
      ∨ (∀ fault, got = .error fault → fault = .notFound)
        ∧ ∃ disk : Disk, disk.cwd = s.disk.cwd
          ∧ (loadRead decode got s path).2.2 = { s with disk }.unlock path := by
  unfold loadRead
  split
  next => exact .inr ⟨fun _ h => (Except.error.inj h).symm, s.disk, rfl, rfl⟩
  next fault hfault => exact .inl ⟨fault, rfl, hfault, rfl⟩
  next =>
    refine .inr ⟨nofun, ?_⟩
    split
    next => exact ⟨s.disk, rfl, rfl⟩
    next =>
      split
      next => exact ⟨s.disk, rfl, rfl⟩
      next =>
        split
        next disk hmove => exact ⟨disk, (Disk.moveFile_changes hmove).cwd, rfl⟩
        next => exact ⟨s.disk, rfl, rfl⟩

theorem loadRead_samePaths : s.SamePaths (loadRead decode got s path).2.2 := by
  rcases loadRead_state decode got s path with ⟨_, _, _, hstate⟩ | ⟨_, disk, hcwd, hstate⟩
  · obtain ⟨locked, hlock⟩ := s.lock_eq path
    rw [hstate, hlock]
    exact ⟨rfl, rfl, rfl⟩
  · rw [hstate]
    exact ⟨rfl, rfl, hcwd⟩

theorem isLocked_loadRead : (loadRead decode got s path).2.2.isLocked path = true ↔
    ∃ fault, got = .error fault ∧ fault ≠ .notFound := by
  rcases loadRead_state decode got s path with ⟨fault, hgot, hfault, hstate⟩ | ⟨hgot, disk, -, hstate⟩
  · rw [hstate, isLocked_lock_self]
    exact ⟨fun _ => ⟨fault, hgot, hfault⟩, fun _ => rfl⟩
  · rw [hstate, isLocked_unlock_self]
    exact ⟨nofun, fun ⟨fault, herror, hfault⟩ => absurd (hgot fault herror) hfault⟩

theorem isLocked_loadRead_other (h : Path.same other path = false) :
    (loadRead decode got s path).2.2.isLocked other = s.isLocked other := by
  rcases loadRead_state decode got s path with ⟨_, _, _, hstate⟩ | ⟨_, disk, _, hstate⟩
  · rw [hstate, isLocked_lock_other s h]
  · rw [hstate, isLocked_unlock_other _ h]
    rfl

theorem notesLoadedWith_samePaths (noteTrouble : Option DiskFault) (s : StateFiles) :
    s.SamePaths (s.notesLoadedWith noteTrouble) := loadRead_samePaths

theorem loadWith_samePaths (noteTrouble captureTrouble : Option DiskFault) (s : StateFiles) :
    s.SamePaths (s.loadWith noteTrouble captureTrouble) :=
  (notesLoadedWith_samePaths noteTrouble s).trans loadRead_samePaths

/-- After a load a file is locked exactly if something is there that could not be read. -/
theorem isLocked_loadWith (hs : s.Secluded) (noteTrouble captureTrouble : Option DiskFault)
    (part : Part) :
    (s.loadWith noteTrouble captureTrouble).isLocked (s.path part) = true ↔
      ∃ fault, s.found noteTrouble captureTrouble part = .error fault ∧ fault ≠ .notFound := by
  have hpaths := notesLoadedWith_samePaths noteTrouble s
  cases part with
  | notes =>
      have hsame : Path.same s.notesPath (s.notesLoadedWith noteTrouble).capturesPath = false := by
        rw [hpaths.capturesPath]
        exact hs.not_same .captures
      show (s.loadWith noteTrouble captureTrouble).isLocked s.notesPath = true ↔ _
      rw [loadWith, isLocked_loadRead_other hsame]
      exact isLocked_loadRead
  | captures =>
      show (s.loadWith noteTrouble captureTrouble).isLocked s.capturesPath = true ↔ _
      rw [← hpaths.capturesPath]
      exact isLocked_loadRead

/-! ## What leaves it -/

theorem locked_saveFile (fates : List Fate) (s : StateFiles) (path text : String) :
    (saveFile fates s path text).2.locked = s.locked := by
  unfold saveFile
  split
  next => rfl
  next => split <;> rfl

theorem saveFile_samePaths (fates : List Fate) (s : StateFiles) (path text : String) :
    s.SamePaths (saveFile fates s path text).2 :=
  (saveFile_ends fates s path text).samePaths

/-- What becomes of a file in a save. -/
def ended (s : StateFiles) (order : SaveOrder) : Part → Except StateFault Unit × StateFiles
  | .notes => saveFile order.noteFates s s.notesPath (order.text .notes)
  | .captures =>
      let s₁ := (saveFile order.noteFates s s.notesPath (order.text .notes)).2
      saveFile order.captureFates s₁ s₁.capturesPath (order.text .captures)

theorem saveOrdered_eq (s : StateFiles) (order : SaveOrder) :
    s.saveOrdered order =
      (answer (s.ended order .notes).1 (s.ended order .captures).1,
        (s.ended order .captures).2) :=
  saveWith_eq order.noteFates order.captureFates order.saved s

theorem saveOrdered_samePaths (s : StateFiles) (order : SaveOrder) :
    s.SamePaths (s.saveOrdered order).2 := by
  rw [saveOrdered_eq]
  exact (saveFile_samePaths ..).trans (saveFile_samePaths ..)

theorem happen_samePaths (s : StateFiles) (e : Event) : s.SamePaths (s.happen e) := by
  cases e with
  | load noteTrouble captureTrouble => exact loadWith_samePaths noteTrouble captureTrouble s
  | save order => exact s.saveOrdered_samePaths order
  | outside items => exact ⟨rfl, rfl, rfl⟩

theorem run_samePaths (s : StateFiles) (events : List Event) : s.SamePaths (s.run events) := by
  induction events generalizing s with
  | nil => exact .refl s
  | cons e rest ih => exact (s.happen_samePaths e).trans (ih (s.happen e))

/-- Only a load sets a lock or takes it off. -/
theorem locked_happen (s : StateFiles) {e : Event} (he : e.isLoad = false) :
    (s.happen e).locked = s.locked := by
  cases e with
  | load _ _ => cases he
  | save order =>
      show (s.saveOrdered order).2.locked = s.locked
      rw [saveOrdered_eq]
      exact (locked_saveFile ..).trans (locked_saveFile ..)
  | outside items => rfl

theorem isLocked_run (s : StateFiles) {events : List Event} (h : ∀ e ∈ events, e.isLoad = false)
    (path : String) : (s.run events).isLocked path = s.isLocked path := by
  induction events generalizing s with
  | nil => rfl
  | cons e rest ih =>
      obtain ⟨he, hrest⟩ := List.forall_mem_cons.1 h
      rw [show s.run (e :: rest) = (s.happen e).run rest from rfl, ih (s.happen e) hrest, isLocked,
        isLocked, s.locked_happen he]

/-! ## A save of a locked file -/

/-- The other file is saved alone, with the lock of this one taken off. -/
def alone (s : StateFiles) (part : Part) (order : SaveOrder) :
    Except StateFault Unit × StateFiles :=
  saveFile (order.fates part.other) (s.unlock (s.path part)) (s.path part.other)
    (order.text part.other)

/-- The answer to a save that leaves a file alone, if the other comes to this. -/
def refusal (s : StateFiles) (result : Except StateFault Unit) : Part → Except StateFault Unit
  | .notes => .error (.unreadable s.notesPath)
  | .captures => answer result (.error (.unreadable s.capturesPath))

/-- A save leaves a file alone, says so, and treats the other file as if there were no lock. -/
structure Refuses (s : StateFiles) (part : Part) (order : SaveOrder) : Prop where
  /-- At the file and beside it everything stays, with all that is below. -/
  untouched : ∀ p ∈ placesOf s.disk (s.path part), ∀ q, p <+: q →
    (s.saveOrdered order).2.disk.item? q = s.disk.item? q
  /-- What is done is what is done for the other file alone. -/
  other : (s.saveOrdered order).2.disk = (s.alone part order).2.disk
  /-- The answer is a fault, that of the notes if there is one. -/
  answer : (s.saveOrdered order).1 = s.refusal (s.alone part order).1 part

/-- The lock of one file means nothing for the other. -/
theorem saveFile_unlock (h : Path.same path other = false) (fates : List Fate) (text : String) :
    (saveFile fates (s.unlock other) path text).1 = (saveFile fates s path text).1
      ∧ (saveFile fates (s.unlock other) path text).2.disk = (saveFile fates s path text).2.disk := by
  unfold saveFile
  rw [s.isLocked_unlock_other h]
  split
  next => exact ⟨rfl, rfl⟩
  next =>
    rw [show (s.unlock other).disk = s.disk from rfl]
    rcases s.disk.attemptAll fates (writeOps path text) with ⟨_ | fault, disk⟩ <;> exact ⟨rfl, rfl⟩

theorem saveFile_of_locked (h : s.isLocked path = true) (fates : List Fate) (text : String) :
    saveFile fates s path text = (.error (.unreadable path), s) := by
  rw [saveFile, if_pos h]

/-- While the other file is saved, this one stays, with all that is beside it or below. -/
theorem Secluded.item (hs : s.Secluded) {p q : Place} (hp : p ∈ placesOf s.disk (s.path part))
    (hpq : p <+: q) (fates : List Fate) (text : String) :
    (saveFile fates s (s.path part.other) text).2.disk.item? q = s.disk.item? q := by
  obtain ⟨hplaces, hway⟩ := hs.not_mem hp hpq
  refine (saveFile_ends fates s (s.path part.other) text).reaches.item (fun hq => hplaces ?_) hway
  simp only [placesOf, List.mem_cons, List.not_mem_nil, or_false] at hq ⊢
  exact hq.elim (fun h => .inr (.inl h)) .inl

/-- What a save comes to while a file is locked is what the other file alone comes to. -/
theorem saveOrdered_of_locked (hs : s.Secluded) (hlocked : s.isLocked (s.path part) = true)
    (order : SaveOrder) :
    (s.saveOrdered order).2
        = (saveFile (order.fates part.other) s (s.path part.other) (order.text part.other)).2
      ∧ (s.saveOrdered order).1 = s.refusal (s.alone part order).1 part := by
  rw [saveOrdered_eq]
  cases part with
  | notes =>
      have hlocked' : s.isLocked s.notesPath = true := hlocked
      unfold ended
      dsimp only
      rw [saveFile_of_locked hlocked']
      exact ⟨rfl, rfl⟩
  | captures =>
      have hpaths := saveFile_samePaths order.noteFates s s.notesPath (order.text .notes)
      have hlocked' : (saveFile order.noteFates s s.notesPath (order.text .notes)).2.isLocked
          (saveFile order.noteFates s s.notesPath (order.text .notes)).2.capturesPath = true := by
        rw [hpaths.capturesPath, isLocked, locked_saveFile]
        exact hlocked
      have halone : (s.alone .captures order).1
          = (saveFile order.noteFates s s.notesPath (order.text .notes)).1 :=
        (saveFile_unlock (hs.not_same .captures) _ _).1
      unfold ended
      dsimp only
      rw [saveFile_of_locked hlocked', hpaths.capturesPath, refusal, halone]
      exact ⟨rfl, rfl⟩

theorem refuses_of_locked (hs : s.Secluded) (hlocked : s.isLocked (s.path part) = true)
    (order : SaveOrder) : s.Refuses part order := by
  obtain ⟨hstate, hanswer⟩ := saveOrdered_of_locked hs hlocked order
  refine ⟨fun p hp q hpq => ?_, ?_, hanswer⟩
  · rw [hstate]
    exact hs.item hp hpq _ _
  · rw [hstate]
    exact (saveFile_unlock (hs.not_same part) _ _).2.symm

/-! ## A save of a file that is not locked -/

/-- Only a locked file is said to be unreadable. -/
theorem isLocked_of_unreadable (h : (saveFile fates s path text).1 = .error (.unreadable other)) :
    other = path ∧ s.isLocked path = true := by
  have hends := saveFile_ends fates s path text
  generalize (saveFile fates s path text).1 = result, (saveFile fates s path text).2 = s'
    at h hends
  subst h
  cases hends with
  | locked hlocked => exact ⟨rfl, hlocked⟩

theorem attemptAll_cons_of_apply {d d' : Disk} {op : FileOp} (h : d.apply op = (none, d'))
    (ops : List FileOp) : d.attemptAll [] (op :: ops) = d'.attemptAll [] ops := by
  simp only [Disk.attemptAll, List.headD_nil, List.tail_nil, Disk.attempt, h]

/-- The disk allows a file to be written if it allows that at the path and beside it. -/
theorem writeOps_granted {d : Disk} (hpath : d.Admits path)
    (hbeside : d.Admits (temporaryPath path)) (text : String) :
    ∃ d', d.attemptAll [] (writeOps path text) = (none, d') := by
  let d₁ := d.put (d.place (temporaryPath path)) (.file (.text text))
  have hwrite : d.writeFile (temporaryPath path) (.text text) = .ok d₁ :=
    Disk.writeFile_eq_ok.2 ⟨hbeside.1, hbeside.2, rfl⟩
  have hchanges := Disk.writeFile_changes hwrite
  have hdir : d₁.item? (d₁.place path) ≠ some .directory := by
    rw [hchanges.place, Disk.item?_put (Disk.ne_root hbeside.2),
      if_neg (place_ne_temporaryPath d path)]
    exact hpath.2
  have htext : d₁.item? (d₁.place (temporaryPath path)) = some (.file (.text text)) := by
    rw [hchanges.place, Disk.item?_put (Disk.ne_root hbeside.2), if_pos rfl]
  have hmove := Disk.moveFile_eq_ok.2
    ⟨hchanges.slot hbeside.1, hchanges.slot hpath.1, hdir, .text text, htext, rfl⟩
  have hfirst : d.apply (.write (temporaryPath path) text) = (none, d₁) :=
    congrArg d.outcome hwrite
  have hlast : d₁.apply (.rename (temporaryPath path) path) = (none, _) :=
    congrArg d₁.outcome hmove
  have hends : ∃ d', d.attemptAll []
      [.write (temporaryPath path) text, .rename (temporaryPath path) path] = (none, d') :=
    ⟨_, (attemptAll_cons_of_apply hfirst _).trans (attemptAll_cons_of_apply hlast [])⟩
  unfold writeOps
  split
  next => exact hends
  next parent hparent =>
    split
    next => exact hends
    next hne =>
      -- the way is there already
      have hthere : d.apply (.makeDirs parent) = (none, d) :=
        Disk.makeDirs_of_isDirectory (hpath.1.isDirectory_above hparent hne)
      rw [List.singleton_append, attemptAll_cons_of_apply hthere]
      exact hends

theorem saveFile_granted (hopen : s.isLocked path = false) (hpath : s.disk.Admits path)
    (hbeside : s.disk.Admits (temporaryPath path)) (text : String) :
    (saveFile [] s path text).1 = .ok () := by
  obtain ⟨d', hdone⟩ := writeOps_granted hpath hbeside text
  rw [saveFile, if_neg (by simp [hopen]), hdone]

/-- A save writes a file, if the disk allows it. -/
structure Resumes (s : StateFiles) (part : Part) (order : SaveOrder) : Prop where
  /-- The answer does not say that the file is unreadable. -/
  answer : (s.saveOrdered order).1 ≠ .error (.unreadable (s.path part))
  /-- If the disk allows it, and nothing befalls the operations on the file, it is written. -/
  granted : order.fates part = [] → s.disk.Admits (s.path part) →
    s.disk.Admits (temporaryPath (s.path part)) → (s.ended order part).1 = .ok ()
  /-- If it is written, it holds the text that is saved. -/
  text : (s.ended order part).1 = .ok () →
    (s.saveOrdered order).2.disk.read (s.path part) = .ok (order.text part)

/-- While the other file is saved, what this one holds stays. -/
theorem Secluded.read (hs : s.Secluded) {content : String}
    (hread : s.disk.read (s.path part) = .ok content) (fates : List Fate) (text : String) :
    (saveFile fates s (s.path part.other) text).2.disk.read (s.path part) = .ok content :=
  read_saveFile_other (hs.not_mem List.mem_cons_self (List.prefix_refl _)).1 hread

/-- While the other file is saved, a file can still be put where it could be. -/
theorem Secluded.admits (hs : s.Secluded) (part : Part) {file : String}
    (hp : s.disk.place file ∈ placesOf s.disk (s.path part)) (h : s.disk.Admits file)
    (fates : List Fate) (text : String) :
    (saveFile fates s (s.path part.other) text).2.disk.Admits file := by
  have hreach := (saveFile_ends fates s (s.path part.other) text).reaches
  refine ⟨hreach.slot h.1, ?_⟩
  rw [hreach.place, hs.item hp (List.prefix_refl _)]
  exact h.2

theorem Secluded.paths_ne (hs : s.Secluded) : s.capturesPath ≠ s.notesPath := by
  intro heq
  have hsame : Path.same s.capturesPath s.notesPath = false := hs.not_same .notes
  rw [heq] at hsame
  simp [Path.same] at hsame

theorem answer_eq_error {first second : Except StateFault Unit} {fault : StateFault}
    (h : answer first second = .error fault) : first = .error fault ∨ second = .error fault := by
  cases first with
  | error fault' => exact .inl h
  | ok _ => exact .inr h

theorem resumes_notes (hs : s.Secluded) (hopen : s.isLocked s.notesPath = false)
    (order : SaveOrder) : s.Resumes .notes order := by
  have hpaths := saveFile_samePaths order.noteFates s s.notesPath (order.text .notes)
  refine ⟨fun hanswer => ?_, fun hfates hpath hbeside => ?_, fun hok => ?_⟩
  · rw [saveOrdered_eq] at hanswer
    rcases answer_eq_error hanswer with h | h
    · have hlocked := (isLocked_of_unreadable h).2
      rw [hopen] at hlocked
      cases hlocked
    · exact hs.paths_ne (hpaths.capturesPath.symm.trans (isLocked_of_unreadable h).1.symm)
  · have hfates' : order.noteFates = [] := hfates
    rw [ended, hfates']
    exact saveFile_granted hopen hpath hbeside (order.text .notes)
  · have hread : (saveFile order.noteFates s s.notesPath (order.text .notes)).2.disk.read
        ((saveFile order.noteFates s s.notesPath (order.text .notes)).2.path .notes)
          = .ok (order.text .notes) := by
      rw [hpaths.path]
      exact (saveFile_ends order.noteFates s s.notesPath (order.text .notes)).read hok
    have hlater := (hpaths.secluded hs).read hread order.captureFates (order.text .captures)
    rw [hpaths.path .notes] at hlater
    rw [saveOrdered_eq]
    exact hlater

theorem resumes_captures (hs : s.Secluded) (hopen : s.isLocked s.capturesPath = false)
    (order : SaveOrder) : s.Resumes .captures order := by
  have hpaths := saveFile_samePaths order.noteFates s s.notesPath (order.text .notes)
  have hopen' : (saveFile order.noteFates s s.notesPath (order.text .notes)).2.isLocked
      s.capturesPath = false := by
    rw [isLocked, locked_saveFile]
    exact hopen
  refine ⟨fun hanswer => ?_, fun hfates hpath hbeside => ?_, fun hok => ?_⟩
  · rw [saveOrdered_eq] at hanswer
    rcases answer_eq_error hanswer with h | h
    · exact hs.paths_ne (isLocked_of_unreadable h).1
    · have hlocked := (isLocked_of_unreadable h).2
      rw [hpaths.capturesPath, hopen'] at hlocked
      cases hlocked
  · have hfates' : order.captureFates = [] := hfates
    have hpath' := hs.admits .captures List.mem_cons_self hpath order.noteFates
      (order.text .notes)
    have hbeside' := hs.admits .captures (List.mem_cons_of_mem _ List.mem_cons_self)
      hbeside order.noteFates (order.text .notes)
    rw [ended, hfates', hpaths.capturesPath]
    exact saveFile_granted hopen' hpath' hbeside' (order.text .captures)
  · have hread : (s.ended order .captures).2.disk.read
        (saveFile order.noteFates s s.notesPath (order.text .notes)).2.capturesPath
          = .ok (order.text .captures) :=
      (saveFile_ends order.captureFates _ _ (order.text .captures)).read hok
    rw [hpaths.capturesPath] at hread
    rw [saveOrdered_eq]
    exact hread

theorem resumes_of_open (hs : s.Secluded) (hopen : s.isLocked (s.path part) = false)
    (order : SaveOrder) : s.Resumes part order := by
  cases part with
  | notes => exact resumes_notes hs hopen order
  | captures => exact resumes_captures hs hopen order

/-! ## Until the next load -/

/-- A file that a load could not read is not written before the next load, whatever is saved and
whatever else is done to the disk.  Every save until then leaves it alone, says so, and does for the
other file what it would do without the lock.  A file that a load could read, or that was not there,
is written again by the saves until the next load. -/
theorem locks_last {s₀ : StateFiles} (hs : s₀.Secluded) (before quiet : List Event)
    (noteTrouble captureTrouble : Option DiskFault) (hquiet : ∀ e ∈ quiet, e.isLoad = false)
    (part : Part) (order : SaveOrder) :
    ((∃ fault, (s₀.run before).found noteTrouble captureTrouble part = .error fault
        ∧ fault ≠ .notFound) →
      (s₀.run (before ++ .load noteTrouble captureTrouble :: quiet)).Refuses part order)
    ∧ ((s₀.run before).found noteTrouble captureTrouble part = .error .notFound
        ∨ (∃ text, (s₀.run before).found noteTrouble captureTrouble part = .ok text) →
      (s₀.run (before ++ .load noteTrouble captureTrouble :: quiet)).Resumes part order) := by
  have hbefore := s₀.run_samePaths before
  generalize hrun : s₀.run before = s at hbefore
  have hload := loadWith_samePaths noteTrouble captureTrouble s
  have hafter := (s.loadWith noteTrouble captureTrouble).run_samePaths quiet
  have hlast : s₀.run (before ++ .load noteTrouble captureTrouble :: quiet)
      = (s.loadWith noteTrouble captureTrouble).run quiet := by
    rw [← hrun, run, List.foldl_append]
    rfl
  have hs' := (hbefore.trans (hload.trans hafter)).secluded hs
  have hlocked := isLocked_loadWith (hbefore.secluded hs) noteTrouble captureTrouble part
  rw [← isLocked_run _ hquiet, ← (hload.trans hafter).path] at hlocked
  rw [hlast]
  refine ⟨fun hfault => refuses_of_locked hs' (hlocked.2 hfault) order, fun hread => ?_⟩
  refine resumes_of_open hs' (Bool.eq_false_iff.2 fun htrue => ?_) order
  obtain ⟨fault, herror, hfault⟩ := hlocked.1 htrue
  rcases hread with hread | ⟨text, hread⟩
  · rw [hread] at herror
    cases herror
    exact hfault rfl
  · rw [hread] at herror
    cases herror

/-- A directory where the notes should be keeps them locked when it is gone, until the next load. -/
theorem locks_last_directory :
    let s₀ : StateFiles :=
      { disk := { items := .ofList [(["notes.json"], .directory)] }
        notesPath := "notes.json", capturesPath := "snaps.json" }
    let order : SaveOrder := { saved := {} }
    let quiet : List Event := [.outside .empty]
    let again := s₀.run (.load none none :: quiet)
    s₀.Secluded ∧ (∀ e ∈ quiet, e.isLoad = false)
      ∧ s₀.found none none .notes = .error .isDirectory ∧ again.Refuses .notes order
      ∧ again.found none none .notes = .error .notFound
      ∧ (s₀.run (.load none none :: quiet ++ [.load none none])).Resumes .notes order := by
  intro s₀ order quiet again
  have hs : s₀.Secluded := by
    intro part
    cases part <;> decide +kernel
  have hquiet : ∀ e ∈ quiet, e.isLoad = false := by decide
  have hfound : s₀.found none none .notes = .error .isDirectory := by decide +kernel
  have hgone : again.found none none .notes = .error .notFound := by decide +kernel
  have hrefuses : again.Refuses .notes order :=
    (locks_last hs [] quiet none none hquiet .notes order).1 ⟨_, hfound, nofun⟩
  have hresumes := (locks_last hs (.load none none :: quiet) [] none none nofun .notes order).2
    (.inl hgone)
  exact ⟨hs, hquiet, hfound, hrefuses, hgone, hresumes⟩

end Roster.StateFiles
