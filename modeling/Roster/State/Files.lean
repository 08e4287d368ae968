import Roster.Disk
import Roster.State.Text

/-!
# State files

Notes and outputs last in two files.

Loading takes a file that is missing or blank as empty.  A file that does not hold what it should
is moved aside, to its path with `.corrupt` behind it.  A file that cannot be read for another
reason is *locked*: it is not written until a later load can read it.

Saving writes each file beside its place, to its path with `.tmp` behind it, and then moves it
there, so that the place holds the old text or the new one.  Both files are tried, and the first
fault is given.
-/

namespace Roster

open Disk (FileOp Fate)

/-- The two files and the disk that they are on. -/
structure StateFiles where
  /-- The disk. -/
  disk : Disk
  /-- The path of the notes. -/
  notesPath : String
  /-- The path of the outputs. -/
  capturesPath : String
  /-- The paths that are locked. -/
  locked : List String := []
deriving DecidableEq

namespace StateFiles

/-! ## Loading -/

/-- Where a file that does not hold what it should is moved. -/
def corruptPath (path : String) : String := path ++ ".corrupt"

/-- The warning of a file that was moved aside, or could not be. -/
def malformedWarning (path : String) (moved : Bool) : String :=
  path ++ " is malformed (not the expected JSON)"
    ++ (if moved then "; moved to " ++ corruptPath path else "")

/-- Whether a path is locked. -/
def isLocked (s : StateFiles) (path : String) : Bool := s.locked.any (Path.same path)

/-- Takes the lock off a path. -/
def unlock (s : StateFiles) (path : String) : StateFiles :=
  { s with locked := s.locked.filter fun p => !Path.same path p }

/-- Puts a lock on a path. -/
def lock (s : StateFiles) (path : String) : StateFiles :=
  if s.isLocked path then s else { s with locked := path :: s.locked }

/-- What one file holds and the warnings on the way, by the decoder of its text. -/
def loadFile {α : Type} (decode : String → Option (Table String α)) (s : StateFiles)
    (path : String) : Table String α × List String × StateFiles :=
  match s.disk.read path with
  | .error .notFound => (.empty, [], s.unlock path)
  | .error fault =>
      (.empty, [(StateFault.read path fault.message).message ++ "; leaving it untouched"],
        s.lock path)
  | .ok text =>
      if Text.isBlankText text then (.empty, [], s.unlock path)
      else match decode text with
        | some t => (t, [], s.unlock path)
        | none =>
            match s.disk.moveFile path (corruptPath path) with
            | .ok disk => (.empty, [malformedWarning path true], { s with disk }.unlock path)
            | .error _ => (.empty, [malformedWarning path false], s.unlock path)

/-- Brings back what the files hold. -/
def load (s : StateFiles) : Loaded × StateFiles :=
  let (noteTable, noteFlaws, s) := loadFile (StateText.readTable Json.readString) s s.notesPath
  let (notes, badNotes) := StateText.notesOf noteTable
  let (captureTable, captureFlaws, s) :=
    loadFile (StateText.readTable StateText.captured) s s.capturesPath
  let (captures, badCaptures) := StateText.capturesOf captureTable
  ({ notes, captures, warnings := noteFlaws ++ badNotes ++ captureFlaws ++ badCaptures }, s)

/-! ## Saving -/

/-- Where a file is written first. -/
def temporaryPath (path : String) : String := path ++ ".tmp"

/-- The operations that write a file. -/
def writeOps (path text : String) : List FileOp :=
  (match Path.parent? path with
    | none => []
    | some parent => if parent = "" then [] else [.makeDirs parent])
    ++ [.write (temporaryPath path) text, .rename (temporaryPath path) path]

/-- Writes one file, unless it is locked. -/
def saveFile (fates : List Fate) (s : StateFiles) (path text : String) :
    Except StateFault Unit × StateFiles :=
  if s.isLocked path then (.error (.unreadable path), s)
  else match s.disk.attemptAll fates (writeOps path text) with
    | (none, disk) => (.ok (), { s with disk })
    | (some fault, disk) => (.error (.write path fault.message), { s with disk })

/-- Saves both files, with fates for the operations on each. -/
def saveWith (noteFates captureFates : List Fate) (saved : Saved) (s : StateFiles) :
    Except StateFault Unit × StateFiles :=
  let (first, s) := saveFile noteFates s s.notesPath (StateText.writeNotes saved.notes)
  let (second, s) := saveFile captureFates s s.capturesPath (StateText.writeCaptures saved.captures)
  match first with
  | .error fault => (.error fault, s)
  | .ok () => (second, s)

/-- Saves both files, on a disk that does what it can. -/
def save (saved : Saved) (s : StateFiles) : Except StateFault Unit × StateFiles :=
  saveWith [] [] saved s

/-- The gateway that keeps notes and outputs in the two files. -/
def gateway : Gateway StateFiles where
  load s := (.ok s.load.1, s.load.2)
  save := save

end StateFiles

end Roster
