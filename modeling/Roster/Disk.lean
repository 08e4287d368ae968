import Roster.Disk.Path
import Roster.Table

/-!
# The disk

The disk holds files and directories under *places*, the lists of the names that lead there from
the root.  A relative path starts at the working directory.

Every name on a path but the last must lead to a directory.  What is made or moved gets the last
name, which then must be a name: where it is a dot or two, the directory that it leads to is in
use.  Paths and names have a greatest length in bytes.

Changes are made by operations (`FileOp`).  An operation has a *fate*: it is granted and does what
the disk allows, or it is refused, or, if it writes, it is torn and leaves something else behind.
`attemptAll` tries operations up to the first fault.
-/

namespace Roster

/-- Why the disk refuses. -/
inductive DiskFault where
  /-- There is nothing at the place. -/
  | notFound
  /-- A file stands where a directory should. -/
  | notDirectory
  /-- A directory stands where a file should. -/
  | isDirectory
  /-- Something stands at the place already. -/
  | alreadyExists
  /-- Access is denied. -/
  | denied
  /-- The directory is in use. -/
  | busy
  /-- The path or a name on it is too long. -/
  | nameTooLong
  /-- The path holds a NUL. -/
  | nulInPath
  /-- The file does not hold text. -/
  | notText
  /-- Any other reason. -/
  | other (reason : String)
deriving DecidableEq, Repr

/-- The fault in words. -/
def DiskFault.message : DiskFault → String
  | notFound => "No such file or directory (os error 2)"
  | denied => "Permission denied (os error 13)"
  | busy => "Device or resource busy (os error 16)"
  | alreadyExists => "File exists (os error 17)"
  | notDirectory => "Not a directory (os error 20)"
  | isDirectory => "Is a directory (os error 21)"
  | nameTooLong => "File name too long (os error 36)"
  | nulInPath => "file name contained an unexpected NUL byte"
  | notText => "stream did not contain valid UTF-8"
  | other reason => reason

/-- What a file holds: text, or bytes that are no text. -/
inductive File where
  /-- Text. -/
  | text (s : String)
  /-- Bytes that are no text. -/
  | bytes (b : List UInt8)
deriving DecidableEq, Repr

/-- What stands at a place. -/
inductive Item where
  /-- A file. -/
  | file (f : File)
  /-- A directory. -/
  | directory
deriving DecidableEq, Repr

/-- The names that lead to an item from the root. -/
abbrev Place := List String

/-- Files and directories. -/
structure Disk where
  /-- What stands at each place but the root. -/
  items : Table Place Item := .empty
  /-- The working directory. -/
  cwd : Place := []
deriving DecidableEq

namespace Disk

/-! ## Finding the way -/

/-- The greatest length of a path in bytes. -/
def maxPathBytes : Nat := 4095

/-- The greatest length of a name in bytes. -/
def maxNameBytes : Nat := 255

/-- What stands at a place. -/
def item? (d : Disk) (p : Place) : Option Item :=
  if p = [] then some .directory else d.items.get? p

/-- The place of a name in a directory. -/
def below (dir : Place) (name : String) : Except DiskFault Place :=
  if maxNameBytes < name.utf8ByteSize then .error .nameTooLong else .ok (dir ++ [name])

/-- Goes on only from a directory. -/
def inside (d : Disk) (p : Place) : Except DiskFault Unit :=
  match d.item? p with
  | none => .error .notFound
  | some (.file _) => .error .notDirectory
  | some .directory => .ok ()

/-- Follows names from a place. -/
def walk (d : Disk) : Place → List String → Except DiskFault Place
  | here, [] => .ok here
  | here, name :: rest => do
      d.inside here
      if name = "." then walk d here rest
      else if name = ".." then walk d here.dropLast rest
      else walk d (← below here name) rest

/-- Where a path starts, if it can be the text of one. -/
def start (d : Disk) (path : String) : Except DiskFault Place :=
  if path.toList.contains '\x00' then .error .nulInPath
  else if path = "" then .error .notFound
  else if maxPathBytes < path.utf8ByteSize then .error .nameTooLong
  else .ok (if Path.isAbsolute path then [] else d.cwd)

/-- What stands at a path, and its place. -/
def find (d : Disk) (path : String) : Except DiskFault (Place × Item) := do
  let p ← d.walk (← d.start path) (Path.names path)
  match d.item? p with
  | none => .error .notFound
  | some (.file f) => if Path.endsInSlash path then .error .notDirectory else .ok (p, .file f)
  | some .directory => .ok (p, .directory)

/-- The directory that the last name of a path stands in, and that name, if it is one. -/
def findLast (d : Disk) (path : String) : Except DiskFault (Place × Option String) := do
  let first ← d.start path
  match (Path.names path).getLast? with
  | none => .ok (first, none)
  | some last => do
      let dir ← d.walk first (Path.names path).dropLast
      d.inside dir
      .ok (dir, if last = "." ∨ last = ".." then none else some last)

/-- Whether anything stands at a path. -/
def present (d : Disk) (path : String) : Bool := (d.find path).toBool

/-- Whether a directory stands at a path. -/
def isDirectory (d : Disk) (path : String) : Bool :=
  match d.find path with
  | .ok (_, .directory) => true
  | _ => false

/-- The text of the file at a path. -/
def read (d : Disk) (path : String) : Except DiskFault String := do
  match ← d.find path with
  | (_, .directory) => .error .isDirectory
  | (_, .file (.bytes _)) => .error .notText
  | (_, .file (.text s)) => .ok s

/-! ## Operations -/

/-- Sets what stands at a place. -/
def put (d : Disk) (p : Place) (item : Item) : Disk := { d with items := d.items.insert p item }

/-- Writes a file, in place of one that is there. -/
def writeFile (d : Disk) (path : String) (f : File) : Except DiskFault Disk := do
  match ← d.findLast path with
  | (_, none) => .error .isDirectory
  | (dir, some name) =>
      if Path.endsInSlash path then .error .isDirectory
      else do
        let p ← below dir name
        match d.item? p with
        | some .directory => .error .isDirectory
        | _ => .ok (d.put p (.file f))

/-- Moves a file to another path, in place of a file that is there. -/
def moveFile (d : Disk) (source target : String) : Except DiskFault Disk := do
  match ← d.findLast source, ← d.findLast target with
  | (_, none), _ => .error .busy
  | _, (_, none) => .error .busy
  | (dir, some name), (targetDir, some targetName) => do
      let p ← below dir name
      match d.item? p with
      | none => .error .notFound
      | some .directory => .error .isDirectory
      | some (.file f) => do
          let q ← below targetDir targetName
          if Path.endsInSlash source || Path.endsInSlash target then .error .notDirectory
          else match d.item? q with
            | some .directory => .error .isDirectory
            | _ => .ok { d with items := (d.items.erase p).insert q (.file f) }

/-- Makes a directory in one that is there. -/
def makeDir (d : Disk) (path : String) : Except DiskFault Disk := do
  match ← d.findLast path with
  | (_, none) => .error .alreadyExists
  | (dir, some name) => do
      let p ← below dir name
      match d.item? p with
      | some _ => .error .alreadyExists
      | none => .ok (d.put p .directory)

/-- Makes directories, each above the next. -/
def makeEach (d : Disk) : List String → Option DiskFault × Disk
  | [] => (none, d)
  | path :: rest =>
      match d.makeDir path with
      | .ok d => makeEach d rest
      | .error fault => if d.isDirectory path then makeEach d rest else (some fault, d)

/-- Makes the first directory that can be made, each below the next, and then those `missing`
below it. -/
def makeFirst (d : Disk) : List String → List String → Option DiskFault × Disk
  | [], missing => d.makeEach missing
  | path :: above, missing =>
      match d.makeDir path with
      | .ok d => d.makeEach missing
      | .error .notFound => makeFirst d above (path :: missing)
      | .error fault => if d.isDirectory path then d.makeEach missing else (some fault, d)

/-- Makes a directory and all that are missing on the way.  What was made before a fault stays. -/
def makeDirs (d : Disk) (path : String) : Option DiskFault × Disk :=
  d.makeFirst (Path.ancestors path) []

/-- Removes what stands at a path, with all below. -/
def remove (d : Disk) (path : String) : Except DiskFault Disk := do
  let (p, _) ← d.find path
  return { d with items := d.items.filter fun q _ => !p.isPrefixOf q }

/-- A change of the disk. -/
inductive FileOp where
  /-- Makes a directory and all that are missing on the way. -/
  | makeDirs (path : String)
  /-- Writes a text to a file. -/
  | write (path text : String)
  /-- Moves a file. -/
  | rename (source target : String)
deriving DecidableEq, Repr

/-- The disk after an operation that does nothing or all, and the fault if it failed. -/
def outcome (d : Disk) : Except DiskFault Disk → Option DiskFault × Disk
  | .ok d => (none, d)
  | .error fault => (some fault, d)

/-- The disk after an operation, and the fault if it failed. -/
def apply (d : Disk) : FileOp → Option DiskFault × Disk
  | .makeDirs path => d.makeDirs path
  | .write path text => d.outcome (d.writeFile path (.text text))
  | .rename source target => d.outcome (d.moveFile source target)

/-! ## Fates -/

/-- What becomes of an operation. -/
inductive Fate where
  /-- The disk does it, if it can. -/
  | granted
  /-- It is refused, and nothing changes. -/
  | refused (fault : DiskFault)
  /-- It fails on the way; a write leaves something else in the file. -/
  | torn (fault : DiskFault) (left : File)
deriving DecidableEq, Repr

/-- The disk after an operation with its fate, and the fault if it failed. -/
def attempt (d : Disk) : Fate → FileOp → Option DiskFault × Disk
  | .granted, op => d.apply op
  | .refused fault, _ => (some fault, d)
  | .torn fault left, .write path _ =>
      match d.writeFile path left with
      | .ok d => (some fault, d)
      | .error fault => (some fault, d)
  | .torn fault _, _ => (some fault, d)

/-- The disk after operations, each with its fate, up to the first fault.  Operations without a
fate are granted. -/
def attemptAll (d : Disk) : List Fate → List FileOp → Option DiskFault × Disk
  | _, [] => (none, d)
  | fates, op :: ops =>
      match d.attempt (fates.headD .granted) op with
      | (some fault, d) => (some fault, d)
      | (none, d) => attemptAll d fates.tail ops

example :
    let d : Disk := { items := .ofList [(["a"], .directory)] }
    ((d.writeFile "/a/c.tmp" (.text "x")).bind (moveFile · "/a/c.tmp" "/a/c")
      |>.bind (read · "/a/c")) = .ok "x" := by rfl

/-- A file can be moved to no place that a dot names. -/
example :
    let d : Disk := { items := .ofList [(["a"], .directory), (["a", "f"], .file (.text "x"))] }
    d.moveFile "/a/f" "/a/." = .error .busy ∧ d.moveFile "/a/f" "/a/" = .error .notDirectory := by
  constructor <;> rfl

/-- Two dots lead back from a directory that was made for them. -/
example : (makeDirs {} "/a/../b").2.items.keys = [["a"], ["b"]] := by rfl

end Disk

end Roster
