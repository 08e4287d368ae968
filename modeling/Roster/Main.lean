import Roster.Program
import Std.Time.DateTime.Timestamp

/-!
# The command

The outermost layer.  It brings the files that the program may touch onto a disk, runs the program
and carries the changes of the disk out.  This layer starts no other programs, so every command is
refused here, and the program says so.
-/

namespace Roster.Main

/-- Brings what stands at a path onto the disk, with the directories above it. -/
def bring (d : Disk) (path : String) : IO Disk := do
  let d := match Path.parent? path with
    | some above => (d.makeDirs above).2
    | none => d
  try
    let bytes ← IO.FS.readBinFile path
    let file : File := match String.fromUTF8? bytes with
      | some text => .text text
      | none => .bytes bytes.toList
    return (d.writeFile path file).toOption.getD d
  catch
    | .noFileOrDirectory .. => return d
    | _ => return (d.makeDirs path).2

/-- The paths that may change with a path. -/
def siblings (path : String) : List String :=
  [path, StateFiles.temporaryPath path, StateFiles.corruptPath path]

/-- Carries out what has changed at a path. -/
def carryOut (before after : Disk) (path : String) : IO Unit := do
  let item := (after.find path).toOption.map (·.2)
  if item != (before.find path).toOption.map (·.2) then
    match item with
    | none => IO.FS.removeFile path
    | some .directory => IO.FS.createDirAll path
    | some (.file content) => do
        match Path.parent? path with
        | some above => if above != "" then IO.FS.createDirAll above
        | none => pure ()
        match content with
        | .text text => IO.FS.writeFile path text
        | .bytes bytes => IO.FS.writeBinFile path ⟨bytes.toArray⟩

/-- The reading of the clock for times that are filed. -/
def readClock : IO Instant := do
  let now ← Std.Time.Timestamp.now
  return ⟨now.val.second.val, now.val.nano.val.toNat⟩

/-- The variables of the environment that the program looks at. -/
def watchedNames : List String :=
  ["HOME", "USER", "XDG_CONFIG_HOME", "NODEMUX_CONFIG", "NODEMUX_INTERVAL", "NODEMUX_USER"]

/-- The surroundings with nothing on the disk. -/
def bareSurroundings (words : List String) : IO Program.Surroundings := do
  let env ← watchedNames.filterMapM fun name => do
    return (← IO.getEnv name).map fun value => (name, value)
  return {
    words
    env := fun name => env.lookup name
    disk := {}
    programs := fun _ => .refused DiskFault.notFound.message
    time := ← IO.monoMsNow
    clock := ← readClock }

/-- The paths of the configuration and, once that is on the disk, of notes and outputs. -/
def paths (s : Program.Surroundings) : List String × List String :=
  match CommandLine.read s.env s.words with
  | .error _ => ([], [])
  | .ok (settings, _) =>
      ([s.configPath settings],
        match s.configure settings with
        | .error _ => []
        | .ok c => [c.notesFile s.home, c.snapshotsFile s.home].flatMap siblings)

end Roster.Main

/-- Runs the program. -/
def main (words : List String) : IO UInt32 := do
  let bare ← Roster.Main.bareSurroundings words
  let disk ← (Roster.Main.paths bare).1.foldlM Roster.Main.bring bare.disk
  let files := (Roster.Main.paths { bare with disk }).2
  let before ← files.foldlM Roster.Main.bring disk
  let outcome := Roster.Program.run { bare with disk := before }
  files.forM (Roster.Main.carryOut before outcome.disk)
  (← IO.getStdout).putStr outcome.out
  (← IO.getStderr).putStr outcome.err
  return outcome.status.toUInt32
