import Roster.Allocation.Queue
import Roster.Disk
import Roster.Remote
import Roster.Scan
import Roster.Toml.Document

/-!
# The configuration

The configuration is a TOML file.  Every key may be left out, and keys that are not known do not
count.  The two parts of it that are tables may also be arrays of their fields in order, with the
last ones left out or more of them behind.

Some numbers must be at least one.  A file that is not there is no fault.
-/

namespace Roster

/-- The configuration. -/
structure Config where
  /-- Seconds from one scan to the next. -/
  refreshIntervalSecs : Nat := 30
  /-- Seconds that a remote call may take. -/
  probeTimeoutSecs : Nat := 5
  /-- Seconds that connecting may take. -/
  connectTimeoutSecs : Nat := 2
  /-- How many nodes are visited at once. -/
  maxConcurrentProbes : Nat := 20
  /-- How many incidents are kept. -/
  errorLogCapacity : Nat := 200
  /-- Whether every scan takes the outputs of sessions. -/
  snapshotMode : Bool := false
  /-- How many lines of output are taken. -/
  captureLines : Nat := 10
  /-- The path of the notes. -/
  notesPath : Option String := none
  /-- The path of the outputs. -/
  snapshotsPath : Option String := none
  /-- Whose jobs are listed. -/
  user : Option String := none
  /-- The program that lists jobs. -/
  squeue : String := "squeue"
  /-- The program that expands nodes. -/
  scontrol : String := "scontrol"
  /-- The remote shell. -/
  sshProgram : String := "ssh"
  /-- More options of the remote shell. -/
  sshOptions : List String := []
deriving DecidableEq, Repr

/-- Why there is no configuration. -/
inductive ConfigFault where
  /-- The file could not be read. -/
  | unread (path : String) (fault : DiskFault)
  /-- The file is no TOML, or a value has the wrong type. -/
  | unparsed (path : String)
  /-- A value is out of range. -/
  | invalid (path reason : String)
deriving DecidableEq, Repr

namespace ConfigFault

/-- The fault in words. -/
def message : ConfigFault → String
  | unread path fault => "Failed to read config " ++ path ++ ": " ++ fault.message
  | unparsed path => "Failed to parse config " ++ path ++ ": not the expected TOML"
  | invalid path reason => "Invalid config " ++ path ++ ": " ++ reason

/-- Whether the fault comes from another one below it. -/
def hasCause : ConfigFault → Bool
  | invalid .. => false
  | _ => true

end ConfigFault

namespace Config

/-! ## Reading -/

/-- A number that is not negative. -/
def natural? : Toml → Option Nat
  | .integer n => if 0 ≤ n then some n.toNat else none
  | _ => none

/-- A truth value. -/
def boolean? : Toml → Option Bool
  | .boolean b => some b
  | _ => none

/-- A string. -/
def string? : Toml → Option String
  | .string s => some s
  | _ => none

/-- An array of strings. -/
def strings? : Toml → Option (List String)
  | .array items => items.mapM string?
  | _ => none

/-- The value of a key, or another one where the key is left out. -/
def fieldOr {α : Type} (fields : List (String × Toml)) (key : String) (read : Toml → Option α)
    (other : α) : Option α :=
  match Toml.field? key fields with
  | none => some other
  | some v => read v

/-- The fields of a part with the given keys: a table, or an array in the order of the keys.  A
moment counts as a table that has none of them. -/
def part? (keys : List String) : Toml → Option (List (String × Toml))
  | .table fields => some fields
  | .array items => some (keys.zip items)
  | .moment => some []
  | _ => none

/-- The configuration of a document. -/
def ofFields (fields : List (String × Toml)) : Option Config := do
  let base : Config := {}
  let refreshIntervalSecs ←
    fieldOr fields "refresh_interval_secs" natural? base.refreshIntervalSecs
  let probeTimeoutSecs ← fieldOr fields "probe_timeout_secs" natural? base.probeTimeoutSecs
  let connectTimeoutSecs ← fieldOr fields "connect_timeout_secs" natural? base.connectTimeoutSecs
  let maxConcurrentProbes ←
    fieldOr fields "max_concurrent_probes" natural? base.maxConcurrentProbes
  let errorLogCapacity ← fieldOr fields "error_log_capacity" natural? base.errorLogCapacity
  let snapshotMode ← fieldOr fields "snapshot_mode" boolean? base.snapshotMode
  let captureLines ← fieldOr fields "capture_lines" natural? base.captureLines
  let notesPath ← fieldOr fields "notes_path" (some <$> string? ·) base.notesPath
  let snapshotsPath ← fieldOr fields "snapshots_path" (some <$> string? ·) base.snapshotsPath
  let scheduler ← fieldOr fields "scheduler" (part? ["user", "squeue", "scontrol"]) []
  let user ← fieldOr scheduler "user" (some <$> string? ·) base.user
  let squeue ← fieldOr scheduler "squeue" string? base.squeue
  let scontrol ← fieldOr scheduler "scontrol" string? base.scontrol
  let ssh ← fieldOr fields "ssh" (part? ["program", "extra_options"]) []
  let sshProgram ← fieldOr ssh "program" string? base.sshProgram
  let sshOptions ← fieldOr ssh "extra_options" strings? base.sshOptions
  return { refreshIntervalSecs, probeTimeoutSecs, connectTimeoutSecs, maxConcurrentProbes,
           errorLogCapacity, snapshotMode, captureLines, notesPath, snapshotsPath, user, squeue,
           scontrol, sshProgram, sshOptions }

/-- What is out of range. -/
def flaw? (c : Config) : Option String :=
  if c.refreshIntervalSecs = 0 then some "refresh_interval_secs must be at least 1"
  else if c.probeTimeoutSecs = 0 then some "probe_timeout_secs must be at least 1"
  else if c.maxConcurrentProbes = 0 then some "max_concurrent_probes must be at least 1"
  else none

/-- The configuration of a text. -/
def ofText (path text : String) : Except ConfigFault Config :=
  match (Toml.read? text).bind ofFields with
  | none => .error (.unparsed path)
  | some c =>
      match c.flaw? with
      | some reason => .error (.invalid path reason)
      | none => .ok c

/-- The configuration of a file, if the file is there. -/
def load (disk : Disk) (path : String) : Except ConfigFault (Option Config) :=
  if disk.present path then
    match disk.read path with
    | .error fault => .error (.unread path fault)
    | .ok text => (ofText path text).map some
  else .ok none

/-- The configuration of a file, or the default one if the file is not there. -/
def loadOrDefault (disk : Disk) (path : String) : Except ConfigFault Config :=
  (load disk path).map (·.getD {})

/-- Whether a file of this mode may be read by everyone. -/
def isWorldReadable (mode : Nat) : Bool := mode.testBit 2

/-! ## What follows from it -/

/-- The bound of the seconds that a duration holds. -/
def secondsBound : Nat := 18446744073709551616

/-- The time from one scan to the next. -/
def refreshInterval (c : Config) : Duration := .ofSeconds (max c.refreshIntervalSecs 1)

/-- The time that a remote call may take. -/
def probeTimeout (c : Config) : Duration := .ofSeconds (max c.probeTimeoutSecs 1)

/-- The deadline of a scan's calls, one second above that of a remote call so that the remote call
reports first.  There is none if a duration does not hold it. -/
def deadline? (c : Config) : Option Duration :=
  let seconds := c.probeTimeout.seconds + 1
  if seconds < secondsBound then some (.ofSeconds seconds) else none

/-- How nodes are scanned. -/
def scanOptions? (c : Config) : Option Scan.Options :=
  c.deadline?.map fun deadline =>
    { maxConcurrent := max c.maxConcurrentProbes 1
      deadline
      captureLines := if c.snapshotMode then some c.captureLines else none }

/-- How the scheduler is asked. -/
def queueOptions (c : Config) : Queue.Options :=
  { user := c.user, squeue := c.squeue, scontrol := c.scontrol }

/-- How nodes are reached. -/
def remoteOptions (c : Config) : Remote.Options :=
  { program := c.sshProgram
    connectTimeout := .ofSeconds c.connectTimeoutSecs
    extraOptions := c.sshOptions }

/-- Where the notes are, for a user with the given home. -/
def notesFile (c : Config) (home : String) : String :=
  c.notesPath.getD (Path.join home ".nodemux_notes.json")

/-- Where the outputs are, for a user with the given home. -/
def snapshotsFile (c : Config) (home : String) : String :=
  c.snapshotsPath.getD (Path.join home ".nodemux_snapshots.json")

/-- Where the configuration is, if nothing else is said.  The directory given must be absolute to
count. -/
def defaultPath (home : String) (configHome : Option String) : String :=
  let base := (configHome.filter Path.isAbsolute).getD (Path.join home ".config")
  Path.join (Path.join base "nodemux") "config.toml"

example : ((Toml.read? "probe_timeout_secs = 8\nssh = ['p', ['-v']]").bind ofFields)
    = some { probeTimeoutSecs := 8, sshProgram := "p", sshOptions := ["-v"] } := by decide +kernel

example : ((Toml.read? "capture_lines = -1").bind ofFields) = none := by decide +kernel

end Config

end Roster
