import Roster.Report
import Roster.Setup

/-!
# The program

`run` is all that the program does between its start and its end.  It reads the command line and
the configuration, starts an engine, does the task and stops the engine.  What it takes from
outside is in `Surroundings`, and what it leaves is in `Outcome`.

A session is not ended without confirmation, and that is said before any node is called.  What a
stop cannot save is a warning, which comes before the fault of the task.
-/

namespace Roster.Program

/-- What the program takes from outside. -/
structure Surroundings where
  /-- The words of the command line. -/
  words : List String
  /-- The variables of the environment. -/
  env : String → Option String
  /-- The disk. -/
  disk : Disk
  /-- What becomes of commands. -/
  programs : Programs
  /-- The reading of the clock that waits go by. -/
  time : Nat
  /-- The reading of the clock for times that are filed. -/
  clock : Instant

/-- What the program leaves. -/
structure Outcome where
  /-- The exit status. -/
  status : Nat
  /-- What is printed. -/
  out : String := ""
  /-- What is said of failures. -/
  err : String := ""
  /-- The disk. -/
  disk : Disk
  /-- The commands that were run. -/
  commands : List Command := []

namespace Surroundings

/-- The home of the user, or the directory at hand if there is none. -/
def home (s : Surroundings) : String := ((s.env "HOME").filter (· != "")).getD "."

/-- The user who runs the program. -/
def self (s : Surroundings) : Option String := s.env "USER"

/-- Where the configuration is. -/
def configPath (s : Surroundings) (settings : Settings) : String :=
  settings.config.getD (Config.defaultPath s.home (s.env "XDG_CONFIG_HOME"))

/-- The configuration with the settings of the command line. -/
def configure (s : Surroundings) (settings : Settings) : Except ConfigFault Config :=
  (Config.loadOrDefault s.disk (s.configPath settings)).map (·.withSettings settings)

end Surroundings

/-! ## Tasks -/

/-- How long a stop waits for a cycle, in milliseconds. -/
def stopGrace : Nat := 3000

/-- What is said on a line of its own about a failure. -/
def complaint (message : String) : String := "nodemux: " ++ message ++ "\n"

/-- What a task prints, or why it failed. -/
abbrev Reply := Except String String

/-- The reply of a command that says something if it succeeds. -/
def replyOf {ε : Type} (message : ε → String) (text : String) : Except ε Unit → Reply
  | .ok () => .ok text
  | .error fault => .error (message fault)

/-- What is said when a note is gone. -/
def removed (id : Identity) : String := Report.unlines ["Note on '" ++ id.key ++ "' removed."]

/-- Does a task. -/
def perform {σ : Type} (e : Engine σ) : Task → Reply × Engine σ
  | .list query json =>
      (.ok (if json then Report.unlines [e.view.toJson.write]
        else Report.unlines (Report.inventory e.view query)), e)
  | .watch query => (.ok (Report.screen e.view query), e)
  | .errors json =>
      (.ok (if json then Report.unlines [(Json.array (e.incidents.map Incident.toJson)).write]
        else Report.unlines (Report.incidents e.incidents)), e)
  | .note id words =>
      let text := " ".intercalate words
      let (result, e) := e.perform fun _ => .setNote id text
      let said := if Text.trim text = "" then removed id
        else Report.unlines ["Note on '" ++ id.key ++ "' saved."]
      (replyOf KeeperFault.message said result, e)
  | .unnote id =>
      let (result, e) := e.perform fun _ => .deleteNote id
      (replyOf KeeperFault.message (removed id) result, e)
  | .forget id =>
      let (result, e) := e.perform fun _ => .forget id
      (replyOf KeeperFault.message (Report.unlines ["Forgot '" ++ id.key ++ "'."]) result, e)
  | .attach id =>
      let (result, e) := e.act (.attach id)
      (replyOf ActionFault.message "" result, e)
  | .shell node =>
      let (result, e) := e.act (.shell node)
      (replyOf ActionFault.message "" result, e)
  | .new node name =>
      let (result, e) := e.act (.create node name)
      (replyOf ActionFault.message
        (Report.unlines ["Session '" ++ name ++ "' created on " ++ node ++ "."]) result, e)
  | .kill id _ =>
      let (result, e) := e.act (.kill id)
      (replyOf ActionFault.message
        (Report.unlines ["Session '" ++ id.key ++ "' killed."]) result, e)
  | .capture id =>
      let (result, e) := e.capture id
      match result with
      | .ok text => (.ok (Report.unlines [text]), e)
      | .error fault => (.error fault.message, e)

/-- What is said instead of doing the task, if it must not be done. -/
def objection? : Task → Option String
  | .kill id false => some ("refusing to kill " ++ id.key ++ " without --yes")
  | _ => none

/-! ## The run -/

/-- Starts an engine, does the task and stops the engine.  Without an engine the program breaks
off, with an exit status of its own. -/
def runEngine {σ : Type} (s : Surroundings) (c : Config) (task : Task) (gateway : Gateway σ)
    (state : σ) (diskOf : σ → Disk) : Outcome :=
  let services := c.services s.programs s.self
  match c.engineOptions?.map fun options =>
      Engine.start options services gateway state s.time s.clock with
  | none => { status := 101, disk := s.disk }
  | some (.error broken) =>
      { status := 101
        disk := diskOf broken.keeper.state
        commands := c.engineLog s.programs s.self broken }
  | some (.ok engine) =>
      let (reply, busy) := perform engine task
      let (stopped, last) := busy.stop stopGrace
      let warning := match stopped with
        | .ok () => ""
        | .error fault => complaint ("warning: " ++ fault.message)
      let disk := diskOf last.keeper.state
      let commands := c.engineLog s.programs s.self last
      match reply with
      | .ok out => { status := 0, out, err := warning, disk, commands }
      | .error message => { status := 1, err := warning ++ complaint message, disk, commands }

/-- Does the task with a configuration. -/
def runTask (s : Surroundings) (settings : Settings) (c : Config) (task : Task) : Outcome :=
  match objection? task with
  | some message => { status := 1, err := complaint message, disk := s.disk }
  | none =>
      if settings.ephemeral then runEngine s c task Memory.gateway {} fun _ => s.disk
      else
        runEngine s c task StateFiles.gateway (c.stateFiles s.home s.disk) StateFiles.disk

/-- How the program is used. -/
def usage : String := Report.unlines
  ["Usage: nodemux [OPTIONS] [COMMAND]", "",
   "Commands: " ++ ", ".intercalate (CommandLine.Verb.all.map (·.word)), "",
   "Options: "
     ++ ", ".intercalate (CommandLine.Level.outer.options.map fun o => "--" ++ o.word)]

/-- The name and the version of the program. -/
def versionLine : String := "nodemux 0.1.0\n"

/-- The run of the program. -/
def run (s : Surroundings) : Outcome :=
  match CommandLine.read s.env s.words with
  | .error .help => { status := 0, out := usage, disk := s.disk }
  | .error .version => { status := 0, out := versionLine, disk := s.disk }
  | .error .misuse => { status := 2, err := usage, disk := s.disk }
  | .ok (settings, task) =>
      match s.configure settings with
      | .error fault => { status := 1, err := complaint fault.message, disk := s.disk }
      | .ok c => runTask s settings c task

end Roster.Program
