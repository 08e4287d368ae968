import Roster.CommandLine
import Roster.Config
import Roster.Engine
import Roster.State.Files

/-!
# Setting up an engine

What a configuration and the settings of the command line mean for an engine: its options, what it
calls and where its notes and outputs last.  A setting from the command line counts more than the
configuration, and a number of it is at least one.
-/

namespace Roster.Config

/-- The configuration with the settings of the command line. -/
def withSettings (c : Config) (s : Settings) : Config :=
  { c with
    refreshIntervalSecs := (s.interval.map (max 1)).getD c.refreshIntervalSecs
    snapshotMode := c.snapshotMode || s.snapshot
    user := s.user <|> c.user
    maxConcurrentProbes := (s.maxConcurrent.map (max 1)).getD c.maxConcurrentProbes
    probeTimeoutSecs := (s.probeTimeout.map (max 1)).getD c.probeTimeoutSecs }

/-- What is set of an engine.  There is no engine if the deadline of its scans is too long for a
duration. -/
def engineOptions? (c : Config) : Option Engine.Options :=
  c.scanOptions?.map fun scan =>
    { refreshInterval := c.refreshInterval
      scan
      errorCapacity := c.errorLogCapacity
      captureLines := c.captureLines }

/-- What an engine calls, for the user who runs the program. -/
def services (c : Config) (programs : Programs) (self : Option String) : Services :=
  .remote programs c.queueOptions self c.remoteOptions c.probeTimeout

/-- The files of notes and outputs, for a user with the given home. -/
def stateFiles (c : Config) (home : String) (disk : Disk) : StateFiles :=
  { disk, notesPath := c.notesFile home, capturesPath := c.snapshotsFile home }

/-- The commands that one call of a probe runs. -/
def callLog (c : Config) (programs : Programs) (call : Scan.Call) : List Command :=
  let line := match call.question with
    | .list => Line.list
    | .capture session lines => Line.capture session lines
  Remote.log programs c.remoteOptions false call.node (some line)

/-- The commands that an engine has run. -/
def engineLog {σ : Type} (c : Config) (programs : Programs) (self : Option String)
    (e : Engine σ) : List Command :=
  (List.replicate e.resolutions (Queue.log programs c.queueOptions self)).flatten
    ++ e.calls.flatMap (c.callLog programs)
    ++ e.actions.flatMap (Action.log programs c.remoteOptions)

end Roster.Config
