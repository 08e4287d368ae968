import Roster.Identity
import Roster.Remote
import Roster.Session.Line

/-!
# Actions on sessions

A user may make, end and enter sessions and open a shell on a node.  Entering hands over the
terminal, so there is no output to report.  The exit status of a shell is that of the user's last
command; only the status 255 says that the shell was not reached.
-/

namespace Roster

/-- Why an action came to nothing. -/
inductive ActionFault where
  /-- The name of the session to be made has a fault. -/
  | invalidName (reason : String)
  /-- The session does not run. -/
  | offline (id : Identity)
  /-- The call came to nothing. -/
  | remote (node : String) (fault : Remote.Fault)
  /-- The command line failed on the node. -/
  | failed (node : String) (status : Option Int) (err : String)
deriving DecidableEq, Repr

namespace ActionFault

/-- The fault in words. -/
def message : ActionFault → String
  | invalidName reason => "invalid session name: " ++ reason
  | offline id => "session is offline: " ++ id.key
  | remote node fault => node ++ ": " ++ fault.message
  | failed node status err =>
      node ++ ": remote command failed (status " ++ Remote.statusText status ++ "): " ++ err

/-- The node that the action was for, if it got that far. -/
def node? : ActionFault → Option String
  | invalidName _ => none
  | offline id => some id.node
  | remote node _ => some node
  | failed node _ _ => some node

end ActionFault

/-- Something done on a node. -/
inductive Action where
  /-- Makes a session. -/
  | create (node name : String)
  /-- Ends a session. -/
  | kill (id : Identity)
  /-- Attaches the terminal to a session. -/
  | attach (id : Identity)
  /-- Opens a shell. -/
  | shell (node : String)
deriving DecidableEq, Repr

namespace Action

/-- Runs a command line that must succeed. -/
def runChecked (programs : Programs) (o : Remote.Options) (limit : Duration)
    (node line : String) : Except ActionFault Unit :=
  match Remote.run programs o limit node line with
  | .error fault => .error (.remote node fault)
  | .ok output =>
      if output.succeeded then .ok ()
      else .error (.failed node output.status (Text.trim output.err))

/-- Hands over the terminal and looks at the ending. -/
def enterChecked (programs : Programs) (o : Remote.Options) (node : String)
    (line : Option String) (accepted : Option Int → Bool) : Except ActionFault Unit :=
  match Remote.enter programs o node line with
  | .error fault => .error (.remote node fault)
  | .ok ending =>
      if accepted ending.status? then .ok () else .error (.failed node ending.status? "")

/-- Does the action. -/
def perform (programs : Programs) (o : Remote.Options) (limit : Duration) :
    Action → Except ActionFault Unit
  | create node name =>
      match sessionNameFault? name with
      | some fault => .error (.invalidName fault.message)
      | none => runChecked programs o limit node (Line.create name)
  | kill id => runChecked programs o limit id.node (Line.kill id.name)
  | attach id => enterChecked programs o id.node (some (Line.attach id.name)) (· == some 0)
  | shell node => enterChecked programs o node none (· != some 255)

/-- The commands that get as far as running in an action. -/
def log (programs : Programs) (o : Remote.Options) : Action → List Command
  | create node name =>
      match sessionNameFault? name with
      | some _ => []
      | none => Remote.log programs o false node (some (Line.create name))
  | kill id => Remote.log programs o false id.node (some (Line.kill id.name))
  | attach id => Remote.log programs o true id.node (some (Line.attach id.name))
  | shell node => Remote.log programs o true node none

/-- Whether the action hands over the terminal, and so takes the time that the user takes. -/
def isInteractive : Action → Bool
  | attach _ | shell _ => true
  | create .. | kill _ => false

/-- How many milliseconds the action takes, the user's own time apart.  Only a command that never
ends takes time, up to the limit. -/
def delay (programs : Programs) (o : Remote.Options) (limit : Duration) (a : Action) : Nat :=
  if a.isInteractive then 0
  else if (a.log programs o).any fun c => c.start programs == .hung then limit.toMillis
  else 0

end Action

end Roster
