import Roster.Command
import Roster.Name
import Roster.Time.Duration

/-!
# Remote calls

A node is reached through the remote shell `ssh`.  The node name is checked first: it is the one
argument right behind `--`, and a name with a fault gets no command at all (`command?`).

`run` runs a command line without a terminal, takes its output and gives it a time limit.  `enter`
hands the terminal over.  The exit status 255 is the remote shell's own: it means that the node
was not reached.
-/

namespace Roster.Remote

/-- How nodes are reached. -/
structure Options where
  /-- The remote shell. -/
  program : String := "ssh"
  /-- How long it may take to connect. -/
  connectTimeout : Duration := .ofSeconds 2
  /-- More options, put before the node. -/
  extraOptions : List String := []
deriving DecidableEq, Repr

/-- Why a call came to nothing. -/
inductive Fault where
  /-- The node name has a fault. -/
  | invalidNode (reason : String)
  /-- The remote shell could not be started. -/
  | spawn (reason : String)
  /-- The time limit passed. -/
  | timeout (limit : Duration)
deriving DecidableEq, Repr

/-- The fault in words. -/
def Fault.message : Fault → String
  | .invalidNode reason => "invalid node name: " ++ reason
  | .spawn reason => "failed to run ssh: " ++ reason
  | .timeout limit => "timed out after " ++ limit.text

/-- What a call left behind. -/
structure Output where
  /-- The exit status, unless a signal ended the call. -/
  status : Option Int
  /-- What was written to the standard output. -/
  out : String
  /-- What was written to the standard error. -/
  err : String
deriving DecidableEq, Repr

/-- Whether the command line succeeded. -/
def Output.succeeded (o : Output) : Bool := o.status == some 0

/-- Whether the node was not reached. -/
def Output.unreached (o : Output) : Bool := o.status == some 255

/-- The arguments before the node: with a terminal one is asked for, without one nothing may be
asked. -/
def leadingArgs (o : Options) (terminal : Bool) : List String :=
  (if terminal then ["-t"] else ["-o", "BatchMode=yes"])
    ++ ["-o", "StrictHostKeyChecking=no", "-o",
      "ConnectTimeout=" ++ String.ofList (Text.writeNat (max o.connectTimeout.seconds 1))]
    ++ o.extraOptions

/-- The command that runs a command line on a node, or a login shell if there is none. -/
def command? (o : Options) (terminal : Bool) (node : String) (line : Option String) :
    Except NodeNameFault Command :=
  match nodeNameFault? node with
  | some fault => .error fault
  | none => .ok ⟨o.program, leadingArgs o terminal ++ ["--", node] ++ line.toList⟩

/-- Runs a command line on a node. -/
def run (programs : Programs) (o : Options) (limit : Duration) (node line : String) :
    Except Fault Output :=
  match command? o false node (some line) with
  | .error fault => .error (.invalidNode fault.message)
  | .ok command =>
      match command.start programs with
      | .refused reason => .error (.spawn reason)
      | .hung => .error (.timeout limit)
      | .ended ending out err =>
          .ok ⟨ending.status?, Text.decodeLossy out, Text.decodeLossy err⟩

/-- Hands the terminal to a command line on a node, or to a login shell.  What does not end by
itself is interrupted by the user. -/
def enter (programs : Programs) (o : Options) (node : String) (line : Option String) :
    Except Fault Ending :=
  match command? o true node line with
  | .error fault => .error (.invalidNode fault.message)
  | .ok command =>
      match command.start programs with
      | .refused reason => .error (.spawn reason)
      | .hung => .ok (.killed 2)
      | .ended ending _ _ => .ok ending

/-- The commands that get as far as running in a call. -/
def log (programs : Programs) (o : Options) (terminal : Bool) (node : String)
    (line : Option String) : List Command :=
  match command? o terminal node line with
  | .error _ => []
  | .ok command => command.log programs

/-- An optional status as messages show it. -/
def statusText : Option Int → String
  | none => "None"
  | some status => "Some(" ++ String.ofList (Text.writeInt status) ++ ")"

/-- The node stands right behind the two hyphens, and its name has no fault. -/
theorem command?_eq_ok_iff {o : Options} {terminal : Bool} {node : String}
    {line : Option String} {c : Command} :
    command? o terminal node line = .ok c ↔ nodeNameFault? node = none
      ∧ c = ⟨o.program, leadingArgs o terminal ++ ["--", node] ++ line.toList⟩ := by
  unfold command?
  split
  · simp_all
  · simp_all [eq_comm]

end Roster.Remote
