import Roster.Allocation
import Roster.Command
import Roster.Text.Blank
import Roster.Text.Lines
import Roster.Text.Quoted
import Roster.Time.Duration

/-!
# The scheduler's queue

`squeue` prints the user's jobs one a line, as `nodes|time left`.  A line counts if it has exactly
one bar.  Jobs that wait have no nodes yet, or `(null)`.  Other lines are skipped, unless none
counts: then the output is no list of jobs at all.

The nodes of a job may be written short, as `gpu[01-03]` or with commas.  `scontrol` expands them;
if it cannot, the short form stands for a node of that name, whose probe will fail and be
reported.
-/

namespace Roster.Queue

open Text

/-- How the scheduler is asked. -/
structure Options where
  /-- Whose jobs are listed, if not those of the user who asks. -/
  user : Option String := none
  /-- The program that lists jobs. -/
  squeue : String := "squeue"
  /-- The program that expands nodes. -/
  scontrol : String := "scontrol"
  /-- How long each of them may take. -/
  limit : Duration := .ofSeconds 10
deriving DecidableEq, Repr

/-- Why the scheduler gave no nodes. -/
inductive Fault where
  /-- It is not known whose jobs to list. -/
  | noUser
  /-- A program could not be started. -/
  | refused (program reason : String)
  /-- A program took too long. -/
  | timeout (program : String) (limit : Duration)
  /-- A program failed. -/
  | failed (program : String) (ending : Ending) (err : String)
  /-- No line of the output counts; the first is given. -/
  | malformed (line : String)
  /-- Any other reason. -/
  | other (reason : String)
deriving DecidableEq, Repr

/-- The reason alone. -/
def Fault.reason : Fault → String
  | .noUser => "USER is not set and no user configured"
  | .refused program reason => program ++ ": " ++ reason
  | .timeout program limit => program ++ " timed out after " ++ limit.text
  | .failed program ending err => program ++ " exited with " ++ ending.text ++ ": " ++ err
  | .malformed line => "malformed squeue output: " ++ quoted line
  | .other reason => reason

/-- The fault in words. -/
def Fault.message (f : Fault) : String := "scheduler unavailable: " ++ f.reason

/-! ## Jobs -/

/-- The nodes of a job, perhaps written short, and its time. -/
structure Job where
  /-- The nodes. -/
  nodes : String
  /-- The time left. -/
  timeLeft : String
deriving DecidableEq, Repr

/-- What a line says. -/
inductive Row where
  /-- A job that runs. -/
  | job (j : Job)
  /-- A job that waits. -/
  | waiting
  /-- No job. -/
  | malformed (line : String)
deriving DecidableEq, Repr

/-- What a line without blanks at its ends says. -/
def row (line : List Char) : Row :=
  match cut '|' line with
  | (nodes, some time) =>
      if '|' ∈ time then .malformed (String.ofList line)
      else if trimChars nodes = [] ∨ trimChars nodes = "(null)".toList then .waiting
      else .job ⟨String.ofList (trimChars nodes), String.ofList (trimChars time)⟩
  | (_, none) => .malformed (String.ofList line)

/-- What the lines of an output say, blank lines apart. -/
def rows (out : String) : List Row :=
  (((lines out.toList).map trimChars).filter fun line => !line.isEmpty).map row

/-- The job of a row, if it has one. -/
def Row.job? : Row → Option Job
  | .job j => some j
  | _ => none

/-- The line of a row that says nothing. -/
def Row.malformed? : Row → Option String
  | .malformed line => some line
  | _ => none

/-- The jobs of an output. -/
def jobs (out : String) : Except Fault (List Job) :=
  let all := rows out
  if all.all fun r => r.malformed?.isSome then
    match all.findSome? Row.malformed? with
    | some line => .error (.malformed line)
    | none => .ok []
  else .ok (all.filterMap Row.job?)

/-! ## Nodes -/

/-- Whether the nodes are written short. -/
def isCompressed (nodes : String) : Bool := nodes.toList.any fun c => c == '[' || c == ','

/-- The nodes of a job. -/
def hosts (expand : String → List String) (j : Job) : List String :=
  if isCompressed j.nodes then expand j.nodes else [j.nodes]

/-- The allocations of some jobs. -/
def allocationsOf (expand : String → List String) (js : List Job) : List Allocation :=
  Allocation.dedup (js.flatMap fun j => (hosts expand j).map fun host => ⟨host, some j.timeLeft⟩)

/-- The allocations of an output. -/
def allocations (expand : String → List String) (out : String) :
    Except Fault (List Allocation) :=
  (jobs out).map (allocationsOf expand)

/-! ## Asking the scheduler -/

/-- The output of a program that must succeed. -/
def output (programs : Programs) (limit : Duration) (c : Command) : Except Fault String :=
  match c.start programs with
  | .refused reason => .error (.refused c.program reason)
  | .hung => .error (.timeout c.program limit)
  | .ended ending out err =>
      if ending.succeeded then .ok (decodeLossy out)
      else .error (.failed c.program ending (trim (decodeLossy err)))

/-- The command that lists jobs. -/
def listCommand (o : Options) (user : String) : Command :=
  ⟨o.squeue, ["-u", user, "-h", "-o", "%N|%L"]⟩

/-- The command that expands nodes. -/
def expandCommand (o : Options) (nodes : String) : Command :=
  ⟨o.scontrol, ["show", "hostnames", nodes]⟩

/-- The hosts that an output names, one a line. -/
def hostLines (out : String) : List String :=
  (((lines out.toList).map trimChars).filter fun line => !line.isEmpty).map String.ofList

/-- The hosts that stand behind nodes written short, or those nodes as they are. -/
def expand (programs : Programs) (o : Options) (nodes : String) : List String :=
  match output programs o.limit (expandCommand o nodes) with
  | .error _ => [nodes]
  | .ok out => if (hostLines out).isEmpty then [nodes] else hostLines out

/-- Whose jobs are listed. -/
def user? (o : Options) (self : Option String) : Option String :=
  (o.user.filter (· != "")) <|> (self.filter (· != ""))

/-- The allocations of the user. -/
def resolve (programs : Programs) (o : Options) (self : Option String) :
    Except Fault (List Allocation) :=
  match user? o self with
  | none => .error .noUser
  | some user =>
      (output programs o.limit (listCommand o user)).bind (allocations (expand programs o))

/-- The commands that get as far as running when the scheduler is asked. -/
def log (programs : Programs) (o : Options) (self : Option String) : List Command :=
  match user? o self with
  | none => []
  | some user =>
      let expansions :=
        match (output programs o.limit (listCommand o user)).bind jobs with
        | .error _ => []
        | .ok js =>
            ((js.map Job.nodes).filter isCompressed).flatMap fun nodes =>
              (expandCommand o nodes).log programs
      (listCommand o user).log programs ++ expansions

/-- How many milliseconds the scheduler takes to answer.  Only a command that never ends takes time,
up to the limit. -/
def delay (programs : Programs) (o : Options) (self : Option String) : Nat :=
  (log programs o self).countP (fun c => c.start programs == .hung) * o.limit.toMillis

example : (jobs "ok|1:00\n |5:00\nnoise\ngpu[1-2] | 2:00 \n").toOption
    = some [⟨"ok", "1:00"⟩, ⟨"gpu[1-2]", "2:00"⟩] := by decide +kernel

example : jobs "\nnoise\nmore" = .error (.malformed "noise") := by rfl

end Roster.Queue
