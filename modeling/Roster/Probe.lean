import Roster.Identity
import Roster.Remote
import Roster.Session.Line
import Roster.Session.Listing

/-!
# Probes

A probe asks a node for its sessions and takes the last output of a session.  Every call has a
time: how long it takes, or that it never ends, and what it gives then.  The answer may depend on
the moment at which the call starts, counted in milliseconds.

`Probe.remote` is the probe that calls nodes through the remote shell.
-/

namespace Roster

/-- Why a probe of a node failed. -/
inductive ProbeFault where
  /-- The node name has a fault. -/
  | invalidNode (reason : String)
  /-- The remote shell could not be started. -/
  | spawn (reason : String)
  /-- The time limit passed. -/
  | timeout (limit : Duration)
  /-- The node was not reached. -/
  | connect (reason : String)
  /-- The command line failed on the node. -/
  | command (status : Option Int) (err : String)
  /-- The listing has a line that does not fit. -/
  | parse (line reason : String)
deriving DecidableEq, Repr

namespace ProbeFault

/-- The fault in words. -/
def message : ProbeFault → String
  | invalidNode reason => (Remote.Fault.invalidNode reason).message
  | spawn reason => (Remote.Fault.spawn reason).message
  | timeout limit => (Remote.Fault.timeout limit).message
  | connect reason => "connection failed: " ++ reason
  | command status err =>
      "remote command failed (status " ++ Remote.statusText status ++ "): " ++ err
  | parse line reason => "unparsable output " ++ Text.quoted line ++ ": " ++ reason

/-- The fault of a call that came to nothing. -/
def ofRemote : Remote.Fault → ProbeFault
  | .invalidNode reason => .invalidNode reason
  | .spawn reason => .spawn reason
  | .timeout limit => .timeout limit

/-- The fault of a call that did not succeed. -/
def ofOutput (o : Remote.Output) : ProbeFault :=
  if o.unreached then .connect (Text.trim o.err) else .command o.status (Text.trim o.err)

/-- The fault in words, with the node. -/
def messageAt (node : String) (fault : ProbeFault) : String := node ++ ": " ++ fault.message

end ProbeFault

/-- What a call gives, and when. -/
structure Answer (α : Type) where
  /-- How many milliseconds it takes, unless it never ends. -/
  delay : Option Nat
  /-- What it gives. -/
  result : Except ProbeFault α

/-- A way to ask nodes. -/
structure Probe where
  /-- The sessions of a node, asked at a moment. -/
  list : Nat → String → Answer (List Session)
  /-- The last lines of output of a session, asked at a moment. -/
  capture : Nat → Identity → Nat → Answer String

namespace Probe

/-- The probe that gives one probe's answers up to a moment and another's from then on. -/
def switch (old new : Probe) (moment : Nat) : Probe where
  list start node := if start ≤ moment then old.list start node else new.list start node
  capture start id lines :=
    if start ≤ moment then old.capture start id lines else new.capture start id lines

/-- What the output of a listing says. -/
def readListing (o : Remote.Output) : Except ProbeFault (List Session) :=
  if o.succeeded then
    match Listing.read o.out with
    | .ok sessions => .ok sessions
    | .error fault => .error (.parse fault.line fault.flaw.message)
  else if !o.unreached && Line.saysNoSessions o.err then .ok []
  else .error (.ofOutput o)

/-- What the output of a capture says. -/
def readCapture (o : Remote.Output) : Except ProbeFault String :=
  if o.succeeded then .ok (Line.cleanOutput o.out) else .error (.ofOutput o)

/-- The answer of a remote call, of which only one that hangs takes time. -/
def answer {α : Type} (read : Remote.Output → Except ProbeFault α) (limit : Duration) :
    Except Remote.Fault Remote.Output → Answer α
  | .error (.timeout t) => ⟨some limit.toMillis, .error (.timeout t)⟩
  | .error fault => ⟨some 0, .error (.ofRemote fault)⟩
  | .ok o => ⟨some 0, read o⟩

/-- The probe that calls nodes through the remote shell. -/
def remote (programs : Programs) (o : Remote.Options) (limit : Duration) : Probe where
  list _ node := answer readListing limit (Remote.run programs o limit node Line.list)
  capture _ id lines :=
    answer readCapture limit (Remote.run programs o limit id.node (Line.capture id.name lines))

end Probe

end Roster
