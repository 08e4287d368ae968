import Roster.Text.Lossy
import Roster.Text.Numeral

/-!
# Commands

The program does its work abroad through other programs: the scheduler's tools and the remote
shell.  A *command* is a program with its arguments, and `Programs` says what becomes of each: it
cannot be started, it never ends, or it ends with some output.

No argument may hold a NUL, since that could not be handed over.
-/

namespace Roster

/-- A program with its arguments. -/
structure Command where
  /-- The program, by name or path. -/
  program : String
  /-- The arguments. -/
  args : List String
deriving DecidableEq, Repr

/-- How a program ended. -/
inductive Ending where
  /-- By itself, with an exit status. -/
  | exited (status : Int)
  /-- By a signal. -/
  | killed (signal : Nat)
deriving DecidableEq, Repr

/-- The names of the signals from 1 to 31. -/
def signalNames : List String :=
  ["SIGHUP", "SIGINT", "SIGQUIT", "SIGILL", "SIGTRAP", "SIGABRT", "SIGBUS", "SIGFPE", "SIGKILL",
   "SIGUSR1", "SIGSEGV", "SIGUSR2", "SIGPIPE", "SIGALRM", "SIGTERM", "SIGSTKFLT", "SIGCHLD",
   "SIGCONT", "SIGSTOP", "SIGTSTP", "SIGTTIN", "SIGTTOU", "SIGURG", "SIGXCPU", "SIGXFSZ",
   "SIGVTALRM", "SIGPROF", "SIGWINCH", "SIGIO", "SIGPWR", "SIGSYS"]

namespace Ending

/-- The exit status, if there is one. -/
def status? : Ending → Option Int
  | exited status => some status
  | killed _ => none

/-- Whether the program succeeded. -/
def succeeded (e : Ending) : Bool := e.status? == some 0

/-- The ending in words. -/
def text : Ending → String
  | exited status => "exit status: " ++ String.ofList (Text.writeInt status)
  | killed signal =>
      "signal: " ++ String.ofList (Text.writeNat signal)
        ++ (match signal with
          | 0 => ""
          | n + 1 => match signalNames[n]? with
            | some name => " (" ++ name ++ ")"
            | none => "")

end Ending

/-- What becomes of a command. -/
inductive Run where
  /-- It could not be started, for the given reason. -/
  | refused (reason : String)
  /-- It never ends. -/
  | hung
  /-- It ended, with the bytes that it wrote to its two outputs. -/
  | ended (ending : Ending) (out err : List UInt8)
deriving DecidableEq, Repr

/-- What becomes of every command. -/
abbrev Programs := Command → Run

namespace Command

/-- Whether a NUL keeps the command from being handed over. -/
def holdsNul (c : Command) : Bool :=
  c.program.toList.contains '\x00' || c.args.any (·.toList.contains '\x00')

/-- What becomes of the command when it is started. -/
def start (programs : Programs) (c : Command) : Run :=
  if c.holdsNul then .refused "nul byte found in provided data" else programs c

/-- The command, if it gets as far as running. -/
def log (programs : Programs) (c : Command) : List Command :=
  match c.start programs with
  | .refused _ => []
  | _ => [c]

end Command

example : (Ending.killed 9).text = "signal: 9 (SIGKILL)"
    ∧ (Ending.exited 2).text = "exit status: 2" := by decide +kernel

end Roster
