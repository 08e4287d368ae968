import Roster.Shell.Word
import Roster.Text.Blank
import Roster.Text.Numeral
import Roster.Text.Search

/-!
# Command lines for sessions

Each thing that is done with sessions on a node is one `tmux` command line for the shell there.
A session is addressed by `=name`, which matches that name only, and its pane by `=name:`.
-/

namespace Roster.Line

open Shell

/-- The format of a listing: name, creation time and count of attached terminals. -/
def listFormat : String :=
  "#\x7bsession_name\x7d|#\x7bsession_created\x7d|#\x7bsession_attached\x7d"

/-- Lists the sessions. -/
def list : String := "tmux list-sessions -F " ++ quote listFormat

/-- Prints the last lines of a session's output, at least one. -/
def capture (name : String) (lines : Nat) : String :=
  "tmux capture-pane -p -t " ++ quote ("=" ++ name ++ ":") ++ " -S -"
    ++ String.ofList (Text.writeNat (max lines 1))

/-- Makes a session in the background. -/
def create (name : String) : String := "tmux new-session -d -s " ++ quote name

/-- Ends a session. -/
def kill (name : String) : String := "tmux kill-session -t " ++ quote ("=" ++ name)

/-- Attaches the terminal to a session. -/
def attach (name : String) : String := "tmux attach-session -t " ++ quote ("=" ++ name)

/-- What a node without sessions may say. -/
def noSessionsTexts : List String :=
  ["no server running", "no sessions", "failed to connect to server", "error connecting to"]

/-- Whether a listing failed only because there are no sessions. -/
def saysNoSessions (err : String) : Bool :=
  noSessionsTexts.any fun text => Text.occursIn text.toList (Text.lowerAscii err.toList)

/-- Output of a session without the blank rows below it. -/
def cleanOutput (out : String) : String := Text.trimEnd out

example : capture "train" 0 = "tmux capture-pane -p -t =train: -S -1"
    ∧ attach "my run" = "tmux attach-session -t '=my run'" := by decide +kernel

example : saysNoSessions "No Server running on /tmp/x" ∧ ¬ saysNoSessions "denied" := by
  decide +kernel

end Roster.Line
