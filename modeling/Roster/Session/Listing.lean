import Roster.Session
import Roster.Text.Lines
import Roster.Text.Numeral
import Roster.Text.Quoted

/-!
# Listings of sessions

A node lists its sessions one a line, as `name|creation time|attached terminals`.  The fields are
read from the right, since the name may hold bars of its own.  The creation time counts seconds
since 1970 and may be blank.  Blank lines do not count, and one line that does not fit spoils the
whole listing.
-/

namespace Roster.Listing

open Text

/-- What is wrong with a line. -/
inductive Flaw where
  /-- There is no bar. -/
  | missingCreated
  /-- There is one bar only. -/
  | missingName
  /-- The name is empty. -/
  | emptyName
  /-- The count of terminals is no number, or too large. -/
  | badAttached (field : String)
  /-- The creation time is no number, or too large. -/
  | badCreated (field : String)
  /-- The creation time lies outside the calendar. -/
  | createdOutOfRange (seconds : Int)
deriving DecidableEq, Repr

/-- The flaw in words. -/
def Flaw.message : Flaw → String
  | .missingCreated => "missing created field"
  | .missingName => "missing session name"
  | .emptyName => "empty session name"
  | .badAttached field => "bad attached count " ++ quoted field
  | .badCreated field => "bad creation time " ++ quoted field
  | .createdOutOfRange seconds =>
      "creation time out of range " ++ String.ofList (writeInt seconds)

/-- The bound of the count of terminals. -/
def attachedBound : Nat := 4294967296

/-- The least and the greatest number of seconds that a line may give. -/
def minSeconds : Int := -9223372036854775808

@[inherit_doc minSeconds]
def maxSeconds : Int := 9223372036854775807

/-- The creation time of a field. -/
def created? (field : List Char) : Except Flaw (Option Instant) :=
  if trimChars field = [] then .ok none
  else match readSigned minSeconds maxSeconds (trimChars field) with
    | none => .error (.badCreated (String.ofList field))
    | some seconds =>
        match Instant.ofSeconds? seconds with
        | none => .error (.createdOutOfRange seconds)
        | some t => .ok (some t)

/-- The session of a line. -/
def session? (line : List Char) : Except Flaw Session :=
  match cutLast? '|' line with
  | none => .error .missingCreated
  | some (before, attached) =>
      match cutLast? '|' before with
      | none => .error .missingName
      | some ([], _) => .error .emptyName
      | some (name, created) =>
          match readUnsigned attachedBound (trimChars attached) with
          | none => .error (.badAttached (String.ofList attached))
          | some count =>
              match created? created with
              | .error flaw => .error flaw
              | .ok createdAt => .ok ⟨String.ofList name, createdAt, 0 < count⟩

/-- The lines of a text that count. -/
def linesOf (text : String) : List (List Char) :=
  ((lines text.toList).map dropReturns).filter fun line => !line.all isBlank

/-- A line that does not fit, and why. -/
structure Fault where
  /-- The line. -/
  line : String
  /-- What is wrong with it. -/
  flaw : Flaw
deriving DecidableEq, Repr

/-- The sessions of some lines, or the first line that does not fit. -/
def sessions : List (List Char) → Except Fault (List Session)
  | [] => .ok []
  | line :: rest =>
      match session? line with
      | .error flaw => .error ⟨String.ofList line, flaw⟩
      | .ok s => (sessions rest).map (s :: ·)

/-- The sessions of a listing. -/
def read (text : String) : Except Fault (List Session) := sessions (linesOf text)

example : (read "a|b|10|2\r\n\n x | | +0").toOption
    = some [⟨"a|b", some ⟨10, 0⟩, true⟩, ⟨" x ", none, false⟩] := by decide +kernel

example : session? "welcome".toList = .error .missingCreated := by rfl

example : session? "x|1".toList = .error .missingName := by rfl

example : session? "|1|0".toList = .error .emptyName := by rfl

example : session? "x|soon|0".toList = .error (.badCreated "soon") := by rfl

example : session? "x|1|-0".toList = .error (.badAttached "-0") := by rfl

end Roster.Listing
