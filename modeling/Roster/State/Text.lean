import Roster.Gateway
import Roster.Json.Reader
import Roster.Text.Quoted

/-!
# The text of state files

Notes and outputs last as two JSON objects, with one member for each identity under its key.  A
note is a string, and an output an object of its text and the time at which it was taken.

Reading is more generous than writing: an output may also be an array of its two parts, its object
may have more members, repeated keys stand for their last value, and keys that denote no identity
are passed over with a warning.  But all values must have the right shape.
-/

namespace Roster.StateText

open Text Json

/-! ## Writing -/

/-- A JSON object of members by ascending key. -/
def writeObject {α : Type} (value : α → Json) (t : Table String α) : String :=
  Json.write (.object (t.entries.map fun e => (e.1, value e.2)))

/-- The values of identities under their keys. -/
def byKey {α : Type} (t : Table Identity α) : Table String α :=
  .ofList (t.entries.map fun e => (e.1.key, e.2))

/-- The text of notes. -/
def writeNotes (notes : Table Identity String) : String := writeObject .string (byKey notes)

/-- The text of outputs. -/
def writeCaptures (captures : Table Identity Captured) : String :=
  writeObject Record.capturedJson (byKey captures)

/-! ## Reading -/

/-- A timestamp in a string. -/
def instant : Reader Instant := fun cs =>
  (readString cs).bind fun (s, rest) => (Rfc3339.read? s).map (·, rest)

/-- A member of the object of an output. -/
inductive Member where
  /-- The text. -/
  | text (s : String)
  /-- The time. -/
  | takenAt (t : Instant)
  /-- Any other. -/
  | other

/-- The member of a key. -/
def member (key : String) : Reader Member := fun cs =>
  if key = "text" then (readString cs).map fun (s, rest) => (.text s, rest)
  else if key = "captured_at" then (instant cs).map fun (t, rest) => (.takenAt t, rest)
  else (skip cs).map fun (_, rest) => (.other, rest)

/-- The texts among some members. -/
def texts : List (String × Member) → List String
  | [] => []
  | (_, .text s) :: rest => s :: texts rest
  | _ :: rest => texts rest

/-- The times among some members. -/
def times : List (String × Member) → List Instant
  | [] => []
  | (_, .takenAt t) :: rest => t :: times rest
  | _ :: rest => times rest

/-- The output of some members: each part must be there once. -/
def ofMembers (members : List (String × Member)) : Option Captured :=
  match texts members, times members with
  | [s], [t] => some ⟨s, t⟩
  | _, _ => none

/-- An output. -/
def captured : Reader Captured := fun cs =>
  match mark '[' cs with
  | some rest => do
      let (s, rest) ← readString rest
      let (t, rest) ← instant (← mark ',' rest)
      return (⟨s, t⟩, ← mark ']' rest)
  | none => (readObject member cs).bind fun (ms, rest) => (ofMembers ms).map (·, rest)

/-- The members of a JSON object that is all of a text, by key.  Of repeated keys the last
counts. -/
def readTable {α : Type} (value : Reader α) (text : String) : Option (Table String α) :=
  (document (readObject fun _ => value) text).map .ofList

/-- The values of identities, and the keys that denote none. -/
def byIdentity {α : Type} (t : Table String α) : Table Identity α × List String :=
  (.ofList (t.entries.filterMap fun e => (Identity.ofKey? e.1).map (·, e.2)),
    (t.keys.filter fun k => (Identity.ofKey? k).isNone))

/-- The notes of a file, and what was amiss. -/
def notesOf (t : Table String String) : Table Identity String × List String :=
  let (notes, bad) := byIdentity t
  (notes.filter fun _ note => note != "",
    bad.map fun key => "ignoring note with bad key " ++ quoted key)

/-- The outputs of a file, and what was amiss. -/
def capturesOf (t : Table String Captured) : Table Identity Captured × List String :=
  let (captures, bad) := byIdentity t
  (captures, bad.map fun key => "ignoring snapshot with bad key " ++ quoted key)

example : writeNotes (.ofList [(⟨"n", "b"⟩, "x"), (⟨"n", "a"⟩, "\"")])
    = "\x7b\n  \"n:a\": \"\\\"\",\n  \"n:b\": \"x\"\n\x7d" := by decide +kernel

example : (readTable readString "\x7b\"a:b\": \"1\", \"a:b\": \"2\"\x7d").map (·.entries)
    = some [("a:b", "2")] := by decide +kernel

example : (document captured "[\"x\", \"1970-01-01T00:00:00Z\"]").isSome
    ∧ (document captured "\x7b\"text\": \"x\"\x7d").isNone := by decide +kernel

end Roster.StateText
