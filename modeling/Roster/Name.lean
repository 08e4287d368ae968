import Roster.Text.Alphanumeric
import Roster.Text.Numeral

/-!
# Names of nodes and sessions

A node name becomes an argument of a remote call, so it is held to the characters of host names
and underscores, and it may not start with a hyphen, which would make it an option.  A session
name is held to letters, digits, hyphens and underscores when a session is made; sessions that are
found may have any name.

Lengths are counted in bytes.
-/

namespace Roster

/-- What is wrong with a node name. -/
inductive NodeNameFault where
  /-- It is empty. -/
  | empty
  /-- It has too many bytes. -/
  | tooLong (bytes : Nat)
  /-- It starts with a hyphen. -/
  | leadingHyphen (name : String)
  /-- It holds a character that host names do not have. -/
  | badCharacter (name : String)
deriving DecidableEq, Repr

/-- The fault in words. -/
def NodeNameFault.message : NodeNameFault → String
  | .empty => "node name must not be empty"
  | .tooLong bytes =>
      "node name exceeds 253 characters (got " ++ String.ofList (Text.writeNat bytes) ++ ")"
  | .leadingHyphen name => "node name must not start with a hyphen: " ++ name
  | .badCharacter name => "node name contains invalid characters: " ++ name

/-- A character of a node name. -/
def isNodeNameChar (c : Char) : Bool := c.isAlphanum || c == '-' || c == '_' || c == '.'

/-- The first thing wrong with a node name. -/
def nodeNameFault? (name : String) : Option NodeNameFault :=
  if name.toList = [] then some .empty
  else if 253 < name.utf8ByteSize then some (.tooLong name.utf8ByteSize)
  else if name.toList.head? = some '-' then some (.leadingHyphen name)
  else if name.toList.all isNodeNameChar then none
  else some (.badCharacter name)

/-- What is wrong with the name of a session to be made. -/
inductive SessionNameFault where
  /-- It is empty. -/
  | empty
  /-- It has too many bytes. -/
  | tooLong (bytes : Nat)
  /-- It holds something else than letters, digits, hyphens and underscores. -/
  | badCharacter (name : String)
deriving DecidableEq, Repr

/-- The fault in words. -/
def SessionNameFault.message : SessionNameFault → String
  | .empty => "session name must not be empty"
  | .tooLong bytes =>
      "session name too long (" ++ String.ofList (Text.writeNat bytes) ++ " chars, max 64)"
  | .badCharacter name => "session name contains invalid characters: " ++ name

/-- A character of the name of a session to be made. -/
def isSessionNameChar (c : Char) : Bool := Text.isAlphanumeric c || c == '-' || c == '_'

/-- The first thing wrong with the name of a session to be made. -/
def sessionNameFault? (name : String) : Option SessionNameFault :=
  if name.toList = [] then some .empty
  else if 64 < name.utf8ByteSize then some (.tooLong name.utf8ByteSize)
  else if name.toList.all isSessionNameChar then none
  else some (.badCharacter name)

/-- A node name without fault is not empty, has no hyphen in front and holds only host name
characters and underscores. -/
theorem nodeNameFault?_eq_none_iff {name : String} :
    nodeNameFault? name = none ↔ name.toList ≠ [] ∧ name.utf8ByteSize ≤ 253
      ∧ name.toList.head? ≠ some '-' ∧ name.toList.all isNodeNameChar := by
  unfold nodeNameFault?
  split
  · simp_all
  · split
    · next h => exact iff_of_false (by simp) fun hn => Nat.not_le.mpr h hn.2.1
    · split
      · simp_all
      · split <;> simp_all

example : nodeNameFault? "cn_0012.cluster" = none ∧ nodeNameFault? "" = some .empty
    ∧ nodeNameFault? "-oX" = some (.leadingHyphen "-oX")
    ∧ nodeNameFault? "a b" = some (.badCharacter "a b") := by decide +kernel

example : sessionNameFault? "naïve-1_a" = none
    ∧ sessionNameFault? "a:b" = some (.badCharacter "a:b") := by decide +kernel

end Roster
