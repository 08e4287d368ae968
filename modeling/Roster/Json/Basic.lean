import Roster.Text.Numeral

/-!
# JSON values and their written form

Values are written over several lines: each member of an array or an object has a line of its own,
two blanks further in than the line that opens it, and an empty one is closed at once.  In strings
the quote, the backslash and the control characters are escaped and all else stands for itself.
-/

namespace Roster

/-- A JSON value.  Numbers are the whole numbers from zero. -/
inductive Json where
  /-- The value `null`. -/
  | null
  /-- A truth value. -/
  | bool (b : Bool)
  /-- A number. -/
  | number (n : Nat)
  /-- A string. -/
  | string (s : String)
  /-- An array. -/
  | array (items : List Json)
  /-- An object, with its members in the order in which they are written. -/
  | object (fields : List (String × Json))

namespace Json

open Text

/-- A hexadecimal digit. -/
def hexChar (n : Nat) : Char := Nat.digitChar n

/-- One character inside a string. -/
def escapedChar (c : Char) : List Char :=
  match c with
  | '"' => ['\\', '"']
  | '\\' => ['\\', '\\']
  | '\x08' => ['\\', 'b']
  | '\x0c' => ['\\', 'f']
  | '\n' => ['\\', 'n']
  | '\r' => ['\\', 'r']
  | '\t' => ['\\', 't']
  | c =>
      if c.toNat < 0x20 then ['\\', 'u', '0', '0', hexChar (c.toNat / 16), hexChar (c.toNat % 16)]
      else [c]

/-- The characters of a string and its closing quote. -/
def escaped (cs : List Char) : List Char := cs.flatMap escapedChar ++ ['"']

/-- A string in quotes. -/
def writeString (s : String) : List Char := '"' :: escaped s.toList

/-- A new line, indented. -/
def newLine (depth : Nat) : List Char := '\n' :: List.replicate (2 * depth) ' '

mutual

/-- A value that starts on a line indented to `depth`. -/
def writeAt (depth : Nat) : Json → List Char
  | .null => "null".toList
  | .bool true => "true".toList
  | .bool false => "false".toList
  | .number n => writeNat n
  | .string s => writeString s
  | .array [] => ['[', ']']
  | .array (item :: items) =>
      '[' :: newLine (depth + 1) ++ writeAt (depth + 1) item ++ writeItems depth items
  | .object [] => ['{', '}']
  | .object ((key, value) :: fields) =>
      '{' :: newLine (depth + 1) ++ writeString key ++ ':' :: ' ' :: writeAt (depth + 1) value
        ++ writeFields depth fields

/-- The items behind the first, and the bracket that closes the array. -/
def writeItems (depth : Nat) : List Json → List Char
  | [] => newLine depth ++ [']']
  | item :: items =>
      ',' :: newLine (depth + 1) ++ writeAt (depth + 1) item ++ writeItems depth items

/-- The members behind the first, and the brace that closes the object. -/
def writeFields (depth : Nat) : List (String × Json) → List Char
  | [] => newLine depth ++ ['}']
  | (key, value) :: fields =>
      ',' :: newLine (depth + 1) ++ writeString key ++ ':' :: ' ' :: writeAt (depth + 1) value
        ++ writeFields depth fields

end

/-- The value as text. -/
def write (j : Json) : String := String.ofList (writeAt 0 j)

/-- The value of an optional part, `null` where there is none. -/
def ofOption {α : Type} (f : α → Json) : Option α → Json
  | none => .null
  | some a => f a

end Json

end Roster
