import Roster.Text.Reader

/-!
# Reading JSON

A reader is made for the shape that its caller expects: `readString` takes a string, `readObject`
takes an object whose members are read by their keys, and `skip` takes any value and keeps nothing
of it.
`document` asks that only blanks follow.

A string that is kept must denote text, so its escapes may not leave half of a surrogate pair.  A
string that is skipped need not.  The members of an object come in the order of the text, with
repeated keys.
-/

namespace Roster.Json

open Text

/-- Blanks that may stand between the parts of a value. -/
def isGap (c : Char) : Bool := c == ' ' || c == '\n' || c == '\t' || c == '\r'

/-- The text from the first character that is no gap. -/
def skipGap (cs : List Char) : List Char := cs.dropWhile isGap

/-- The text behind a given character, which may follow a gap. -/
def mark (c : Char) (cs : List Char) : Option (List Char) :=
  match skipGap cs with
  | d :: rest => if c = d then some rest else none
  | [] => none

/-! ## Strings -/

/-- Where a reader stands inside a string.  `high` is the first half of a surrogate pair whose
second half must follow. -/
inductive Place where
  /-- Between two characters. -/
  | plain
  /-- Behind a backslash. -/
  | escape
  /-- Behind the first `count` digits of a code, with their value. -/
  | code (high : Option Nat) (count value : Nat)
  /-- Before the backslash of a second half. -/
  | secondEscape (high : Nat)
  /-- Before the letter of a second half. -/
  | secondLetter (high : Nat)
deriving DecidableEq, Repr

/-- The character of an escape with one letter. -/
def shortEscape? (c : Char) : Option Char :=
  match c with
  | '"' | '\\' | '/' => some c
  | 'b' => some '\x08'
  | 'f' => some '\x0c'
  | 'n' => some '\n'
  | 'r' => some '\r'
  | 't' => some '\t'
  | _ => none

/-- The rest of a string up to its closing quote, and what follows the quote. -/
def stringBody : Place → Reader (List Char)
  | _, [] => none
  | .plain, c :: cs =>
      if c = '"' then some ([], cs)
      else if c = '\\' then stringBody .escape cs
      else if c.toNat < 0x20 then none
      else (stringBody .plain cs).map fun (s, rest) => (c :: s, rest)
  | .escape, c :: cs =>
      if c = 'u' then stringBody (.code none 0 0) cs
      else match shortEscape? c with
        | some d => (stringBody .plain cs).map fun (s, rest) => (d :: s, rest)
        | none => none
  | .code high count value, c :: cs =>
      match hexDigit? c with
      | none => none
      | some d =>
          let value := value * 16 + d
          if count < 3 then stringBody (.code high (count + 1) value) cs
          else match high with
            | none =>
                if 0xD800 ≤ value ∧ value < 0xDC00 then stringBody (.secondEscape value) cs
                else if 0xDC00 ≤ value ∧ value < 0xE000 then none
                else (stringBody .plain cs).map fun (s, rest) => (Char.ofNat value :: s, rest)
            | some high =>
                if 0xDC00 ≤ value ∧ value < 0xE000 then
                  let n := 0x10000 + (high - 0xD800) * 0x400 + (value - 0xDC00)
                  (stringBody .plain cs).map fun (s, rest) => (Char.ofNat n :: s, rest)
                else none
  | .secondEscape high, c :: cs => if c = '\\' then stringBody (.secondLetter high) cs else none
  | .secondLetter high, c :: cs => if c = 'u' then stringBody (.code (some high) 0 0) cs else none

/-- A string. -/
def readString : Reader String := fun cs =>
  (mark '"' cs).bind fun rest =>
    (stringBody .plain rest).map fun (s, rest) => (String.ofList s, rest)

/-- Where a reader stands inside a string that it skips. -/
inductive SkipPlace where
  /-- Between two characters. -/
  | plain
  /-- Behind a backslash. -/
  | escape
  /-- Before the last digits of a code, `left + 1` of them. -/
  | code (left : Nat)

/-- What follows the closing quote of a string. -/
def skipBody : SkipPlace → List Char → Option (List Char)
  | _, [] => none
  | .plain, c :: cs =>
      if c = '"' then some cs
      else if c = '\\' then skipBody .escape cs
      else if c.toNat < 0x20 then none
      else skipBody .plain cs
  | .escape, c :: cs =>
      if c = 'u' then skipBody (.code 3) cs
      else if (shortEscape? c).isSome then skipBody .plain cs
      else none
  | .code left, c :: cs =>
      if (hexDigit? c).isNone then none
      else match left with
        | 0 => skipBody .plain cs
        | left + 1 => skipBody (.code left) cs

/-! ## Values that are skipped -/

/-- What follows a run of digits that is not empty. -/
def skipDigits (cs : List Char) : Option (List Char) :=
  match cs with
  | c :: rest => if c.isDigit then some (rest.dropWhile Char.isDigit) else none
  | [] => none

/-- What follows an exponent, if there is one. -/
def skipExponent (cs : List Char) : Option (List Char) :=
  match cs with
  | 'e' :: rest | 'E' :: rest =>
      match rest with
      | '+' :: rest | '-' :: rest => skipDigits rest
      | rest => skipDigits rest
  | cs => some cs

/-- What follows a number without its sign. -/
def skipNumber (cs : List Char) : Option (List Char) := do
  let rest ← match cs with
    | '0' :: rest => if (rest.head?.map Char.isDigit) = some true then none else some rest
    | cs => skipDigits cs
  match rest with
  | '.' :: rest => skipExponent (← skipDigits rest)
  | rest => skipExponent rest

mutual

/-- What follows a value. -/
def skipValue : Nat → List Char → Option (List Char)
  | 0, _ => none
  | fuel + 1, cs =>
      match skipGap cs with
      | 'n' :: rest => dropStart? "ull".toList rest
      | 't' :: rest => dropStart? "rue".toList rest
      | 'f' :: rest => dropStart? "alse".toList rest
      | '-' :: rest => skipNumber rest
      | '"' :: rest => skipBody .plain rest
      | '[' :: rest =>
          match skipGap rest with
          | ']' :: rest => some rest
          | rest => skipItems fuel rest
      | '{' :: rest =>
          match skipGap rest with
          | '}' :: rest => some rest
          | rest => skipMembers fuel rest
      | rest => skipNumber rest

/-- What follows the items of an array and the bracket that closes it. -/
def skipItems : Nat → List Char → Option (List Char)
  | 0, _ => none
  | fuel + 1, cs =>
      (skipValue fuel cs).bind fun rest =>
        match skipGap rest with
        | ',' :: rest => skipItems fuel rest
        | ']' :: rest => some rest
        | _ => none

/-- What follows the members of an object and the brace that closes it. -/
def skipMembers : Nat → List Char → Option (List Char)
  | 0, _ => none
  | fuel + 1, cs =>
      (mark '"' cs).bind fun rest => (skipBody .plain rest).bind fun rest =>
        (mark ':' rest).bind fun rest => (skipValue fuel rest).bind fun rest =>
          match skipGap rest with
          | ',' :: rest => skipMembers fuel rest
          | '}' :: rest => some rest
          | _ => none

end

/-- Any value, of which nothing is kept.  Every step takes a character or two off the text, so
twice its length bounds the steps. -/
def skip : Reader Unit := fun cs => (skipValue (2 * cs.length + 1) cs).map fun rest => ((), rest)

/-! ## Values that are kept -/

/-- The members of an object up to the brace that closes it. -/
def members {α : Type} (value : String → Reader α) : Nat → Reader (List (String × α))
  | 0, _ => none
  | fuel + 1, cs =>
      (readString cs).bind fun (key, rest) => (mark ':' rest).bind fun rest =>
        (value key rest).bind fun (v, rest) =>
          match skipGap rest with
          | ',' :: rest =>
              (members value fuel rest).map fun (more, rest) => ((key, v) :: more, rest)
          | '}' :: rest => some ([(key, v)], rest)
          | _ => none

/-- An object whose members are read by the reader of their key.  Every member takes characters
off the text, so its length bounds them. -/
def readObject {α : Type} (value : String → Reader α) : Reader (List (String × α)) := fun cs =>
  (mark '{' cs).bind fun rest =>
    match skipGap rest with
    | '}' :: rest => some ([], rest)
    | rest => members value rest.length rest

/-- The value of a text that holds nothing else. -/
def document {α : Type} (reader : Reader α) (text : String) : Option α :=
  (reader text.toList).bind fun (v, rest) => if rest.all isGap then some v else none

example : document readString "\"a\\u00e9\\ud83d\\ude00\"" = some "aé😀" := by decide +kernel

/-- Half a pair is no text, but may be skipped. -/
example : document readString "\"\\ud83d\"" = none ∧ document skip "\"\\ud83d\"" = some () := by
  decide +kernel

example : (document (readObject fun _ => readString) " \x7b\"k\": \"1\", \"k\":\"2\"\x7d\n")
    = some [("k", "1"), ("k", "2")] := by decide +kernel

example : document skip "[1, \x7b\"x\": [null, -0.5e+3]\x7d, []]" = some () := by decide +kernel

example : document skip "[1,]" = none ∧ document skip "01" = none := by decide +kernel

end Roster.Json
