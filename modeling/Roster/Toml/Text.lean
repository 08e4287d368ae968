import Roster.Text.Reader

/-!
# Blanks, strings and keys of TOML

Blanks within a line are spaces and tabs.  Lines end with a line feed, before which a carriage
return may stand.  A comment runs to the end of its line and holds no control character but the
tab.

Strings come in four kinds: on one line or over several lines, with escapes or literal.  In the
kinds over several lines up to two quotes may stand together, and up to two more before the three
that close the string.
-/

namespace Roster.Toml

open Text

/-! ## Blanks, line ends, comments -/

/-- A blank within a line. -/
def isSpace (c : Char) : Bool := c == ' ' || c == '\t'

/-- The text from the first character that is no blank. -/
def skipSpace (cs : List Char) : List Char := cs.dropWhile isSpace

/-- What follows a line end. -/
def newline? : List Char → Option (List Char)
  | '\n' :: rest => some rest
  | '\r' :: '\n' :: rest => some rest
  | _ => none

/-- A character that may stand in any text: a tab, or no control character. -/
def isPlain (c : Char) : Bool :=
  c == '\t' || (0x20 ≤ c.toNat && c.toNat ≤ 0x7E) || 0x80 ≤ c.toNat

/-- The text behind a comment, if one starts here. -/
def skipComment : List Char → List Char
  | '#' :: rest => rest.dropWhile isPlain
  | cs => cs

/-- What follows the end of a line, before which blanks and a comment may stand. -/
def lineEnd? (cs : List Char) : Option (List Char) :=
  match skipComment (skipSpace cs) with
  | [] => some []
  | rest => newline? rest

/-- The text behind blanks, line ends and whole comments.  The flag says whether a comment is
open. -/
def skipLines : Bool → List Char → Option (List Char)
  | false, [] => some []
  | true, [] => none
  | false, c :: cs =>
      if isSpace c || c == '\n' then skipLines false cs
      else if c == '#' then skipLines true cs
      else if c == '\r' && cs.head? == some '\n' then skipLines false cs
      else some (c :: cs)
  | true, c :: cs =>
      if c == '\n' then skipLines false cs
      else if isPlain c then skipLines true cs
      else if c == '\r' && cs.head? == some '\n' then skipLines false cs
      else none

/-! ## Escapes -/

/-- The character of an escape with one letter. -/
def escapeLetter? (c : Char) : Option Char :=
  match c with
  | 'b' => some '\x08'
  | 't' => some '\t'
  | 'n' => some '\n'
  | 'f' => some '\x0c'
  | 'r' => some '\r'
  | '"' => some '"'
  | '\\' => some '\\'
  | _ => none

/-- The value of a list of digits of base 16. -/
def hexValue? (digits : List Char) : Option Nat :=
  digits.foldlM (fun n c => (hexDigit? c).map (n * 16 + ·)) 0

/-- The character of a code of exactly `width` digits. -/
def codePoint (width : Nat) : Reader Char := fun cs =>
  if (cs.take width).length = width then
    (hexValue? (cs.take width)).bind fun n =>
      if n.isValidChar then some (Char.ofNat n, cs.drop width) else none
  else none

/-- The character that an escape stands for, behind its backslash. -/
def escapedChar : Reader Char
  | 'u' :: rest => codePoint 4 rest
  | 'U' :: rest => codePoint 8 rest
  | c :: rest => (escapeLetter? c).map (·, rest)
  | [] => none

/-! ## Strings -/

/-- The rest of a string on one line, with escapes. -/
def basicBody : Nat → Reader (List Char)
  | 0, _ => none
  | _, [] => none
  | fuel + 1, c :: cs =>
      if c = '"' then some ([], cs)
      else if c = '\\' then
        (escapedChar cs).bind fun (d, rest) =>
          (basicBody fuel rest).map fun (s, rest) => (d :: s, rest)
      else if isPlain c then (basicBody fuel cs).map fun (s, rest) => (c :: s, rest)
      else none

/-- The rest of a literal string on one line. -/
def literalBody (cs : List Char) : Option (List Char × List Char) :=
  let inside (c : Char) : Bool := isPlain c && c != '\''
  match cs.dropWhile inside with
  | '\'' :: rest => some (cs.takeWhile inside, rest)
  | _ => none

/-- The text behind line ends and blanks, which a backslash at the end of a line swallows. -/
def skipBreaks : List Char → List Char
  | [] => []
  | c :: cs =>
      if isSpace c || c == '\n' then skipBreaks cs
      else if c == '\r' && cs.head? == some '\n' then skipBreaks cs
      else c :: cs

/-- The rest of a string over several lines, with escapes if `escapes` holds. -/
def longBody (quote : Char) (escapes : Bool) : Nat → Reader (List Char)
  | 0, _ => none
  | _, [] => none
  | fuel + 1, c :: cs =>
      if c = quote then
        let run := 1 + (cs.takeWhile (· == quote)).length
        if run ≤ 2 then
          (longBody quote escapes fuel (cs.drop (run - 1))).map fun (s, rest) =>
            (List.replicate run quote ++ s, rest)
        else some (List.replicate (min (run - 3) 2) quote, (c :: cs).drop (min run 5))
      else if escapes ∧ c = '\\' then
        match newline? (skipSpace cs) with
        | some rest => longBody quote escapes fuel (skipBreaks rest)
        | none =>
            (escapedChar cs).bind fun (d, rest) =>
              (longBody quote escapes fuel rest).map fun (s, rest) => (d :: s, rest)
      else
        match newline? (c :: cs) with
        | some rest =>
            (longBody quote escapes fuel rest).map fun (s, rest) => ('\n' :: s, rest)
        | none =>
            if isPlain c then
              (longBody quote escapes fuel cs).map fun (s, rest) => (c :: s, rest)
            else none

/-- A string over several lines, behind its three quotes.  A line end right behind them does not
count. -/
def longString (quote : Char) (escapes : Bool) : Reader String := fun cs =>
  let rest := (newline? cs).getD cs
  (longBody quote escapes (rest.length + 1) rest).map fun (s, rest) => (String.ofList s, rest)

/-- A string on one line. -/
def shortString : Reader String
  | '"' :: rest =>
      (basicBody (rest.length + 1) rest).map fun (s, rest) => (String.ofList s, rest)
  | '\'' :: rest => (literalBody rest).map fun (s, rest) => (String.ofList s, rest)
  | _ => none

/-- A string of any kind. -/
def readString : Reader String
  | '"' :: '"' :: '"' :: rest => longString '"' true rest
  | '\'' :: '\'' :: '\'' :: rest => longString '\'' false rest
  | cs => shortString cs

/-! ## Keys -/

/-- A character of a key without quotes. -/
def isBareKeyChar (c : Char) : Bool := c.isAlphanum || c == '-' || c == '_'

/-- One part of a key. -/
def keyPart : Reader String := fun cs =>
  match cs with
  | '"' :: _ | '\'' :: _ => shortString cs
  | _ =>
      let found := cs.takeWhile isBareKeyChar
      if found.isEmpty then none else some (String.ofList found, cs.drop found.length)

/-- The parts of a key, at most `count`, with the blanks around them. -/
def keyParts : Nat → Reader (List String)
  | 0, _ => none
  | count + 1, cs =>
      (keyPart (skipSpace cs)).bind fun (part, rest) =>
        match skipSpace rest with
        | '.' :: rest => (keyParts count rest).map fun (parts, rest) => (part :: parts, rest)
        | rest => some ([part], rest)

/-- How many parts a key may have, and how deep arrays and inline tables may be nested. -/
def maxDepth : Nat := 79

/-- A key of one or more parts. -/
def key : Reader (List String) := keyParts maxDepth

example : key "a . \"b.c\".'d' =".toList = some (["a", "b.c", "d"], ['=']) := by decide +kernel

example : readString "\"a\\u00e9\\n\"x".toList = some ("aé\n", ['x'])
    ∧ readString "\"a\\q\"".toList = none := by decide +kernel

/-- Up to two quotes stand before the three that close. -/
example : readString "\"\"\"\na\"\"b\\\n  c\"\"\"\"\"x".toList = some ("a\"\"bc\"\"", ['x']) := by
  decide +kernel

example : readString "'''\r\na\r\nb'''".toList = some ("a\nb", []) := by decide +kernel

end Roster.Toml
