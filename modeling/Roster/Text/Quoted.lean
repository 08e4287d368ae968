import Roster.Text.Printable

/-!
# Quoted text in messages

Messages quote text that came from elsewhere, so that its ends and its hidden characters show.
The quote and the backslash get a backslash, the usual controls their letter, and every other
character that does not show alone is written `\u{..}` with its code point in hexadecimal digits.
-/

namespace Roster.Text

/-- One character of a quoted text. -/
def quotedChar (c : Char) : List Char :=
  match c with
  | '"' => ['\\', '"']
  | '\\' => ['\\', '\\']
  | '\n' => ['\\', 'n']
  | '\r' => ['\\', 'r']
  | '\t' => ['\\', 't']
  | '\x00' => ['\\', '0']
  | c =>
      if isPrintable c then [c]
      else ['\\', 'u', '{'] ++ Nat.toDigits 16 c.toNat ++ ['}']

/-- The text in quotes. -/
def quoted (s : String) : String :=
  String.ofList ('"' :: s.toList.flatMap quotedChar ++ ['"'])

example : quoted "a\"b\\\n\t\x00" = "\"a\\\"b\\\\\\n\\t\\0\"" := by decide +kernel

example : (quoted "\x1b").toList = ['"', '\\', 'u', '{', '1', 'b', '}', '"'] := by decide +kernel

example : quoted "it's 日本" = "\"it's 日本\"" := by decide +kernel

end Roster.Text
