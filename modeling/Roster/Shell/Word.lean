/-!
# Words of a shell command line

A command line that runs on a node is read by a POSIX shell there.  `quote` writes a text so that
the shell reads it as one word: text of harmless characters as it is, and all other text in single
quotes, with each single quote inside written outside of them, behind a backslash.
-/

namespace Roster.Shell

/-- A character that the shell takes as it is. -/
def isHarmless (c : Char) : Bool :=
  c.isAlphanum || ['-', '_', '.', '/', '=', ':', '@', '%', '+', ','].contains c

/-- A character inside single quotes. -/
def quotedChar (c : Char) : List Char := if c = '\'' then ['\'', '\\', '\'', '\''] else [c]

/-- The characters of a word. -/
def quoteChars (cs : List Char) : List Char :=
  if cs ≠ [] ∧ cs.all isHarmless then cs else '\'' :: cs.flatMap quotedChar ++ ['\'']

/-- The text as one word. -/
def quote (s : String) : String := String.ofList (quoteChars s.toList)

example : quote "train-1" = "train-1" ∧ quote "" = "''" ∧ quote "a b" = "'a b'" := by
  decide +kernel

example : quote "it's" = "'it'\\''s'" := by decide +kernel

end Roster.Shell
