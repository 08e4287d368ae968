import Mathlib.Logic.Function.Basic
import Roster.Remote
import Roster.Session.Line

/-!
# What a shell reads

A command line that runs on a node is read by a POSIX shell there, which cuts it into words and gives
many characters a meaning of their own.  This module reads lines as such a shell does and finds in
them the words that they were made of.

*Reading.*  Blanks separate words, single quotes keep what stands between them, and outside of them a
backslash keeps the character behind it (`Reading.next`).  The reader is stricter than a shell.  It
refuses a line in which any other character stands open that a shell might not take as it is, so
that a shell reads just the words that the reader gives (`words?`).  `argv?` asks besides that the
words are one simple command, and not an assignment or a construct of the shell's own.

*Quoting.*  A quoted text adds that text to the word at which it stands, whatever it holds
(`foldlM_quoteChars`).  So words that are quoted one by one and written with blanks between them are
read back (`words?_spell`), and two texts that look the same in quotes are the same.

*Lines.*  Each command line for sessions is spelled this way, and a node name stands alone behind the
two hyphens or there is no command (`words_of_lines`).
-/

namespace Roster.Shell

/-! ## Reading -/

/-- Characters that mean something to a shell, or may do so where they stand, unless they are
quoted. -/
def specialChars : List Char := "|&;<>()$`\\\"' \t\n*?[]#~!^\x7b\x7d".toList

/-- A character that stands for itself where it stands open.  What is not printable ASCII is left
out, since the locale decides what separates words. -/
def isLiteral (c : Char) : Bool := 33 ≤ c.toNat && c.toNat ≤ 126 && !specialChars.contains c

/-- How the next character is read. -/
inductive Mode where
  /-- Outside of quotes. -/
  | bare
  /-- Behind a backslash. -/
  | escaped
  /-- Between single quotes. -/
  | quoted
deriving DecidableEq

/-- What has been read of a line. -/
structure Reading where
  /-- The words that are complete. -/
  words : List (List Char) := []
  /-- The word begun, if one is.  It may be empty, as behind an opening quote. -/
  word : Option (List Char) := none
  /-- How the next character is read. -/
  mode : Mode := .bare

namespace Reading

/-- Adds characters to the word begun, or begins one with them. -/
def append (r : Reading) (cs : List Char) : Reading :=
  { r with word := some (r.word.getD [] ++ cs) }

/-- Completes the word begun, if one is. -/
def close (r : Reading) : Reading := { r with words := r.words ++ r.word.toList, word := none }

/-- Reads one character, unless it stands open and means something else than itself. -/
def next (r : Reading) (c : Char) : Option Reading :=
  match r.mode with
  | .bare =>
      if c = ' ' ∨ c = '\t' then some r.close
      else if c = '\'' then some { r.append [] with mode := .quoted }
      else if c = '\\' then some { r.append [] with mode := .escaped }
      else if isLiteral c then some (r.append [c])
      else none
  | .escaped => if c = '\n' then none else some { r.append [c] with mode := .bare }
  | .quoted => some (if c = '\'' then { r with mode := .bare } else r.append [c])

end Reading

/-- The words of a line.  There are none if a quote stays open. -/
def words? (line : String) : Option (List String) :=
  (line.toList.foldlM Reading.next {}).bind fun r =>
    if r.mode = .bare then some (r.close.words.map String.ofList) else none

/-- Words that open or close a construct of the shell's own where the name of a command is
expected. -/
def reservedWords : List String :=
  ["!", "\x7b", "\x7d", "[[", "]]", "case", "coproc", "do", "done", "elif", "else", "esac", "fi", "for",
    "function", "if", "in", "namespace", "select", "then", "time", "until", "while"]

/-- A word that names a command: it is not reserved, and it assigns nothing. -/
def namesCommand (word : String) : Bool :=
  !reservedWords.contains word && !word.toList.contains '='

/-- The words of a line that is one simple command. -/
def argv? (line : String) : Option (List String) :=
  (words? line).filter fun words => words.head?.any namesCommand

/-! ## Quoting -/

theorem isLiteral_of_isHarmless {c : Char} (h : isHarmless c = true) : isLiteral c = true := by
  have hascii : c.toNat < 128 := by
    delta isHarmless Char.isAlphanum Char.isAlpha Char.isUpper Char.isLower Char.isDigit at h
    simp only [Bool.or_eq_true, Bool.and_eq_true, decide_eq_true_eq, List.contains_iff_mem] at h
    rcases h with h | h
    · simp only [UInt32.le_iff_toNat_le, ge_iff_le] at h
      have hz : 'z'.val.toNat = 122 := rfl
      have hZ : 'Z'.val.toNat = 90 := rfl
      have h9 : '9'.val.toNat = 57 := rfl
      have hc : c.toNat = c.val.toNat := rfl
      omega
    · have hmarks : (['-', '_', '.', '/', '=', ':', '@', '%', '+', ','].all
          fun d => d.toNat < 128) = true := by decide +kernel
      exact of_decide_eq_true (List.all_eq_true.1 hmarks c h)
  have hall : ∀ n < 128, isHarmless (Char.ofNat n) = true → isLiteral (Char.ofNat n) = true := by
    decide +kernel
  have hc := hall c.toNat hascii
  rw [Char.ofNat_toNat] at hc
  exact hc h

namespace Reading

variable {r : Reading}

@[simp] theorem append_append (r : Reading) (cs ds : List Char) :
    (r.append cs).append ds = r.append (cs ++ ds) := by
  simp [append]

@[simp] theorem append_mode (r : Reading) (cs : List Char) : (r.append cs).mode = r.mode := rfl

theorem next_blank (hr : r.mode = .bare) : r.next ' ' = some r.close := by
  simp [next, hr]

theorem next_harmless (hr : r.mode = .bare) {c : Char} (hc : isHarmless c = true) :
    r.next c = some (r.append [c]) := by
  have hl := isLiteral_of_isHarmless hc
  have hne : c ≠ ' ' ∧ c ≠ '\t' ∧ c ≠ '\'' ∧ c ≠ '\\' := by
    refine ⟨?_, ?_, ?_, ?_⟩ <;> (rintro rfl; exact absurd hc (by decide))
  simp [next, hr, hne, hl]

/-- Harmless characters are added as they are. -/
theorem foldlM_harmless (hr : r.mode = .bare) {cs : List Char} (hcs : ∀ c ∈ cs, isHarmless c = true)
    (done : List Char) : cs.foldlM next (r.append done) = some (r.append (done ++ cs)) := by
  induction cs generalizing done with
  | nil => simp
  | cons c rest ih =>
      have hc := hcs c List.mem_cons_self
      rw [List.foldlM_cons, next_harmless (by exact hr) hc, Option.bind_eq_bind, Option.bind_some,
        append_append, ih (fun d hd => hcs d (List.mem_cons_of_mem _ hd)), List.append_assoc]
      rfl

/-- Between single quotes every character is added, where a single quote inside stands for
itself by way of the backslash. -/
theorem foldlM_quotedChar (r : Reading) (cs done : List Char) :
    (cs.flatMap quotedChar).foldlM next { r.append done with mode := .quoted } =
      some { r.append (done ++ cs) with mode := .quoted } := by
  induction cs generalizing done with
  | nil => simp
  | cons c rest ih =>
      have hchar : (quotedChar c).foldlM next { r.append done with mode := .quoted } =
          some { r.append (done ++ [c]) with mode := .quoted } := by
        by_cases hc : c = '\''
        · subst hc
          simp [quotedChar, next, append]
        · simp [quotedChar, hc, next, append]
      rw [List.flatMap_cons, List.foldlM_append, hchar, Option.bind_eq_bind, Option.bind_some, ih,
        List.append_assoc]
      rfl

/-- A quoted text adds itself to the word at which it stands. -/
theorem foldlM_quoteChars (hr : r.mode = .bare) (cs : List Char) :
    (quoteChars cs).foldlM next r = some (r.append cs) := by
  unfold quoteChars
  split
  next h =>
    obtain ⟨hne, hall⟩ := h
    cases cs with
    | nil => exact absurd rfl hne
    | cons c rest =>
        have hharmless := List.all_eq_true.1 hall
        have hc := hharmless c List.mem_cons_self
        rw [List.foldlM_cons, next_harmless hr hc, Option.bind_eq_bind, Option.bind_some,
          foldlM_harmless hr fun d hd => hharmless d (List.mem_cons_of_mem _ hd)]
        rfl
  next =>
    have hopen : r.next '\'' = some { r.append [] with mode := .quoted } := by simp [next, hr]
    rw [List.cons_append, List.foldlM_cons, hopen, Option.bind_eq_bind, Option.bind_some,
      List.foldlM_append, foldlM_quotedChar, Option.bind_eq_bind, Option.bind_some]
    simp [next, append, hr]

end Reading

/-- Words quoted one by one, with blanks between them. -/
def spell (words : List String) : String := " ".intercalate (words.map quote)

theorem spell_singleton (w : String) : spell [w] = quote w := by
  simp [spell]

theorem spell_cons_cons (w w' : String) (rest : List String) :
    spell (w :: w' :: rest) = quote w ++ " " ++ spell (w' :: rest) := by
  apply String.toList_inj.1
  simp [spell, String.toList_intercalate]

/-- What is read of a line that spells words. -/
theorem read_spell (words : List String) {r : Reading} (hmode : r.mode = .bare)
    (hword : r.word = none) :
    ∃ r', (spell words).toList.foldlM Reading.next r = some r' ∧ r'.mode = .bare
      ∧ r'.close.words = r.words ++ words.map String.toList := by
  induction words generalizing r with
  | nil => exact ⟨r, rfl, hmode, by simp [Reading.close, hword]⟩
  | cons w rest ih =>
      cases rest with
      | nil =>
          rw [spell_singleton, quote, String.toList_ofList, Reading.foldlM_quoteChars hmode]
          exact ⟨_, rfl, hmode, by simp [Reading.close, Reading.append, hword]⟩
      | cons w' rest =>
          have hline : (spell (w :: w' :: rest)).toList =
              quoteChars w.toList ++ ' ' :: (spell (w' :: rest)).toList := by
            simp [spell_cons_cons, quote]
          have hblank : (r.append w.toList).next ' ' = some (r.append w.toList).close :=
            Reading.next_blank hmode
          rw [hline, List.foldlM_append, Reading.foldlM_quoteChars hmode, Option.bind_eq_bind,
            Option.bind_some, List.foldlM_cons, hblank, Option.bind_eq_bind, Option.bind_some]
          obtain ⟨r', hread, hmode', hwords⟩ := ih (r := (r.append w.toList).close) hmode rfl
          refine ⟨r', hread, hmode', ?_⟩
          rw [hwords]
          simp [Reading.close, Reading.append, hword]

/-- Words that are spelled are read back. -/
theorem words?_spell (words : List String) : words? (spell words) = some words := by
  obtain ⟨r, hread, hmode, hwords⟩ := read_spell words (r := {}) rfl rfl
  rw [words?, hread, Option.bind_some, if_pos hmode, hwords]
  simp

theorem words?_quote (s : String) : words? (quote s) = some [s] := by
  rw [← spell_singleton, words?_spell]

theorem argv?_spell {name : String} (h : namesCommand name = true) (args : List String) :
    argv? (spell (name :: args)) = some (name :: args) := by
  rw [argv?, words?_spell]
  simp [Option.filter, h]

example : words? "echo 'it'\\''s' ''" = some ["echo", "it's", ""]
    ∧ argv? "tmux ls; rm x" = none ∧ argv? "A=b tmux ls" = none := by decide +kernel

theorem quote_injective : Function.Injective quote := by
  intro s t h
  have hs := words?_quote s
  rw [h, words?_quote] at hs
  simpa using hs.symm

/-! ## Lines -/

/-- A word of harmless characters needs no quotes. -/
theorem quote_eq_self {s : String} (hne : s ≠ "") (h : s.toList.all isHarmless = true) :
    quote s = s := by
  have hchars : s.toList ≠ [] := by simpa using hne
  rw [quote, quoteChars, if_pos ⟨hchars, h⟩, String.ofList_toList]

/-- The words that the command lines take over as they are. -/
theorem quote_fixed :
    quote "tmux" = "tmux" ∧ quote "list-sessions" = "list-sessions"
      ∧ quote "capture-pane" = "capture-pane" ∧ quote "new-session" = "new-session"
      ∧ quote "kill-session" = "kill-session" ∧ quote "attach-session" = "attach-session"
      ∧ quote "-F" = "-F" ∧ quote "-p" = "-p" ∧ quote "-t" = "-t" ∧ quote "-S" = "-S"
      ∧ quote "-d" = "-d" ∧ quote "-s" = "-s" := by
  decide +kernel

theorem list_eq : Line.list = spell ["tmux", "list-sessions", "-F", Line.listFormat] := by
  simp only [spell_cons_cons, spell_singleton, quote_fixed, ← String.append_assoc,
    String.reduceAppend]
  rfl

theorem capture_eq (name : String) (lines : Nat) :
    Line.capture name lines =
      spell ["tmux", "capture-pane", "-p", "-t", "=" ++ name ++ ":", "-S",
        "-" ++ toString (max lines 1)] := by
  have hnumber : quote ("-" ++ toString (max lines 1)) = "-" ++ toString (max lines 1) := by
    apply quote_eq_self
    · simp
    · have hdigits : (toString (max lines 1)).toList = Text.writeNat (max lines 1) :=
        String.toList_ofList
      rw [String.toList_append, hdigits, List.all_append, Bool.and_eq_true]
      refine ⟨by decide, List.all_eq_true.2 fun c hc => ?_⟩
      have hdigit := Text.isDigit_of_mem_writeNat hc
      simp [isHarmless, Char.isAlphanum, hdigit]
  have hend : " -S -" = " " ++ "-S -" := by decide
  show "tmux capture-pane -p -t " ++ quote ("=" ++ name ++ ":") ++ " -S -"
    ++ toString (max lines 1) = _
  simp only [spell_cons_cons, spell_singleton, quote_fixed, hnumber, ← String.append_assoc,
    String.reduceAppend]
  rw [hend, ← String.append_assoc]

theorem create_eq (name : String) :
    Line.create name = spell ["tmux", "new-session", "-d", "-s", name] := by
  simp only [spell_cons_cons, spell_singleton, quote_fixed, ← String.append_assoc,
    String.reduceAppend]
  rfl

theorem kill_eq (name : String) :
    Line.kill name = spell ["tmux", "kill-session", "-t", "=" ++ name] := by
  simp only [spell_cons_cons, spell_singleton, quote_fixed, ← String.append_assoc,
    String.reduceAppend]
  rfl

theorem attach_eq (name : String) :
    Line.attach name = spell ["tmux", "attach-session", "-t", "=" ++ name] := by
  simp only [spell_cons_cons, spell_singleton, quote_fixed, ← String.append_assoc,
    String.reduceAppend]
  rfl

/-! ## Nodes -/

/-- A name of a node that no remote shell takes for anything else. -/
def IsHostName (node : String) : Prop :=
  node ≠ "" ∧ node.utf8ByteSize ≤ 253 ∧ node.toList.head? ≠ some '-'
    ∧ ∀ c ∈ node.toList, c.isAlphanum = true ∨ c = '-' ∨ c = '_' ∨ c = '.'

theorem nodeNameFault?_eq_none_iff_isHostName {node : String} :
    nodeNameFault? node = none ↔ IsHostName node := by
  have hchars : node.toList.all isNodeNameChar = true ↔
      ∀ c ∈ node.toList, c.isAlphanum = true ∨ c = '-' ∨ c = '_' ∨ c = '.' := by
    simp [isNodeNameChar, List.all_eq_true, or_assoc]
  rw [nodeNameFault?_eq_none_iff, hchars, IsHostName, ne_eq, String.toList_eq_nil_iff]

/-- Whatever the names are, a shell reads in each command line the words that were meant, and a
remote call is made to the node that was meant or not at all.

* A text in quotes is one word, that text, also if it is empty, so that no two texts look the same
  in quotes.  Words quoted one by one with blanks between them are read back.
* The line of each command for sessions is one simple command.  The name of the session is in one of
  its words, as it is or in `=name` or `=name:`.
* A node whose name is no host name is refused, and nothing is started.  Any other one is an argument of
  its own, right behind the two hyphens. -/
theorem words_of_lines :
    (∀ s, words? (quote s) = some [s])
    ∧ Function.Injective quote
    ∧ (∀ words, words? (spell words) = some words)
    ∧ argv? Line.list = some ["tmux", "list-sessions", "-F", Line.listFormat]
    ∧ (∀ name lines, argv? (Line.capture name lines) =
        some ["tmux", "capture-pane", "-p", "-t", "=" ++ name ++ ":", "-S",
          "-" ++ toString (max lines 1)])
    ∧ (∀ name, argv? (Line.create name) = some ["tmux", "new-session", "-d", "-s", name])
    ∧ (∀ name, argv? (Line.kill name) = some ["tmux", "kill-session", "-t", "=" ++ name])
    ∧ (∀ name, argv? (Line.attach name) = some ["tmux", "attach-session", "-t", "=" ++ name])
    ∧ ∀ (o : Remote.Options) (terminal : Bool) (node : String) (line : Option String),
        (IsHostName node ∧ ∃ options, Remote.command? o terminal node line =
          .ok ⟨o.program, options ++ "--" :: node :: line.toList⟩)
        ∨ (¬ IsHostName node ∧ ∃ fault, Remote.command? o terminal node line = .error fault
          ∧ (∀ programs limit text,
              Remote.run programs o limit node text = .error (.invalidNode fault.message))
          ∧ (∀ programs, Remote.enter programs o node line = .error (.invalidNode fault.message))
          ∧ ∀ programs, Remote.log programs o terminal node line = []) := by
  have htmux : namesCommand "tmux" = true := by decide +kernel
  refine ⟨words?_quote, quote_injective, words?_spell, ?_, ?_, ?_, ?_, ?_, ?_⟩
  · rw [list_eq, argv?_spell htmux]
  · intro name lines
    rw [capture_eq, argv?_spell htmux]
  · intro name
    rw [create_eq, argv?_spell htmux]
  · intro name
    rw [kill_eq, argv?_spell htmux]
  · intro name
    rw [attach_eq, argv?_spell htmux]
  · intro o terminal node line
    cases hfault : nodeNameFault? node with
    | none =>
        left
        refine ⟨nodeNameFault?_eq_none_iff_isHostName.1 hfault, Remote.leadingArgs o terminal, ?_⟩
        rw [Remote.command?_eq_ok_iff]
        exact ⟨hfault, by simp⟩
    | some fault =>
        right
        have hrefused : ∀ terminal line, Remote.command? o terminal node line = .error fault := by
          intro terminal line
          rw [Remote.command?, hfault]
        refine ⟨?_, fault, hrefused .., fun _ _ _ => ?_, fun _ => ?_, fun _ => ?_⟩
        · rw [← nodeNameFault?_eq_none_iff_isHostName, hfault]
          exact Option.some_ne_none fault
        · rw [Remote.run, hrefused]
        · rw [Remote.enter, hrefused]
        · rw [Remote.log, hrefused]

end Roster.Shell
