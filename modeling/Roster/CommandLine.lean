import Roster.Identity
import Roster.Text.Numeral

/-!
# The command line

A command line is a sequence of words: options, a verb and its operands.  Options that stand beside
every verb may come before it or after it.  `read` gives the settings and the task, or says why
there are none.

Words are read from left to right on two levels, before the verb and after it.

* An option with a value takes it from behind an equals sign or from the next word, which must not
  look like an option then.  No option is given twice on a level.
* Behind two hyphens alone all words are operands.
* A setting that is not on the command line is taken from the environment, on each level.  Where
  both levels have one, the command line counts more than the environment and then the inner level
  more than the outer.
-/

namespace Roster

/-- The settings that stand beside every verb. -/
structure Settings where
  /-- Where the configuration is. -/
  config : Option String := none
  /-- Whether notes and outputs are kept in memory only. -/
  ephemeral : Bool := false
  /-- The seconds from one scan to the next. -/
  interval : Option Nat := none
  /-- Whether scans take outputs. -/
  snapshot : Bool := false
  /-- Whose nodes are listed. -/
  user : Option String := none
  /-- How many nodes are visited at once. -/
  maxConcurrent : Option Nat := none
  /-- The seconds that a remote call may take. -/
  probeTimeout : Option Nat := none
deriving DecidableEq, Repr

/-- What the program shall do. -/
inductive Task where
  /-- Prints the inventory. -/
  | list (query : String) (json : Bool)
  /-- Shows the inventory and its changes. -/
  | watch (query : String)
  /-- Prints the incidents. -/
  | errors (json : Bool)
  /-- Sets a note. -/
  | note (id : Identity) (words : List String)
  /-- Deletes a note. -/
  | unnote (id : Identity)
  /-- Drops a session that does not run. -/
  | forget (id : Identity)
  /-- Attaches the terminal to a session. -/
  | attach (id : Identity)
  /-- Opens a shell. -/
  | shell (node : String)
  /-- Makes a session. -/
  | new (node name : String)
  /-- Ends a session. -/
  | kill (id : Identity) (confirmed : Bool)
  /-- Takes the output of a session. -/
  | capture (id : Identity)
deriving DecidableEq, Repr

namespace CommandLine

/-- Why there is no task. -/
inductive Refusal where
  /-- The words make no sense. -/
  | misuse
  /-- Help was asked for. -/
  | help
  /-- The version was asked for. -/
  | version
deriving DecidableEq, Repr

/-! ## Options -/

/-- An option. -/
inductive Opt where
  /-- Where the configuration is. -/
  | config
  /-- Keeps notes and outputs in memory only. -/
  | ephemeral
  /-- The seconds from one scan to the next. -/
  | interval
  /-- Lets scans take outputs. -/
  | snapshot
  /-- Whose nodes are listed. -/
  | user
  /-- How many nodes are visited at once. -/
  | maxConcurrent
  /-- The seconds that a remote call may take. -/
  | probeTimeout
  /-- Which sessions are shown. -/
  | filter
  /-- Prints JSON. -/
  | json
  /-- Confirms. -/
  | yes
  /-- Asks for help. -/
  | help
  /-- Asks for the version. -/
  | version
deriving DecidableEq, Repr

namespace Opt

/-- The word of an option, without its hyphens. -/
def word : Opt → String
  | config => "config"
  | ephemeral => "ephemeral"
  | interval => "interval"
  | snapshot => "snapshot"
  | user => "user"
  | maxConcurrent => "max-concurrent"
  | probeTimeout => "probe-timeout"
  | filter => "filter"
  | json => "json"
  | yes => "yes"
  | help => "help"
  | version => "version"

/-- Whether the option has a value. -/
def hasValue : Opt → Bool
  | config | interval | user | maxConcurrent | probeTimeout | filter => true
  | ephemeral | snapshot | json | yes | help | version => false

/-- The bound of the numbers that an option may have. -/
def numberBound : Nat := 18446744073709551616

/-- The number that a value gives. -/
def number? (value : String) : Option Nat := Text.readUnsigned numberBound value.toList

/-- Whether a value fits the option. -/
def accepts (o : Opt) (value : String) : Bool :=
  match o with
  | config => value != ""
  | interval | maxConcurrent | probeTimeout => (number? value).isSome
  | _ => true

/-- The variable that gives the value if the command line does not. -/
def envName? : Opt → Option String
  | config => some "NODEMUX_CONFIG"
  | interval => some "NODEMUX_INTERVAL"
  | user => some "NODEMUX_USER"
  | _ => none

/-- The options that stand beside every verb. -/
def everywhere : List Opt :=
  [config, ephemeral, interval, snapshot, user, maxConcurrent, probeTimeout, help]

end Opt

/-! ## Verbs -/

/-- What is to be done, in one word. -/
inductive Verb where
  /-- Prints the inventory. -/
  | list
  /-- Shows the inventory and its changes. -/
  | watch
  /-- Prints the incidents. -/
  | errors
  /-- Sets a note. -/
  | note
  /-- Deletes a note. -/
  | unnote
  /-- Drops a session that does not run. -/
  | forget
  /-- Attaches the terminal to a session. -/
  | attach
  /-- Opens a shell. -/
  | shell
  /-- Makes a session. -/
  | new
  /-- Ends a session. -/
  | kill
  /-- Takes the output of a session. -/
  | capture
deriving DecidableEq, Repr

namespace Verb

/-- The word. -/
def word : Verb → String
  | list => "list"
  | watch => "watch"
  | errors => "errors"
  | note => "note"
  | unnote => "unnote"
  | forget => "forget"
  | attach => "attach"
  | shell => "shell"
  | new => "new"
  | kill => "kill"
  | capture => "capture"

/-- All verbs. -/
def all : List Verb :=
  [list, watch, errors, note, unnote, forget, attach, shell, new, kill, capture]

/-- The verb of a word. -/
def ofWord? (word : String) : Option Verb := all.find? (·.word == word)

/-- The options of a verb beside those that stand everywhere. -/
def options : Verb → List Opt
  | list => [.filter, .json]
  | watch => [.filter]
  | errors => [.json]
  | kill => [.yes]
  | _ => []

/-- How many operands there must be. -/
def operandCount : Verb → Nat
  | list | watch | errors => 0
  | shell => 1
  | note | unnote | forget | attach | new | kill | capture => 2

/-- Whether more operands may follow. -/
def takesMore : Verb → Bool
  | note => true
  | _ => false

end Verb

/-! ## Levels -/

/-- Where words stand. -/
inductive Level where
  /-- Before the verb. -/
  | outer
  /-- Behind a verb. -/
  | inner (verb : Verb)
deriving DecidableEq, Repr

namespace Level

/-- The options of a level. -/
def options : Level → List Opt
  | outer => .version :: Opt.everywhere
  | inner verb => verb.options ++ Opt.everywhere

/-- The option of a word. -/
def option? (l : Level) (word : String) : Option Opt := l.options.find? (·.word == word)

/-- The option of a letter. -/
def ofLetter? (l : Level) : Char → Option Opt
  | 'h' => some .help
  | 'V' => if l = .outer then some .version else none
  | _ => none

/-- Whether one more operand fits behind so many. -/
def admits (l : Level) (count : Nat) : Bool :=
  match l with
  | outer => false
  | inner verb => count < verb.operandCount || verb.takesMore

end Level

/-- What is given on a level. -/
structure Given where
  /-- The options, each with its value. -/
  options : List (Opt × String) := []
  /-- The option that waits for its value, or has one that was not looked at. -/
  waiting : Option (Opt × Option String) := none
  /-- The operands. -/
  operands : List String := []
deriving DecidableEq, Repr

namespace Given

/-- The value of an option. -/
def value? (g : Given) (o : Opt) : Option String := g.options.lookup o

/-- Whether an option is given. -/
def has (g : Given) (o : Opt) : Bool := (g.value? o).isSome

/-- Whether the next word is a value. -/
def wantsValue (g : Given) : Bool :=
  match g.waiting with
  | some (_, none) => true
  | _ => false

/-- Gives an option. -/
def give (g : Given) (o : Opt) (value : String) : Except Refusal Given :=
  if g.has o || !o.accepts value then .error .misuse
  else .ok { g with options := g.options ++ [(o, value)] }

/-- Sees to the option that waits. -/
def settle (g : Given) : Except Refusal Given :=
  match g.waiting with
  | none => .ok g
  | some (_, none) => .error .misuse
  | some (o, some value) => { g with waiting := none }.give o value

/-- Gives an option without a value. -/
def raise (g : Given) (o : Opt) : Except Refusal Given := do
  let g ← g.settle
  match o with
  | .help => .error .help
  | .version => .error .version
  | _ => g.give o ""

/-- Gives an operand. -/
def operand (g : Given) (l : Level) (word : String) : Except Refusal Given := do
  let g ← g.settle
  if l.admits g.operands.length then return { g with operands := g.operands ++ [word] }
  else .error .misuse

end Given

/-! ## Words -/

/-- A word by its looks. -/
inductive Word where
  /-- Two hyphens alone. -/
  | escape
  /-- The name of an option behind two hyphens, perhaps with a value behind an equals sign. -/
  | long (name : String) (value : Option String)
  /-- Letters behind one hyphen. -/
  | letters (first : Char)
  /-- Any other word. -/
  | plain
deriving DecidableEq, Repr

/-- How a word looks. -/
def Word.ofString (word : String) : Word :=
  match word.toList with
  | ['-', '-'] => .escape
  | '-' :: '-' :: rest =>
      match rest.dropWhile (· != '=') with
      | [] => .long (String.ofList rest) none
      | _ :: value =>
          .long (String.ofList (rest.takeWhile (· != '='))) (some (String.ofList value))
  | '-' :: first :: _ => .letters first
  | _ => .plain

/-- Takes in an option by its name. -/
def readLong (l : Level) (g : Given) (name : String) (value : Option String) :
    Except Refusal Given :=
  match l.option? name with
  | none => .error .misuse
  | some o =>
      match o.hasValue, value with
      | true, some value => do (← g.settle).give o value
      | true, none => do return { (← g.settle) with waiting := some (o, none) }
      | false, some _ => .error .misuse
      | false, none => g.raise o

/-- Takes in a word before two hyphens alone, verbs apart. -/
def readWord (l : Level) (g : Given) (word : String) : Except Refusal Given :=
  match Word.ofString word with
  | .escape => .ok g
  | .long name value => readLong l g name value
  | .letters first =>
      match l.ofLetter? first with
      | some o => g.raise o
      | none => .error .misuse
  | .plain =>
      match g.waiting with
      | some (o, none) => .ok { g with waiting := some (o, some word) }
      | _ => g.operand l word

/-- Takes in the words behind a verb. -/
def readInner (l : Level) : Bool → Given → List String → Except Refusal Given
  | _, g, [] => .ok g
  | true, g, word :: rest => do readInner l true (← g.operand l word) rest
  | false, g, word :: rest => do
      readInner l (Word.ofString word == .escape) (← readWord l g word) rest

/-- Whether words ask for help on a verb. -/
def asksHelp : List String → Bool
  | [] => true
  | [word] => (Verb.ofWord? word).isSome || word == "help"
  | _ => false

/-- Takes in the words before the verb, up to the verb if there is one. -/
def readOuter : Given → List String → Except Refusal (Given × Option (Verb × List String))
  | g, [] => .ok (g, none)
  | g, word :: rest =>
      match if g.wantsValue then none else Verb.ofWord? word with
      | some verb => .ok (g, some (verb, rest))
      | none =>
          if !g.wantsValue && word == "help" then
            .error (if asksHelp rest then .help else .misuse)
          else if Word.ofString word == .escape then
            match rest with
            | [] => .ok (g, none)
            | _ => .error .misuse
          else do readOuter (← readWord .outer g word) rest

/-! ## Levels together -/

/-- Whether the environment has values that fit, for the options that are not given. -/
def environmentFits (env : String → Option String) (g : Given) : Bool :=
  Opt.everywhere.all fun o =>
    g.has o || match o.envName?.bind env with
      | some value => o.accepts value
      | none => true

/-- Looks over a level after its last word. -/
def close (env : String → Option String) (l : Level) (g : Given) : Except Refusal Given := do
  let g ← g.settle
  let enough := match l with
    | .outer => true
    | .inner verb => verb.operandCount ≤ g.operands.length
  if environmentFits env g && enough then return g else .error .misuse

/-- The value of a setting. -/
def setting? (env : String → Option String) (outer inner : Given) (o : Opt) : Option String :=
  inner.value? o <|> outer.value? o <|> o.envName?.bind env

/-- The settings of both levels. -/
def settings (env : String → Option String) (outer inner : Given) : Settings :=
  let text := setting? env outer inner
  let number := fun o => (text o).bind Opt.number?
  { config := text .config
    ephemeral := outer.has .ephemeral || inner.has .ephemeral
    interval := number .interval
    snapshot := outer.has .snapshot || inner.has .snapshot
    user := text .user
    maxConcurrent := number .maxConcurrent
    probeTimeout := number .probeTimeout }

/-- The task of a verb with what is given behind it. -/
def task (verb : Verb) (g : Given) : Task :=
  let first := g.operands.headD ""
  let id : Identity := ⟨first, (g.operands.drop 1).headD ""⟩
  let query := (g.value? .filter).getD ""
  match verb with
  | .list => .list query (g.has .json)
  | .watch => .watch query
  | .errors => .errors (g.has .json)
  | .note => .note id (g.operands.drop 2)
  | .unnote => .unnote id
  | .forget => .forget id
  | .attach => .attach id
  | .shell => .shell first
  | .new => .new first id.name
  | .kill => .kill id (g.has .yes)
  | .capture => .capture id

/-- The settings and the task that words ask for.  Without a verb the inventory is printed. -/
def read (env : String → Option String) (words : List String) : Except Refusal (Settings × Task) :=
  do
    match ← readOuter {} words with
    | (outer, none) =>
        let outer ← close env .outer outer
        return (settings env outer {}, .list "" false)
    | (outer, some (verb, rest)) =>
        let inner ← close env (.inner verb) (← readInner (.inner verb) false {} rest)
        let outer ← close env .outer outer
        return (settings env outer inner, task verb inner)

/-- Nothing is set in the environment. -/
def noVariables : String → Option String := fun _ => none

example : (read noVariables ["--interval", "5", "note", "n1", "main", "--interval=7", "a", "b"])
    = .ok ({ interval := some 7 }, .note ⟨"n1", "main"⟩ ["a", "b"]) := by rfl

example : (read noVariables ["kill", "n1"]) = .error .misuse := by rfl

example : (read noVariables ["list", "--filter", "--json"]) = .error .misuse := by rfl

end CommandLine

end Roster
