/-!
# Paths

A path is a text of names joined by slashes, and one that starts with a slash is absolute.

The *names* are what the disk follows, one after the other.  A single dot is among them, since it
asks for a directory, and two dots are, since where they lead is for the disk to say.

The *parts* are what tells paths apart.  A single dot is a part only at the start of a path that is
not absolute.  The path above another (`parent?`) is its text without the last part.
-/

namespace Roster.Path

/-- The texts between slashes. -/
def splitSlash : List Char → List (List Char)
  | [] => [[]]
  | c :: cs =>
      if c = '/' then [] :: splitSlash cs
      else match splitSlash cs with
        | [] => [[c]]
        | first :: rest => (c :: first) :: rest

/-- The texts between slashes, joined again. -/
def joinSlash : List (List Char) → List Char
  | [] => []
  | [last] => last
  | first :: rest => first ++ '/' :: joinSlash rest

/-- Whether a path starts at the root. -/
def isAbsolute (path : String) : Bool := path.toList.head? == some '/'

/-- Whether a path ends in a slash. -/
def endsInSlash (path : String) : Bool := path.toList.getLast? == some '/'

/-- The names on a path. -/
def names (path : String) : List String :=
  ((splitSlash path.toList).map String.ofList).filter (· != "")

/-- The parts of a path. -/
def parts (path : String) : List String :=
  match (splitSlash path.toList).map String.ofList with
  | [] => []
  | first :: rest =>
      (if first = "" then [] else [first]) ++ rest.filter fun name => name != "" && name != "."

/-- Whether two paths have the same parts. -/
def same (a b : String) : Bool := isAbsolute a == isAbsolute b && parts a == parts b

/-- A path below another. -/
def join (base below : String) : String :=
  if isAbsolute below then below
  else if base = "" || endsInSlash base then base ++ below
  else base ++ "/" ++ below

/-! ## The way up -/

/-- Drops the texts in front that are no parts, where the last one stands for the start. -/
def dropIdle : List (List Char) → List (List Char)
  | text :: next :: rest =>
      if text = [] ∨ text = ['.'] then dropIdle (next :: rest) else text :: next :: rest
  | texts => texts

/-- The path without its last part, if it has one. -/
def parent? (path : String) : Option String :=
  match dropIdle (splitSlash path.toList).reverse with
  | [] => none
  | [first] => if first = [] then none else some ""
  | _ :: above =>
      match dropIdle above with
      | [[]] => some "/"
      | above => some (String.ofList (joinSlash above.reverse))

/-- A path and those above it, up to the start, if it has at most so many parts. -/
def ancestorsWithin : Nat → String → List String
  | 0, _ => []
  | fuel + 1, path =>
      match parent? path with
      | none => []
      | some above => path :: ancestorsWithin fuel above

/-- A path and those above it, but neither the root nor the empty path. -/
def ancestors (path : String) : List String := ancestorsWithin (names path).length path

/-- Splitting at slashes loses nothing. -/
theorem joinSlash_splitSlash (cs : List Char) : joinSlash (splitSlash cs) = cs := by
  induction cs with
  | nil => rfl
  | cons c cs ih =>
      have hne : splitSlash cs ≠ [] := by
        cases cs with
        | nil => simp [splitSlash]
        | cons d ds =>
            simp only [splitSlash]
            split
            · simp
            · split <;> simp
      obtain ⟨first, rest, hs⟩ := List.exists_cons_of_ne_nil hne
      rw [hs] at ih
      simp only [splitSlash, hs]
      split
      · next h => simp [joinSlash, ih, h]
      · cases rest with
        | nil =>
            simp only [joinSlash] at ih
            simp [joinSlash, ih]
        | cons second rest =>
            simp only [joinSlash] at ih
            simp [joinSlash, ih]

example : names "/a//b/./c/" = ["a", "b", ".", "c"] ∧ parts "/a//b/./c/" = ["a", "b", "c"] := by
  decide +kernel

example : parent? "/a" = some "/" ∧ parent? "a" = some "" ∧ parent? "/" = none
    ∧ parent? "/a/./b//c/." = some "/a/./b" ∧ parent? "./a" = some "." := by decide +kernel

example : ancestors "/a/b/../c" = ["/a/b/../c", "/a/b/..", "/a/b", "/a"] := by decide +kernel

example : join "/home/u" ".x" = "/home/u/.x" ∧ join "/" "x" = "/x" ∧ join "a" "/b" = "/b" := by
  decide +kernel

end Roster.Path
