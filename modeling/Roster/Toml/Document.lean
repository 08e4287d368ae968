import Roster.Toml.Scalar

/-!
# TOML documents

A document is read line by line into pairs and headers.  The pairs above the first header belong
to the root, those below a header to its table.  `read?` gives the whole document as one table, or
nothing if any part of it does not fit.
-/

namespace Roster.Toml

open Text

/-! ## Values -/

mutual

/-- A value, with arrays and inline tables nested at most `depth` deep. -/
def value : Nat → Nat → Reader Toml
  | 0, _, _ => none
  | fuel + 1, depth, cs =>
      match cs with
      | '"' :: _ | '\'' :: _ => (readString cs).map fun (s, rest) => (.string s, rest)
      | '[' :: rest =>
          if depth = 0 then none
          else (items fuel (depth - 1) rest).map fun (vs, rest) => (.array vs, rest)
      | '{' :: rest =>
          if depth = 0 then none
          else match skipSpace rest with
            | '}' :: rest => some (.table [], rest)
            | _ =>
                (pairs fuel (depth - 1) rest).bind fun (ps, rest) =>
                  (ofPairs? ps).map (·, rest)
      | 't' :: rest => (dropStart? "rue".toList rest).map (.boolean true, ·)
      | 'f' :: rest => (dropStart? "alse".toList rest).map (.boolean false, ·)
      | _ => numberOrMoment cs

/-- The items of an array up to the bracket that closes it.  A comma may follow the last one. -/
def items : Nat → Nat → Reader (List Toml)
  | 0, _, _ => none
  | fuel + 1, depth, cs =>
      (skipLines false cs).bind fun cs =>
        match cs with
        | ']' :: rest => some ([], rest)
        | _ =>
            (value fuel depth cs).bind fun (v, rest) => (skipLines false rest).bind fun rest =>
              match rest with
              | ',' :: rest => (items fuel depth rest).map fun (vs, rest) => (v :: vs, rest)
              | ']' :: rest => some ([v], rest)
              | _ => none

/-- The pairs of an inline table up to the brace that closes it. -/
def pairs : Nat → Nat → Reader (List (List String × Toml))
  | 0, _, _ => none
  | fuel + 1, depth, cs =>
      (key cs).bind fun (k, rest) => (dropStart? ['='] rest).bind fun rest =>
        (value fuel depth (skipSpace rest)).bind fun (v, rest) =>
          match skipSpace rest with
          | ',' :: rest => (pairs fuel depth rest).map fun (ps, rest) => ((k, v) :: ps, rest)
          | '}' :: rest => some ([(k, v)], rest)
          | _ => none

end

/-! ## Lines -/

/-- A header. -/
inductive Header where
  /-- The header of a table. -/
  | table (path : List String)
  /-- The header of one more table of an array of tables. -/
  | item (path : List String)

/-- A line that says something. -/
inductive Line where
  /-- A key and its value. -/
  | pair (path : List String) (v : Toml)
  /-- A header. -/
  | header (h : Header)

/-- A header, behind its first bracket. -/
def headerLine : Reader Line
  | '[' :: rest =>
      (key rest).bind fun (path, rest) =>
        (dropStart? [']', ']'] rest).map (.header (.item path), ·)
  | cs =>
      (key cs).bind fun (path, rest) => (dropStart? [']'] rest).map (.header (.table path), ·)

/-- A pair.  Every step into the value takes a character off the text, or two steps do. -/
def pairLine : Reader Line := fun cs =>
  (key cs).bind fun (path, rest) => (dropStart? ['='] rest).bind fun rest =>
    let rest := skipSpace rest
    (value (2 * rest.length + 1) maxDepth rest).map fun (v, rest) => (.pair path v, rest)

/-- The lines of a document that say something. -/
def lines : Nat → List Char → Option (List Line)
  | 0, _ => none
  | fuel + 1, cs =>
      match skipSpace cs with
      | [] => some []
      | '#' :: rest => (lineEnd? ('#' :: rest)).bind (lines fuel)
      | '\n' :: rest => lines fuel rest
      | '\r' :: '\n' :: rest => lines fuel rest
      | '[' :: rest =>
          (headerLine rest).bind fun (line, rest) => (lineEnd? rest).bind fun rest =>
            (lines fuel rest).map (line :: ·)
      | cs =>
          (pairLine cs).bind fun (line, rest) => (lineEnd? rest).bind fun rest =>
            (lines fuel rest).map (line :: ·)

/-! ## The document -/

/-- The pairs above the first header, and each header with the pairs below it. -/
def sections :
    List Line → List (List String × Toml) × List (Header × List (List String × Toml))
  | [] => ([], [])
  | .pair path v :: rest =>
      let (first, more) := sections rest
      ((path, v) :: first, more)
  | .header h :: rest =>
      let (first, more) := sections rest
      ([], (h, first) :: more)

/-- Adds what stands below a header. -/
def addSection (fields : Fields) (part : Header × List (List String × Toml)) : Option Fields :=
  match part.1 with
  | .table path => addTable fields path part.2
  | .item path => addItem fields path part.2

/-- The text without a byte order mark at its start. -/
def dropMark : List Char → List Char
  | '\ufeff' :: rest => rest
  | cs => cs

/-- The entries of the root table of a document. -/
def read? (text : String) : Option (List (String × Toml)) := do
  let cs := dropMark text.toList
  let (first, more) := sections (← lines (cs.length + 1) cs)
  let root ← first.foldlM addPair []
  return fieldValues (← more.foldlM addSection root)

example : ((read? "a.b = 1\n[c] # x\nd = [1, 'e',\n]\n[[f]]\n[[f]]").map (·.map (·.1)))
    = some ["a", "c", "f"] := by decide +kernel

example : (read? "[a]\nb = 1\n[a.b]\nc = 2").isNone := by decide +kernel

example : (read? "x = \x7ba = 1,\x7d").isNone ∧ (read? "x = \x7ba.b = 1, a.c = 2\x7d").isSome := by
  decide +kernel

end Roster.Toml
