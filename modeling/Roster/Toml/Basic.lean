/-!
# TOML values and tables under construction

A TOML document names its tables piece by piece: by headers, by headers of arrays of tables and by
dotted keys.  A table that is still open to some of these is a `Node`, and `Kind` says how it came
up, since that decides what may still be added:

* a table with a header of its own may not get another, nor may a dotted key reach into it;
* a table that only a longer header implied may still get its own header;
* a table that dotted keys made may get more keys of that kind, and no header.

`edit` goes down a path and changes what it finds there.  Finished nodes become plain values.
-/

namespace Roster

/-- A TOML value.  Of numbers with a fraction and of dates only their presence is kept. -/
inductive Toml where
  /-- A string. -/
  | string (s : String)
  /-- A whole number. -/
  | integer (n : Int)
  /-- A number with a fraction, an infinity or no number. -/
  | float
  /-- A truth value. -/
  | boolean (b : Bool)
  /-- A date, a time, or both. -/
  | moment
  /-- An array. -/
  | array (items : List Toml)
  /-- A table. -/
  | table (fields : List (String × Toml))

namespace Toml

/-- How a table came up. -/
inductive Kind where
  /-- By a header of its own, or as an inline table. -/
  | header
  /-- As a part of a longer header. -/
  | implied
  /-- By a dotted key. -/
  | dotted
deriving DecidableEq, Repr

/-- A value, or a table under construction. -/
inductive Node where
  /-- A finished value. -/
  | value (v : Toml)
  /-- A table. -/
  | table (kind : Kind) (fields : List (String × Node))
  /-- An array of tables, the last one first. -/
  | tables (items : List (List (String × Node)))

/-- The entries of a table under construction. -/
abbrev Fields := List (String × Node)

namespace Fields

/-- The entry of a key. -/
def get? (key : String) : Fields → Option Node
  | [] => none
  | (k, v) :: rest => if k = key then some v else get? key rest

/-- The entries with the one of a key set. -/
def put (key : String) (v : Node) : Fields → Fields
  | [] => [(key, v)]
  | (k, w) :: rest => if k = key then (key, v) :: rest else (k, w) :: put key v rest

/-- The entries without the one of a key. -/
def erase (key : String) (fields : Fields) : Fields := fields.filter (·.1 != key)

end Fields

/-- Changes the table at the end of a path.  Tables that are missing on the way are made: `dotted`
says whether a dotted key makes them or a header. -/
def edit (dotted : Bool) (change : Kind → Fields → Option Fields) :
    List String → Kind → Fields → Option Fields
  | [], kind, fields => change kind fields
  | key :: path, _, fields =>
      match fields.get? key with
      | none =>
          let kind := if dotted then .dotted else .implied
          (edit dotted change path kind []).map fun sub => fields.put key (.table kind sub)
      | some (.table kind sub) =>
          if dotted ∧ kind = .header then none
          else (edit dotted change path kind sub).map fun sub => fields.put key (.table kind sub)
      | some (.tables (last :: earlier)) =>
          (edit dotted change path .header last).map fun last =>
            fields.put key (.tables (last :: earlier))
      | some _ => none

/-- Sets the value of a dotted key, which must be new. -/
def addPair (fields : Fields) (pair : List String × Toml) : Option Fields :=
  match pair.1.getLast? with
  | none => none
  | some key =>
      let path := pair.1.dropLast
      let change (kind : Kind) (fields : Fields) : Option Fields :=
        if (kind == .dotted) == path.isEmpty || (fields.get? key).isSome then none
        else some (fields.put key (.value pair.2))
      edit true change path .header fields

/-- Opens the table of a header and sets the pairs below it. -/
def addTable (fields : Fields) (path : List String) (pairs : List (List String × Toml)) :
    Option Fields :=
  match path.getLast? with
  | none => none
  | some key =>
      let change (_ : Kind) (fields : Fields) : Option Fields := do
        let start ← match fields.get? key with
          | none => some []
          | some (.table .implied sub) => some sub
          | some _ => none
        let body ← pairs.foldlM addPair start
        return fields.put key (.table .header body)
      edit false change path.dropLast .header fields

/-- Adds one more table to the array of tables of a header and sets the pairs below it. -/
def addItem (fields : Fields) (path : List String) (pairs : List (List String × Toml)) :
    Option Fields :=
  match path.getLast? with
  | none => none
  | some key =>
      let change (_ : Kind) (fields : Fields) : Option Fields := do
        let earlier ← match fields.get? key with
          | none => some []
          | some (.tables items) => some items
          | some _ => none
        let body ← pairs.foldlM addPair []
        return fields.put key (.tables (body :: earlier))
      edit false change path.dropLast .header fields

mutual

/-- The finished value of a node. -/
def Node.toValue : Node → Toml
  | .value v => v
  | .table _ fields => .table (fieldValues fields)
  | .tables items => .array (tableValues items).reverse

/-- The finished values of the entries of a table. -/
def fieldValues : List (String × Node) → List (String × Toml)
  | [] => []
  | (key, v) :: rest => (key, v.toValue) :: fieldValues rest

/-- The finished tables of an array of tables. -/
def tableValues : List (List (String × Node)) → List Toml
  | [] => []
  | fields :: rest => .table (fieldValues fields) :: tableValues rest

end

/-- The value of a key of a table. -/
def field? (key : String) : List (String × Toml) → Option Toml
  | [] => none
  | (k, v) :: rest => if k = key then some v else field? key rest

/-- The inline table of its pairs. -/
def ofPairs? (pairs : List (List String × Toml)) : Option Toml :=
  (pairs.foldlM addPair []).map fun fields => .table (fieldValues fields)

example : (ofPairs? [(["a", "b"], .integer 1), (["a", "c"], .integer 2)]).isSome
    ∧ (ofPairs? [(["a"], .integer 1), (["a", "c"], .integer 2)]).isNone := by decide

/-- A header may name a table that a longer header implied, once. -/
example : (do addTable (← addTable [] ["a", "b"] []) ["a"] []).isSome
    ∧ (do addTable (← addTable [] ["a"] []) ["a"] []).isNone := by decide

end Toml

end Roster
