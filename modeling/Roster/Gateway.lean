import Roster.Inventory

/-!
# Gateways

Notes and outputs are kept outside of the program by a gateway.  `Gateway σ` is what the inventory
needs of it: to load and to save, each of which may fail and may change the state `σ` of the
gateway.

`Memory.gateway` keeps them in memory only.  It can be told to fail, as a store under test is.
-/

namespace Roster

/-- Why a load or a save failed. -/
inductive StateFault where
  /-- A file could not be read. -/
  | read (path reason : String)
  /-- A file could not be written. -/
  | write (path reason : String)
  /-- A file is not written, since it could not be read before. -/
  | unreadable (path : String)
deriving DecidableEq, Repr

/-- The fault in words. -/
def StateFault.message : StateFault → String
  | read path reason => "failed to read " ++ path ++ ": " ++ reason
  | write path reason => "failed to write " ++ path ++ ": " ++ reason
  | unreadable path => "not overwriting " ++ path ++ ": it could not be read at startup"

/-- A place where notes and outputs last. -/
structure Gateway (σ : Type) where
  /-- Brings back what was saved. -/
  load : σ → Except StateFault Loaded × σ
  /-- Saves, in place of all that was saved before. -/
  save : Saved → σ → Except StateFault Unit × σ

/-- What is kept in memory. -/
structure Memory where
  /-- What was saved last. -/
  saved : Saved := {}
  /-- The fault of every save, if saves fail. -/
  failSave : Option StateFault := none
  /-- The fault of every load, if loads fail. -/
  failLoad : Option StateFault := none
deriving DecidableEq

/-- The gateway that keeps all in memory.  A save that fails changes nothing. -/
def Memory.gateway : Gateway Memory where
  load m :=
    match m.failLoad with
    | some fault => (.error fault, m)
    | none => (.ok { m.saved with warnings := [] }, m)
  save saved m :=
    match m.failSave with
    | some fault => (.error fault, m)
    | none => (.ok (), { m with saved })

end Roster
