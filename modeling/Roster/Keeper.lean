import Roster.Gateway

/-!
# The keeper of the inventory

The keeper holds the inventory, the view published last, and the gateway.  Each operation runs as
a whole: it changes the inventory, saves what lasts where that may have changed, and publishes a
new view.

Memory is what counts.  A save that fails becomes an incident, and the change stays.
-/

namespace Roster

/-- Why a command of the user came to nothing, or did not last. -/
inductive KeeperFault where
  /-- There is no such session. -/
  | notFound (id : Identity)
  /-- The session runs. -/
  | active (id : Identity)
  /-- The change is kept, but only in memory. -/
  | unsaved (fault : StateFault)
deriving DecidableEq, Repr

/-- The fault in words. -/
def KeeperFault.message : KeeperFault → String
  | notFound id => "session not found: " ++ id.key
  | active id => "session is active: " ++ id.key
  | unsaved fault => "change kept in memory but not saved: " ++ fault.message

/-- The inventory with its view and its gateway. -/
structure Keeper (σ : Type) where
  /-- The inventory. -/
  inventory : Inventory := {}
  /-- The view published last. -/
  view : View := {}
  /-- How many views were published. -/
  published : Nat := 0
  /-- How many saves were tried. -/
  saves : Nat := 0
  /-- The state of the gateway. -/
  state : σ

/-- An operation on the inventory. -/
inductive Operation where
  /-- Takes in what was saved. -/
  | load
  /-- Takes in the findings of a scan. -/
  | merge (f : Findings)
  /-- Sets a note; a blank one is deleted instead. -/
  | setNote (id : Identity) (text : String)
  /-- Deletes a note. -/
  | deleteNote (id : Identity)
  /-- Files an output. -/
  | setCapture (id : Identity) (c : Captured)
  /-- Drops a session that does not run. -/
  | forget (id : Identity)
  /-- Keeps an incident. -/
  | addIncident (e : Incident)
  /-- Saves. -/
  | flush
deriving DecidableEq

namespace Keeper

variable {σ : Type}

/-- Publishes the view of the inventory, and gives it back. -/
def release (k : Keeper σ) : View × Keeper σ :=
  let view := k.inventory.view
  (view, { k with view, published := k.published + 1 })

/-- Publishes the view of the inventory. -/
def publish (k : Keeper σ) : Keeper σ := k.release.2

/-- The incident of a load or a save that went wrong. -/
def persistenceIncident (now : Instant) (message : String) : Incident :=
  ⟨.persistence, none, now, message⟩

/-- Saves what lasts.  A fault becomes an incident. -/
def save (g : Gateway σ) (now : Instant) (k : Keeper σ) : Except KeeperFault Unit × Keeper σ :=
  match g.save k.inventory.saved k.state with
  | (.ok (), state) => (.ok (), { k with state, saves := k.saves + 1 })
  | (.error fault, state) =>
      (.error (.unsaved fault),
        { k with
          state
          saves := k.saves + 1
          inventory := k.inventory.addIncident (persistenceIncident now fault.message) })

/-- Takes over a changed inventory, saves and publishes. -/
def commit (g : Gateway σ) (now : Instant) (k : Keeper σ) (inventory : Inventory) :
    Except KeeperFault Unit × Keeper σ :=
  let (result, k) := save g now { k with inventory }
  (result, k.publish)

/-- Takes over the inventory that a command gives, or says that there is no such session. -/
def commitOr (g : Gateway σ) (now : Instant) (k : Keeper σ) (id : Identity) :
    Option Inventory → Except KeeperFault Unit × Keeper σ
  | none => (.error (.notFound id), k)
  | some inventory => commit g now k inventory

/-- Takes in what was saved, and gives back the view that it publishes.  What was amiss becomes
incidents. -/
def loadView (g : Gateway σ) (now : Instant) (k : Keeper σ) : View × Keeper σ :=
  match g.load k.state with
  | (.ok loaded, state) =>
      let warned := k.inventory.addIncidents (loaded.warnings.map (persistenceIncident now))
      release { k with state, inventory := warned.load loaded.toSaved }
  | (.error fault, state) =>
      release
        { k with
          state
          inventory := k.inventory.addIncident (persistenceIncident now fault.message) }

/-- Takes in what was saved. -/
def load (g : Gateway σ) (now : Instant) (k : Keeper σ) : Keeper σ := (k.loadView g now).2

/-- Takes in the findings of a scan, saves if an output was filed, and gives back the view that it
publishes. -/
def mergeView (g : Gateway σ) (now : Instant) (k : Keeper σ) (f : Findings) : View × Keeper σ :=
  let merged := { k with inventory := k.inventory.merge f }
  let kept :=
    if Inventory.filesCapture k.inventory.entries f then (save g now merged).2 else merged
  kept.release

/-- Takes in the findings of a scan. -/
def merge (g : Gateway σ) (now : Instant) (k : Keeper σ) (f : Findings) : Keeper σ :=
  (k.mergeView g now f).2

/-- Performs an operation at the time `now`. -/
def perform (g : Gateway σ) (now : Instant) (k : Keeper σ) :
    Operation → Except KeeperFault Unit × Keeper σ
  | .load => (.ok (), k.load g now)
  | .merge f => (.ok (), k.merge g now f)
  | .setNote id text =>
      commitOr g now k id <|
        if Text.trim text = "" then k.inventory.deleteNote id
        else k.inventory.setNote id (Text.trim text)
  | .deleteNote id => commitOr g now k id (k.inventory.deleteNote id)
  | .setCapture id c => commitOr g now k id (k.inventory.setCapture id c)
  | .forget id =>
      match k.inventory.entries.get? id with
      | none => (.error (.notFound id), k)
      | some e =>
          if e.isActive then (.error (.active id), k) else commit g now k (k.inventory.drop id)
  | .addIncident e => (.ok (), publish { k with inventory := k.inventory.addIncident e })
  | .flush =>
      match save g now k with
      | (.ok (), k) => (.ok (), k)
      | (.error fault, k) => (.error fault, k.publish)

end Keeper

end Roster
