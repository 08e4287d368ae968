import Roster.Action
import Roster.Allocation.Queue
import Roster.Probe

/-!
# Services

What the program calls in its work: the scheduler for the nodes, a probe for the sessions, and the
actions on sessions.  Each answer comes with the time that it takes, in milliseconds.

`Services.remote` are those that run the scheduler's tools and the remote shell.
-/

namespace Roster

/-- What the scheduler answers. -/
structure Resolution where
  /-- How long it takes. -/
  delay : Nat
  /-- The nodes, or why there are none. -/
  result : Except Queue.Fault (List Allocation)

/-- What an action comes to. -/
structure Deed where
  /-- How long it takes. -/
  delay : Nat
  /-- Why it failed, if it did. -/
  result : Except ActionFault Unit

/-- What the program calls. -/
structure Services where
  /-- The scheduler's answer. -/
  resolution : Resolution
  /-- The way to ask nodes. -/
  probe : Probe
  /-- The way to act on sessions. -/
  act : Action → Deed

namespace Services

/-- The services that run the scheduler's tools and the remote shell.  `self` is the user who runs
the program. -/
def remote (programs : Programs) (queue : Queue.Options) (self : Option String)
    (o : Remote.Options) (limit : Duration) : Services where
  resolution := ⟨Queue.delay programs queue self, Queue.resolve programs queue self⟩
  probe := .remote programs o limit
  act a := ⟨a.delay programs o limit, a.perform programs o limit⟩

end Services

end Roster
