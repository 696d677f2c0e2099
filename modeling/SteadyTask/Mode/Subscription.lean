import SteadyTask.Mode.Controller

/-!
# Watching the mode

The published status has a version that every change raises.  A subscription remembers which
version it has seen last, so several changes it has not seen are one to it.  A change that was not
seen before the controller went away is still delivered once.
-/

namespace SteadyTask.Mode

/-- The published status, for those who watch it. -/
structure Board where
  status : Status
  version : Nat
  closed : Bool
  deriving Repr, Inhabited

/-- The version that a watcher has seen last. -/
structure Subscription where
  seen : Nat
  deriving Repr, DecidableEq, Inhabited

/-- What a watcher finds. -/
inductive News where
  | pending
  | closed
  | changed (status : Status)
  deriving Repr

namespace Board

/-- The board of a new controller. -/
def ofController (c : Controller) : Board :=
  ⟨c.status, 0, false⟩

/-- Publishes the status after a change. -/
def publish (b : Board) (c : Controller) : Option Transition → Board
  | none => b
  | some _ => { b with status := c.status, version := b.version + 1 }

/-- The controller goes away. -/
def close (b : Board) : Board :=
  { b with closed := true }

/-- A subscription that has seen everything so far. -/
def subscribe (b : Board) : Subscription :=
  ⟨b.version⟩

/-- Looks for a change. -/
def poll (b : Board) (s : Subscription) : News × Subscription :=
  if s.seen ≠ b.version then (.changed b.status, ⟨b.version⟩)
  else if b.closed then (.closed, s)
  else (.pending, s)

end Board

end SteadyTask.Mode
