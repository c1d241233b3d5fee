import DriveLink.Status

/-! # One call at a time

An `Exclusive` value is used by one call at a time. A callback that fires during a call runs within
it; if it calls the same value again it is refused, because the value is in use.

* `Exclusive` — a value and whether it is in use;
* `Exclusive.use` — one call;
* `Exclusive.enter`, `Exclusive.leave` — its two ends. -/

namespace DriveLink

/-- A value that is **used by one call at a time**. -/
structure Exclusive (α : Type) where
  value : α
  inUse : Bool := false

namespace Exclusive

variable {α β : Type}

/-- The refusal of a call from within a call. -/
def refusal : Status :=
  .client .internalError "re-entrant call into a synchronized connection"

/-- **Begin** a call. -/
def enter (e : Exclusive α) : Except Status (Exclusive α) :=
  if e.inUse then .error refusal else .ok { e with inUse := true }

/-- **End** a call, which leaves a new value. -/
def leave (e : Exclusive α) (value : α) : Exclusive α := { e with value, inUse := false }

/-- **One call**: `f` is given the value and whatever else is called while it is in use, and leaves
a new value. A refused call changes nothing. -/
def use (e : Exclusive α) (f : Exclusive α → β × α) : Except Status β × Exclusive α :=
  match e.enter with
  | .error status => (.error status, e)
  | .ok entered =>
    let (result, value) := f entered
    (.ok result, entered.leave value)

end Exclusive

end DriveLink
