import DriveLink.Frame.Reader
import DriveLink.Frame.Writer
import DriveLink.Pipeline.Outstanding

/-! # What happens on a connection

A request comes in, waits for its turn, is written piece by piece, waits for its answer and is
completed, unless it is taken back. Each of these is an event, and an operation of the pipeline
answers with the events that it caused, in order. Whoever only wants to know which handlers to call
looks at the completions among them.

* `QueuedRequest` — a request that waits for its turn;
* `Event` — one thing that happens to a request or a frame;
* `Event.completions` — the completions among some events. -/

namespace DriveLink

/-- A request that is framed and **waits for its turn**. -/
structure QueuedRequest (η : Type) where
  frame : Bytes
  sequence : Int64
  key : RequestKey
  handler : Option η

/-- **One thing that happens** on a connection. -/
inductive Event (η : Type)
  /-- The owner of the connection submits a request and gets this key for it. -/
  | submitted (key : RequestKey) (handler : Option η)
  /-- A request is numbered and framed, and waits for its turn. -/
  | queued (request : QueuedRequest η)
  /-- The channel takes these bytes of a request, perhaps none. -/
  | took (sequence : Int64) (bytes : Bytes)
  /-- A request is out: the channel has taken every byte, and a flush has made progress. -/
  | sent (sequence : Int64)
  /-- A request waits for its answer from now on. -/
  | tracked (request : OutstandingRequest η)
  /-- A read comes to the end of a frame, or fails. -/
  | received (outcome : ReadOutcome)
  | completed (completion : Completion η)
  /-- The owner takes a request back, and its handler with it. -/
  | cancelled (key : RequestKey) (handler : Option η)

namespace Event

variable {η : Type}

/-- The completion that an event is, if it is one. -/
def completion? : Event η → Option (Completion η)
  | completed completion => some completion
  | _ => none

/-- The **completions** among some events, in order. -/
def completions (events : List (Event η)) : List (Completion η) := events.filterMap completion?

@[simp] theorem completions_nil : completions ([] : List (Event η)) = [] := rfl

@[simp] theorem completions_append (events later : List (Event η)) :
    completions (events ++ later) = completions events ++ completions later :=
  List.filterMap_append

/-- Completions as events are the completions among those events. -/
@[simp] theorem completions_map_completed (done : List (Completion η)) :
    completions (done.map completed) = done := by
  rw [completions, List.filterMap_map]
  exact List.filterMap_some

end Event

end DriveLink
