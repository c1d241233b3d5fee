import DriveLink.Proofs.Pipeline.Accept
import DriveLink.Proofs.Pipeline.Life

/-! # Requests on their way

Wherever a request is on its way, it has its two names and perhaps a handler: that is its ticket.
Seen from the tickets, a connection is two lists of them, those of the requests that are not
entirely written and those of the requests that wait for their answers, and a step moves tickets
from the one to the other, or off them.

* `Ticket` — a request by its names and its handler;
* `Transit`, `Multiplexer.transit` — the requests on their way;
* `Shift`, `Move.shift` — what a step does to them. -/

namespace DriveLink

variable {σ η : Type}

/-- A request **by its names and its handler**, wherever it is on its way. -/
structure Ticket (η : Type) where
  sequence : Int64
  key : RequestKey
  handler : Option η

def QueuedRequest.ticket (request : QueuedRequest η) : Ticket η :=
  ⟨request.sequence, request.key, request.handler⟩

def InFlight.ticket (request : InFlight η) : Ticket η :=
  ⟨request.sequence, request.key, request.handler⟩

def OutstandingRequest.ticket (request : OutstandingRequest η) : Ticket η :=
  ⟨request.sequence, request.key, some request.handler⟩

/-- What failing the request comes to. -/
def Ticket.fail (ticket : Ticket η) (status : Status) : List (Completion η) :=
  (ticket.handler.map fun handler => ⟨ticket.key, handler, .failed status none⟩).toList

/-- **The requests on their way**, both lists from the oldest to the newest. -/
structure Transit (η : Type) where
  /-- Those that wait for their answers. -/
  awaiting : List (Ticket η)
  /-- Those that are not entirely written. -/
  unsent : List (Ticket η)

/-- All requests on their way, **from the oldest to the newest**. -/
def Transit.tickets (transit : Transit η) : List (Ticket η) := transit.awaiting ++ transit.unsent

/-- The tickets of the requests that an outbox has not entirely written. -/
def Outbox.unsent (outbox : Outbox η) : List (Ticket η) :=
  outbox.current.toList.map InFlight.ticket ++ outbox.queue.map QueuedRequest.ticket

/-- The tickets of the requests that are out. -/
def Outstanding.tickets (out : Outstanding η) : List (Ticket η) :=
  out.entries.map OutstandingRequest.ticket

/-- The requests on their way **over a connection**. -/
def Multiplexer.transit (m : Multiplexer σ η) : Transit η :=
  ⟨m.inbox.correlator.outstanding.tickets, m.outbox.unsent⟩

/-- Over a new connection no request is on its way. -/
theorem Multiplexer.Fresh.tickets {m : Multiplexer σ η} (h : m.Fresh) :
    m.transit.tickets = [] := by
  rw [Transit.tickets, Multiplexer.transit, Outbox.unsent, h.current, h.queue, h.outstanding]
  rfl

/-- **What a step does** to the requests on their way. -/
inductive Shift : Transit η → List (Event η) → Transit η → Prop
  /-- Nothing happens. -/
  | rest (transit : Transit η) : Shift transit [] transit
  /-- The channel takes bytes of the request that is being written. -/
  | take {awaiting unsent : List (Ticket η)} (ticket : Ticket η) (bytes : Bytes) :
      Shift ⟨awaiting, ticket :: unsent⟩ [.took ticket.sequence bytes]
        ⟨awaiting, ticket :: unsent⟩
  /-- A request fails as soon as it is submitted. -/
  | refuse (transit : Transit η) (ticket : Ticket η) (status : Status) :
      Shift transit
        (.submitted ticket.key ticket.handler :: (ticket.fail status).map .completed) transit
  /-- A request sets out. -/
  | submit {awaiting unsent : List (Ticket η)} (request : QueuedRequest η) :
      Shift ⟨awaiting, unsent⟩ [.submitted request.key request.handler, .queued request]
        ⟨awaiting, unsent ++ [request.ticket]⟩
  /-- A request is taken back before its first byte is out. -/
  | withdraw {awaiting before after : List (Ticket η)} (ticket : Ticket η) :
      Shift ⟨awaiting, before ++ ticket :: after⟩ [.cancelled ticket.key ticket.handler]
        ⟨awaiting, before ++ after⟩
  /-- A request is taken back that waits for its answer. -/
  | disown {unsent before after : List (Ticket η)} (ticket : Ticket η) :
      Shift ⟨before ++ ticket :: after, unsent⟩ [.cancelled ticket.key ticket.handler]
        ⟨before ++ after, unsent⟩
  /-- A request is out, and nobody wants to know its outcome. -/
  | forget {awaiting unsent : List (Ticket η)} {ticket : Ticket η} (bytes : Bytes)
      (none : ticket.handler = none) :
      Shift ⟨awaiting, ticket :: unsent⟩
        [.took ticket.sequence bytes, .sent ticket.sequence] ⟨awaiting, unsent⟩
  /-- A request is out, and waits for its answer. -/
  | track {awaiting unsent : List (Ticket η)} (request : OutstandingRequest η) (bytes : Bytes)
      (fresh : ∀ t ∈ awaiting, t.sequence ≠ request.sequence ∧ t.key ≠ request.key) :
      Shift ⟨awaiting, request.ticket :: unsent⟩
        [.took request.sequence bytes, .sent request.sequence, .tracked request]
        ⟨awaiting ++ [request.ticket], unsent⟩
  /-- A request is out, but one of its names is taken. -/
  | clash {awaiting unsent : List (Ticket η)} (request : OutstandingRequest η) (bytes : Bytes)
      (taken : ∃ t ∈ awaiting, t.sequence = request.sequence ∨ t.key = request.key) :
      Shift ⟨awaiting, request.ticket :: unsent⟩
        [.took request.sequence bytes, .sent request.sequence,
          .completed (.fail request.key request.handler
            (.client .internalError "could not track response for request"))]
        ⟨awaiting, unsent⟩
  /-- Writing fails. -/
  | breakOut {awaiting unsent : List (Ticket η)} (ticket : Ticket η) (bytes : Bytes)
      (status : Status) :
      Shift ⟨awaiting, ticket :: unsent⟩
        (.took ticket.sequence bytes ::
          ((ticket :: unsent).flatMap (Ticket.fail · status)).map .completed)
        ⟨awaiting, []⟩
  /-- A frame is passed over. -/
  | passOver (transit : Transit η) (outcome : ReadOutcome) :
      Shift transit [.received outcome] transit
  /-- A frame completes a request. -/
  | complete {unsent before after : List (Ticket η)} (ticket : Ticket η) (outcome : ReadOutcome)
      {completion : Completion η} (key_eq : completion.key = ticket.key)
      (handler_eq : ticket.handler = some completion.handler) :
      Shift ⟨before ++ ticket :: after, unsent⟩ [.received outcome, .completed completion]
        ⟨before ++ after, unsent⟩
  /-- Reading fails, or a frame fails every request. -/
  | breakIn {awaiting unsent : List (Ticket η)} (outcome : ReadOutcome) (status : Status) :
      Shift ⟨awaiting, unsent⟩
        (.received outcome :: (awaiting.flatMap (Ticket.fail · status)).map .completed)
        ⟨[], unsent⟩

/-! ## Failing -/

theorem Outbox.failures_eq (current : Option (InFlight η)) (queue : List (QueuedRequest η))
    (status : Status) :
    failures current queue status =
      (current.toList.map InFlight.ticket ++ queue.map QueuedRequest.ticket).flatMap
        (Ticket.fail · status) := by
  rw [List.flatMap_append, List.flatMap_map, List.flatMap_map]
  cases current with
  | none => rfl
  | some request =>
    rw [Option.toList_some, List.flatMap_singleton]
    rfl

theorem Outstanding.fail_eq (out : Outstanding η) (status : Status) :
    (out.entries.map fun request => Completion.fail request.key request.handler status) =
      out.tickets.flatMap (Ticket.fail · status) := by
  rw [tickets, List.flatMap_map, List.map_eq_flatMap]
  rfl

/-- **The end** fails every request on its way, those that are not entirely written first. -/
theorem Multiplexer.shutDown_eq (m : Multiplexer σ η) :
    m.shutDown = (m.transit.unsent ++ m.transit.awaiting).flatMap
      (Ticket.fail · (.client .shutdown "connection shut down")) := by
  have outward : m.outbox.shutDown = m.transit.unsent.flatMap
      (Ticket.fail · (.client .shutdown "connection shut down")) := Outbox.failures_eq _ _ _
  have inward : m.inbox.shutDown = m.transit.awaiting.flatMap
      (Ticket.fail · (.client .shutdown "connection shut down")) := Outstanding.fail_eq _ _
  rw [shutDown, outward, inward, List.flatMap_append]

/-! ## Steps move tickets -/

variable [Channel σ]

/-- **What every step does** to the requests on their way. -/
theorem Move.shift {m m' : Multiplexer σ η} {events : List (Event η)} (h : Move m events m') :
    Shift m.transit events m'.transit := by
  cases h with
  | elapse channel => exact .rest _
  | reject dead handler => exact .refuse _ ⟨0, m.nextKey, handler⟩ _
  | @misfit _ _ _ handler status alive prepared =>
    exact .refuse m.transit ⟨0, m.nextKey, handler⟩ status
  | @queue _ _ _ handler request alive prepared =>
    obtain ⟨-, frame, -, rfl⟩ := Outbox.exists_frame_of_prepare prepared
    unfold Multiplexer.transit Outbox.unsent
    rw [List.map_append, ← List.append_assoc]
    exact .submit ⟨frame, m.outbox.nextSequence, m.nextKey, handler⟩
  -- the request that is found stands between others, and only it goes away
  | @withdraw key request found =>
    obtain ⟨before, after, queue_eq, erased, -, same⟩ := exists_split_of_find? found
    have key_eq : request.key = key := of_decide_eq_true same
    unfold Multiplexer.transit Outbox.unsent
    rw [erased, queue_eq, List.map_append, List.map_append, List.map_cons, ← List.append_assoc,
      ← List.append_assoc, ← key_eq]
    exact .withdraw request.ticket
  | @disown key request absent found =>
    obtain ⟨before, after, entries_eq, erased, -, same⟩ := exists_split_of_find? found
    have key_eq : request.key = key := of_decide_eq_true same
    unfold Multiplexer.transit Outstanding.tickets
    rw [erased, entries_eq, List.map_append, List.map_append, List.map_cons, ← key_eq]
    exact .disown request.ticket
  | begin working free turn =>
    unfold Multiplexer.transit Outbox.unsent
    rw [free, turn]
    exact .rest _
  | stall working current write =>
    unfold Multiplexer.transit Outbox.unsent
    rw [current]
    exact .take _ _
  -- the request leaves those that are written; whether it waits now depends on its handler
  | @release request writer channel working current write =>
    have releases := Outbox.releases_release request m.inbox
    unfold Multiplexer.transit Outbox.unsent
    rw [current]
    generalize Outbox.release request m.inbox = released at releases ⊢
    cases releases with
    | unasked none => exact .forget _ none
    | @tracked handler some fresh =>
      obtain ⟨left, sequence, key, _⟩ := request
      subst some
      unfold Outstanding.tickets
      rw [List.map_append]
      refine .track ⟨sequence, key, handler⟩ _ fun t mem => ?_
      obtain ⟨entry, inside, rfl⟩ := List.mem_map.mp mem
      exact fresh entry inside
    | @refused handler some taken =>
      obtain ⟨left, sequence, key, _⟩ := request
      subst some
      obtain ⟨entry, mem, same⟩ := taken
      exact .clash ⟨sequence, key, handler⟩ _ ⟨entry.ticket, List.mem_map_of_mem mem, same⟩
  | @breakOut request writer channel error working current write =>
    unfold Multiplexer.transit Outbox.unsent
    rw [current, Outbox.failures_eq]
    exact .breakOut _ _ _
  | await working read => exact .rest _
  | @accept outcome reader channel working read ends =>
    -- of all that a frame can be, only four things matter to the requests
    have accepts := m.inbox.correlator.accepts_accept ends
    unfold Multiplexer.transit Outstanding.tickets
    generalize m.inbox.correlator.accept outcome = accepted at accepts ⊢
    cases accepts with
    | giveUp status connectionId stop =>
      rw [Outstanding.fail_eq]
      exact .breakIn _ _
    | passOver connectionId => exact .passOver _ _
    | @answer frame _ response request before after opened answers entries_eq connectionId =>
      rw [entries_eq, List.map_append, List.map_append]
      refine .complete request.ticket _ ?_ ?_
      · rw [Completion.answer]
        split <;> rfl
      · rw [Completion.answer]
        split <;> rfl
    | @tooLarge bytes commandLength valueLength request before after acknowledged entries_eq =>
      rw [entries_eq, List.map_append, List.map_append]
      exact .complete request.ticket _ rfl rfl
  | breakIn working read all =>
    cases all
    unfold Multiplexer.transit
    rw [Outstanding.fail_eq]
    exact .breakIn _ _
  | fuse broken => exact .rest _

end DriveLink
