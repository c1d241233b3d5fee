import DriveLink.Proofs.Pipeline.Transit
import Mathlib.Algebra.Order.Group.Multiset
import Mathlib.Tactic.Abel

/-! # Where handlers are

A handler that is submitted is with its request until it is called or handed back. So at any moment
the handlers submitted so far are those called, those handed back and those that requests hold,
each of them once.

* `Ticket.handlers` — the handlers that requests hold;
* `Event.given`, `Event.fired`, `Event.handedBack` — what becomes of handlers in some events;
* `Shift.balance`, `Path.balance` — the balance of handlers. -/

namespace DriveLink

variable {σ η : Type}

/-! ## Handlers -/

/-- The handlers of some requests, each under the **key** of its request. -/
def Ticket.handlers (tickets : List (Ticket η)) : Multiset (RequestKey × η) :=
  tickets.filterMap fun ticket => ticket.handler.map (ticket.key, ·)

namespace Ticket

@[simp] theorem handlers_nil : handlers ([] : List (Ticket η)) = 0 := rfl

@[simp] theorem handlers_append (tickets later : List (Ticket η)) :
    handlers (tickets ++ later) = handlers tickets + handlers later := by
  rw [handlers, List.filterMap_append, ← Multiset.coe_add]
  rfl

theorem handlers_cons (ticket : Ticket η) (later : List (Ticket η)) :
    handlers (ticket :: later) = handlers [ticket] + handlers later :=
  handlers_append [ticket] later

end Ticket

namespace Event

/-- The handler that is submitted, if one is. -/
def given? : Event η → Option (RequestKey × η)
  | submitted key (some handler) => some (key, handler)
  | _ => none

/-- The handler that is called, if one is. -/
def fired? : Event η → Option (RequestKey × η)
  | completed completion => some (completion.key, completion.handler)
  | _ => none

/-- The handler that is handed back, if one is. -/
def handedBack? : Event η → Option (RequestKey × η)
  | cancelled key (some handler) => some (key, handler)
  | _ => none

/-- The handlers **submitted** in some events. -/
def given (events : List (Event η)) : Multiset (RequestKey × η) := events.filterMap given?

/-- The handlers **called** in some events. -/
def fired (events : List (Event η)) : Multiset (RequestKey × η) := events.filterMap fired?

/-- The handlers **handed back** in some events. -/
def handedBack (events : List (Event η)) : Multiset (RequestKey × η) :=
  events.filterMap handedBack?

@[simp] theorem given_append (events later : List (Event η)) :
    given (events ++ later) = given events + given later := by
  rw [given, List.filterMap_append, ← Multiset.coe_add]
  rfl

@[simp] theorem fired_append (events later : List (Event η)) :
    fired (events ++ later) = fired events + fired later := by
  rw [fired, List.filterMap_append, ← Multiset.coe_add]
  rfl

@[simp] theorem handedBack_append (events later : List (Event η)) :
    handedBack (events ++ later) = handedBack events + handedBack later := by
  rw [handedBack, List.filterMap_append, ← Multiset.coe_add]
  rfl

/-- Completions submit nothing. -/
@[simp] theorem given_completed (done : List (Completion η)) : given (done.map completed) = 0 := by
  have none : done.filterMap (given? ∘ completed) = [] :=
    List.filterMap_eq_nil_iff.mpr fun _ _ => rfl
  rw [given, List.filterMap_map, none]
  rfl

/-- Completions hand nothing back. -/
@[simp] theorem handedBack_completed (done : List (Completion η)) :
    handedBack (done.map completed) = 0 := by
  have none : done.filterMap (handedBack? ∘ completed) = [] :=
    List.filterMap_eq_nil_iff.mpr fun _ _ => rfl
  rw [handedBack, List.filterMap_map, none]
  rfl

end Event

/-- Whose handler a completion calls. -/
def Completion.caller (completion : Completion η) : RequestKey × η :=
  (completion.key, completion.handler)

/-- **Completions call their handlers.** -/
@[simp] theorem Event.fired_completed (done : List (Completion η)) :
    fired (done.map completed) = done.map Completion.caller := by
  have some : done.filterMap (fired? ∘ completed) = done.map Completion.caller :=
    congrFun List.filterMap_eq_map done
  rw [fired, List.filterMap_map, some]

open Event (given fired handedBack)

/-! ## Failing requests -/

/-- A request that fails calls its handler, **if it has one**. -/
theorem Ticket.callers_fail (ticket : Ticket η) (status : Status) :
    (ticket.fail status).map Completion.caller = handlers [ticket] := by
  obtain ⟨sequence, key, handler⟩ := ticket
  cases handler <;> rfl

/-- **Requests that fail** call all their handlers. -/
theorem Ticket.callers_flatMap_fail (tickets : List (Ticket η)) (status : Status) :
    (tickets.flatMap (fail · status)).map Completion.caller = handlers tickets := by
  induction tickets with
  | nil => rfl
  | cons ticket tickets ih =>
    rw [List.flatMap_cons, List.map_append, ← Multiset.coe_add, callers_fail, ih, ← handlers_append]
    rfl

/-- Submitting a request **gives its handler away**. -/
theorem Ticket.given_submitted (ticket : Ticket η) :
    given [.submitted ticket.key ticket.handler] = handlers [ticket] := by
  obtain ⟨sequence, key, handler⟩ := ticket
  cases handler <;> rfl

/-- Taking a request back **gives its handler back**. -/
theorem Ticket.handedBack_cancelled (ticket : Ticket η) :
    handedBack [.cancelled ticket.key ticket.handler] = handlers [ticket] := by
  obtain ⟨sequence, key, handler⟩ := ticket
  cases handler <;> rfl

/-! ## The balance -/

/-- **In a step no handler is lost, and none is made up.** -/
theorem Shift.balance {t t' : Transit η} {events : List (Event η)} (h : Shift t events t') :
    given events + Ticket.handlers t.tickets =
      fired events + handedBack events + Ticket.handlers t'.tickets := by
  -- what is given, called and handed back is read off the events of each case; the tickets that
  -- move from one list to the other cancel out
  unfold Transit.tickets
  cases h with
  | rest =>
    show 0 + _ = 0 + 0 + _
    abel
  | take ticket bytes =>
    show 0 + _ = 0 + 0 + _
    abel
  | refuse _ ticket status =>
    rw [← List.singleton_append, Event.given_append, Event.fired_append, Event.handedBack_append,
      Event.given_completed, Event.handedBack_completed, Event.fired_completed,
      ticket.given_submitted, ticket.callers_fail]
    show _ + 0 + _ = 0 + _ + (0 + 0) + _
    abel
  | @submit awaiting unsent request =>
    have gives : given [.submitted request.key request.handler, .queued request] =
      Ticket.handlers [request.ticket] := request.ticket.given_submitted
    rw [gives, Ticket.handlers_append, Ticket.handlers_append, Ticket.handlers_append]
    show _ = 0 + 0 + _
    abel
  | @withdraw awaiting before after ticket =>
    rw [ticket.handedBack_cancelled]
    simp only [Ticket.handlers_append, Ticket.handlers_cons ticket after]
    show 0 + _ = 0 + _ + _
    abel
  | @disown unsent before after ticket =>
    rw [ticket.handedBack_cancelled]
    simp only [Ticket.handlers_append, Ticket.handlers_cons ticket after]
    show 0 + _ = 0 + _ + _
    abel
  | @forget awaiting unsent ticket bytes none =>
    have nobody : Ticket.handlers [ticket] = 0 := by
      obtain ⟨sequence, key, _⟩ := ticket
      subst none
      rfl
    rw [Ticket.handlers_append, Ticket.handlers_append, Ticket.handlers_cons ticket, nobody]
    show 0 + _ = 0 + 0 + _
    abel
  | @track awaiting unsent request bytes fresh =>
    simp only [Ticket.handlers_append, Ticket.handlers_cons request.ticket unsent]
    show 0 + _ = 0 + 0 + _
    abel
  | @clash awaiting unsent request bytes taken =>
    rw [Ticket.handlers_append, Ticket.handlers_append, Ticket.handlers_cons request.ticket]
    show 0 + _ = Ticket.handlers [request.ticket] + 0 + _
    abel
  | @breakOut awaiting unsent ticket bytes status =>
    rw [← List.singleton_append, Event.given_append, Event.fired_append, Event.handedBack_append,
      Event.given_completed, Event.handedBack_completed, Event.fired_completed,
      Ticket.callers_flatMap_fail, Ticket.handlers_append, Ticket.handlers_append]
    show 0 + 0 + _ = 0 + _ + (0 + 0) + (_ + 0)
    abel
  | passOver _ outcome =>
    show 0 + _ = 0 + 0 + _
    abel
  | @complete unsent before after ticket outcome completion key_eq handler_eq =>
    have calls : fired [.received outcome, .completed completion] = Ticket.handlers [ticket] := by
      obtain ⟨sequence, key, _⟩ := ticket
      subst handler_eq
      show {(completion.key, completion.handler)} = _
      rw [key_eq]
      rfl
    rw [calls]
    simp only [Ticket.handlers_append, Ticket.handlers_cons ticket after]
    show 0 + _ = _ + 0 + _
    abel
  | @breakIn awaiting unsent outcome status =>
    rw [← List.singleton_append, Event.given_append, Event.fired_append, Event.handedBack_append,
      Event.given_completed, Event.handedBack_completed, Event.fired_completed,
      Ticket.callers_flatMap_fail, Ticket.handlers_append, Ticket.handlers_append]
    show 0 + 0 + _ = 0 + _ + (0 + 0) + (0 + _)
    abel

variable [Channel σ]

/-- **At any moment** the handlers submitted so far are those called, those handed back and those
that requests hold. -/
theorem Path.balance {m m' : Multiplexer σ η} {events : List (Event η)} (h : Path m events m') :
    given events + Ticket.handlers m.transit.tickets =
      fired events + handedBack events + Ticket.handlers m'.transit.tickets := by
  induction h with
  | done m =>
    show 0 + _ = 0 + 0 + _
    abel
  | @step m m₁ m₂ events later move path ih =>
    rw [Event.given_append, Event.fired_append, Event.handedBack_append]
    -- a handler that is given away in the first step is held in between
    calc given events + given later + Ticket.handlers m.transit.tickets
        = given later + (given events + Ticket.handlers m.transit.tickets) := by abel
      _ = fired events + handedBack events +
            (given later + Ticket.handlers m₁.transit.tickets) := by
          rw [move.shift.balance]
          abel
      _ = fired events + fired later + (handedBack events + handedBack later) +
            Ticket.handlers m₂.transit.tickets := by
          rw [ih]
          abel

end DriveLink
