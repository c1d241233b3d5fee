import DriveLink.Proofs.Pipeline.Ledger
import DriveLink.Proofs.Pipeline.Order

/-! # Every handler is called once

The balance of handlers says that none is lost, and since no two requests have the same key, none is
called twice either. At the end of a connection nobody holds a handler any more: then each of them
has been called, unless its request was taken back.

* `Multiplexer.held` — the handlers that a connection holds, in three places;
* `Lived.fired_ended` — the end calls every handler that is held;
* `settled_live` — then each of them has been called or handed back;
* `handler_called_once` — each handler is called once, or its request was taken back. -/

namespace DriveLink

variable {σ η : Type}

open Event (given fired handedBack)

/-! ## Who is called -/

/-- The handlers that are called are those of the **completions**. -/
theorem Event.fired_eq (events : List (Event η)) :
    fired events = (completions events).map Completion.caller := by
  rw [fired, completions, List.map_filterMap]
  refine congrArg _ (congrFun (congrArg _ (funext fun event => ?_)) events)
  cases event <;> rfl

/-- The handlers submitted are those of the **requests submitted**. -/
theorem Event.given_eq (events : List (Event η)) :
    given events = (submissions events).filterMap fun submission =>
      submission.2.map (submission.1, ·) := by
  rw [given, submissions, List.filterMap_filterMap]
  refine congrArg _ (congrFun (congrArg _ (funext fun event => ?_)) events)
  cases event with
  | submitted key handler => cases handler <;> rfl
  | _ => rfl

/-- The end of a connection calls **every handler that is held**. -/
theorem Lived.fired_ended (lived : Lived σ η) :
    fired lived.ended = fired lived.events + Ticket.handlers lived.service.transit.tickets := by
  rw [Lived.ended, Event.fired_append, Event.fired_completed, Multiplexer.shutDown_eq,
    Ticket.callers_flatMap_fail, Transit.tickets, Ticket.handlers_append, Ticket.handlers_append]
  abel

/-! ## Whose handler is handed back -/

/-- The request that is taken back, if one is. -/
def Event.cancellation? : Event η → Option (RequestKey × Option η)
  | cancelled key handler => some (key, handler)
  | _ => none

/-- The requests **taken back** in some events, by key, with their handlers. -/
def Event.cancellations (events : List (Event η)) : List (RequestKey × Option η) :=
  events.filterMap cancellation?

theorem Event.cancellations_cons_completed {event : Event η} (none : event.cancellation? = none)
    (done : List (Completion η)) : cancellations (event :: done.map completed) = [] :=
  filterMap_cons_completed none (fun _ => rfl) done

theorem Event.mem_cancellations {events : List (Event η)} {key : RequestKey} {handler : Option η} :
    (key, handler) ∈ cancellations events ↔ .cancelled key handler ∈ events :=
  mem_filterMap_iff fun other => by cases other <;> simp [cancellation?]

/-- The handlers handed back are those of the **requests taken back**. -/
theorem Event.handedBack_eq (events : List (Event η)) :
    handedBack events = (cancellations events).filterMap fun cancellation =>
      cancellation.2.map (cancellation.1, ·) := by
  rw [handedBack, cancellations, List.filterMap_filterMap]
  refine congrArg _ (congrFun (congrArg _ (funext fun event => ?_)) events)
  cases event with
  | cancelled key handler => cases handler <;> rfl
  | _ => rfl

/-- Only a request **on its way** is taken back. -/
theorem Shift.cancellations_subset {t t' : Transit η} {events : List (Event η)}
    (h : Shift t events t') : ∀ cancellation ∈ Event.cancellations events,
      cancellation ∈ t.tickets.map fun ticket => (ticket.key, ticket.handler) := by
  intro cancellation mem
  cases h with
  | @withdraw awaiting before after ticket =>
    rw [List.mem_singleton.mp mem]
    exact List.mem_map_of_mem (by simp [Transit.tickets])
  | @disown unsent before after ticket =>
    rw [List.mem_singleton.mp mem]
    exact List.mem_map_of_mem (by simp [Transit.tickets])
  | refuse _ ticket status =>
    rw [Event.cancellations_cons_completed rfl] at mem
    exact absurd mem List.not_mem_nil
  | breakOut ticket bytes status =>
    rw [Event.cancellations_cons_completed rfl] at mem
    exact absurd mem List.not_mem_nil
  | breakIn outcome status =>
    rw [Event.cancellations_cons_completed rfl] at mem
    exact absurd mem List.not_mem_nil
  | _ => exact absurd mem List.not_mem_nil

variable [Channel σ]

/-- A request that is taken back **was submitted**, with the same handler. -/
theorem Path.cancellations_subset {m m' : Multiplexer σ η} {events : List (Event η)}
    (h : Path m events m') (fresh : m.Fresh) :
    ∀ cancellation ∈ Event.cancellations events, cancellation ∈ Event.submissions events := by
  refine h.invariant (fun past _ => ∀ cancellation ∈ Event.cancellations past,
    cancellation ∈ Event.submissions past) (fun _ mem => absurd mem List.not_mem_nil) ?_
  intro past m₁ events m₂ so_far known move cancellation mem
  rw [Event.submissions_append]
  rw [Event.cancellations, List.filterMap_append] at mem
  rcases List.mem_append.mp mem with mem | mem
  · exact List.mem_append_left _ (known cancellation mem)
  · obtain ⟨ticket, on_way, rfl⟩ := List.mem_map.mp (move.shift.cancellations_subset _ mem)
    have queued := so_far.tickets_sublist.subset on_way
    rw [fresh.tickets, List.nil_append] at queued
    have submitted := so_far.submissions_sublist.subset (List.mem_map_of_mem queued)
    exact List.mem_append_left _ submitted

/-! ## Keys tell requests apart -/

omit [Channel σ] in
/-- **No key is given out twice.** -/
theorem Numbered.nodup_keys {past : List (Event η)} {m : Multiplexer σ η} (h : Numbered past m) :
    ((Event.submissions past).map Prod.fst).Nodup := by
  have nodup := List.nodup_range (n := (Event.submissions past).length)
  rw [← h.keys] at nodup
  refine List.Nodup.of_map UInt64.toNat ?_
  rwa [List.map_map]

omit [Channel σ] in
theorem sublist_keys (requests : List (RequestKey × Option η)) :
    ((requests.filterMap fun request => request.2.map (request.1, ·)).map Prod.fst).Sublist
      (requests.map Prod.fst) := by
  induction requests with
  | nil => exact List.Sublist.refl _
  | cons request requests ih =>
    obtain ⟨key, handler⟩ := request
    cases handler with
    | none => exact ih.cons key
    | some handler => exact ih.cons_cons key

omit [Channel σ] in
/-- No two handlers are submitted under **one key**. -/
theorem Numbered.nodup_given {past : List (Event η)} {m : Multiplexer σ η} (h : Numbered past m) :
    ((given past).map Prod.fst).Nodup := by
  rw [Event.given_eq, Multiset.map_coe, Multiset.coe_nodup]
  exact h.nodup_keys.sublist (sublist_keys _)

omit [Channel σ] in
/-- Among completions with different keys there is **one with a key** if there is any. -/
theorem filter_key_eq_singleton {done : List (Completion η)}
    (nodup : (done.map Completion.key).Nodup) {completion : Completion η}
    (mem : completion ∈ done) :
    done.filter (·.key = completion.key) = [completion] := by
  obtain ⟨before, after, rfl⟩ := List.append_of_mem mem
  rw [List.map_append, List.map_cons, List.nodup_middle, List.nodup_cons] at nodup
  have others : ∀ c ∈ before ++ after, ¬ decide (c.key = completion.key) = true := by
    intro c inside same
    refine nodup.1 ?_
    rw [← List.map_append, ← of_decide_eq_true same]
    exact List.mem_map_of_mem inside
  rw [List.filter_append, List.filter_cons, if_pos (decide_eq_true rfl),
    List.filter_eq_nil_iff.mpr fun c inside => others c (List.mem_append_left _ inside),
    List.filter_eq_nil_iff.mpr fun c inside => others c (List.mem_append_right _ inside)]
  rfl

/-! ## Once -/

omit [Channel σ] in
/-- **The handler of a request is called once**, if all handlers are either called or handed back
and no two of them have the same key. -/
theorem once_of_settled {events ended : List (Event η)}
    (settled : given events = fired ended + handedBack events)
    (nodup : ((given events).map Prod.fst).Nodup) {key : RequestKey} {handler : η}
    (mem : (key, handler) ∈ given events) :
    ((key, handler) ∈ handedBack events →
      ∀ completion ∈ Event.completions ended, completion.key ≠ key) ∧
    ((key, handler) ∉ handedBack events → ∃ outcome,
      (Event.completions ended).filter (·.key = key) = [⟨key, handler, outcome⟩]) := by
  rw [settled, Multiset.map_add, Multiset.nodup_add] at nodup
  -- no handler is called twice, and none that is called is handed back
  obtain ⟨called, -, apart⟩ := nodup
  rw [Event.fired_eq, Multiset.map_coe, List.map_map] at called apart
  constructor
  · intro back completion inside same
    refine Multiset.disjoint_left.mp apart ?_ (Multiset.mem_map_of_mem Prod.fst back)
    rw [← same]
    exact Multiset.mem_coe.mpr (List.mem_map_of_mem inside)
  · intro away
    rw [settled, Multiset.mem_add, Event.fired_eq, Multiset.mem_coe] at mem
    obtain ⟨⟨_, _, outcome⟩, inside, same⟩ := List.mem_map.mp (mem.resolve_right away)
    cases same
    exact ⟨outcome, filter_key_eq_singleton (Multiset.coe_nodup.mp called) inside⟩

/-- At the end of a connection, all handlers submitted have been **called or handed back**. -/
theorem settled_live {m : Multiplexer σ η} (fresh : m.Fresh) (turns : List (Turn σ η)) :
    given (m.live turns).events =
      fired (m.live turns).ended + handedBack (m.live turns).events := by
  have balance := (path_live m turns).balance
  rw [fresh.tickets, Ticket.handlers_nil, add_zero] at balance
  rw [balance, Lived.fired_ended]
  abel

/-- The handlers that a connection **holds**: those of queued requests, of the request that is being
written, and of requests that wait for their answers. -/
def Multiplexer.held (m : Multiplexer σ η) : Multiset (RequestKey × η) :=
  Ticket.handlers (m.outbox.queue.map QueuedRequest.ticket) +
    Ticket.handlers (m.outbox.current.toList.map InFlight.ticket) +
    Ticket.handlers (m.inbox.correlator.outstanding.entries.map OutstandingRequest.ticket)

omit [Channel σ] in
theorem Multiplexer.held_eq (m : Multiplexer σ η) :
    m.held = Ticket.handlers m.transit.tickets := by
  rw [Transit.tickets, transit, Outbox.unsent, Outstanding.tickets, Ticket.handlers_append,
    Ticket.handlers_append, held]
  abel

/-- **Every handler is called once.** In the life of a connection that was started, with fewer
submissions than there are sequences, at any moment the handlers submitted are those called, those
handed back and those held, each held in just one of three places. And with the end of the
connection each has been called just once, unless its request was taken back; then it never is. -/
theorem handler_called_once [Pollable σ] {patience : Nat} {signer : Signer} {options : Options}
    {s : σ} {m : Multiplexer σ η}
    (started : Multiplexer.start patience signer options s = some (.ok m))
    (turns : List (Turn σ η)) (few : (Turn.submitted turns).length < 2 ^ 63) :
    let lived := m.live turns
    (Event.submissions lived.events).map Prod.snd = Turn.submitted turns ∧
      given lived.events =
        fired lived.events + handedBack lived.events + lived.service.held ∧
      (lived.service.held.map Prod.fst).Nodup ∧
      ∀ key handler, (key, some handler) ∈ Event.submissions lived.events →
        ((∃ taken, .cancelled key taken ∈ lived.events) →
          ∀ completion ∈ Event.completions lived.ended, completion.key ≠ key) ∧
        ((¬ ∃ taken, .cancelled key taken ∈ lived.events) →
          ∃ outcome, (Event.completions lived.ended).filter (·.key = key) =
            [⟨key, handler, outcome⟩]) := by
  intro lived
  have fresh := Multiplexer.fresh_of_start started
  have path : Path m lived.events lived.service := path_live m turns
  have submitted : (Event.submissions lived.events).map Prod.snd = Turn.submitted turns :=
    submissions_live m turns
  have numbered : Numbered lived.events lived.service := numbered_live fresh turns few
  have balance : given lived.events =
      fired lived.events + handedBack lived.events + lived.service.held := by
    have balance := path.balance
    rwa [fresh.tickets, Ticket.handlers_nil, add_zero, ← Multiplexer.held_eq] at balance
  -- the end calls whoever is still held, so that nobody is held any more
  have settled : given lived.events = fired lived.ended + handedBack lived.events := by
    rw [balance, lived.fired_ended, ← Multiplexer.held_eq]
    abel
  have nodup := numbered.nodup_given
  refine ⟨submitted, balance, ?_, fun key handler mem => ?_⟩
  · rw [balance, Multiset.map_add, Multiset.nodup_add] at nodup
    exact nodup.2.1
  · have gives : (key, handler) ∈ given lived.events := by
      rw [Event.given_eq]
      exact Multiset.mem_coe.mpr (List.mem_filterMap.mpr ⟨_, mem, rfl⟩)
    obtain ⟨back, away⟩ := once_of_settled settled nodup gives
    constructor
    · rintro ⟨taken, cancelled⟩
      have known := Event.mem_cancellations.mpr cancelled
      -- the request taken back is this one, since no other has its key
      have same := List.inj_on_of_nodup_map numbered.nodup_keys mem
        (path.cancellations_subset fresh _ known) rfl
      rw [← same] at known
      refine back ?_
      rw [Event.handedBack_eq]
      exact Multiset.mem_coe.mpr (List.mem_filterMap.mpr ⟨_, known, rfl⟩)
    · intro kept
      refine away fun given_back => kept ?_
      rw [Event.handedBack_eq, Multiset.mem_coe] at given_back
      obtain ⟨⟨_, taken⟩, known, same⟩ := List.mem_filterMap.mp given_back
      cases taken with
      | none => cases same
      | some handler =>
        cases same
        exact ⟨_, Event.mem_cancellations.mp known⟩

/-! ## A drive that says hello and nothing else -/

section Quiet

open Simulation (Drive)

def quietDrive : Drive := { key := [1], queue := [.bytes hello] }

/-- Two requests, of which the second is taken back and the first is written. -/
def quietTurns : List (Turn Drive Nat) :=
  [.submit (.withPin [1]) {} [] (some 10), .submit (.withPin [1]) {} [] (some 20), .remove 1, .run]

/-- The handler of the first request **is called** at the end, and that of the second never is. -/
theorem handler_called_once_quiet :
    ∃ m : Multiplexer Drive Nat,
      Multiplexer.start 2 (.constant [7]) { hmacKey := [1] } quietDrive = some (.ok m) ∧
      (Turn.submitted quietTurns).length < 2 ^ 63 ∧
      (∃ outcome,
        (Event.completions (m.live quietTurns).ended).filter (·.key = 0) = [⟨0, 10, outcome⟩]) ∧
      ∀ completion ∈ Event.completions (m.live quietTurns).ended, completion.key ≠ 1 := by
  have check : ((Multiplexer.start 2 (.constant [7]) { hmacKey := [1] } quietDrive :
      Option (Except Failure (Multiplexer Drive Nat))).any fun started =>
      started.toOption.any fun m =>
        decide (Event.submissions (m.live quietTurns).events = [(0, some 10), (1, some 20)] ∧
          Event.cancellations (m.live quietTurns).events = [(1, some 20)])) = true := by
    decide +kernel
  obtain ⟨m, started, check⟩ := exists_started check
  obtain ⟨submitted, cancelled⟩ := of_decide_eq_true check
  have few : (Turn.submitted quietTurns).length < 2 ^ 63 := by decide
  obtain ⟨-, -, -, once⟩ := handler_called_once started quietTurns few
  refine ⟨m, started, few, ?_, ?_⟩
  · refine (once 0 10 (by rw [submitted]; decide)).2 ?_
    rintro ⟨taken, mem⟩
    have known := Event.mem_cancellations.mpr mem
    rw [cancelled] at known
    cases List.mem_singleton.mp known
  · refine (once 1 20 (by rw [submitted]; decide)).1 ⟨some 20, ?_⟩
    rw [← Event.mem_cancellations, cancelled]
    exact List.mem_singleton_self _

end Quiet

end DriveLink
