import DriveLink.Proofs.Pipeline.Delivery

/-! # The names of the requests on their way

Requests wait in three places: until their turn, while they are written, and until their answers.
Whatever the owner and the channel do, the numbers of those in one place are less than the numbers
of those in the next, all of them have been given out, and no two of them have the same key. So a
request whose frame is out finds its names free, and no request ever fails for them.

* `Multiplexer.InOrder` — the names in the three places;
* `Path.inOrder` — they are in order on every path with few submissions;
* `Move.internal_cases` — what the client blames itself for;
* `names_in_order` — names in the life of a connection, and what follows from them. -/

namespace DriveLink

variable {σ η : Type}

/-! ## Three places -/

/-- **The names of the requests on their way are in order.** -/
structure Multiplexer.InOrder (m : Multiplexer σ η) : Prop where
  awaiting_lt_current : ∀ waiting ∈ m.inbox.correlator.outstanding.entries,
    ∀ writing ∈ m.outbox.current, waiting.sequence < writing.sequence
  current_lt_queue : ∀ writing ∈ m.outbox.current, ∀ next ∈ m.outbox.queue,
    writing.sequence < next.sequence
  awaiting_lt_queue : ∀ waiting ∈ m.inbox.correlator.outstanding.entries,
    ∀ next ∈ m.outbox.queue, waiting.sequence < next.sequence
  queue_rising : m.outbox.queue.Pairwise fun next later => next.sequence < later.sequence
  sequence_bounds : ∀ ticket ∈ m.transit.tickets,
    0 ≤ ticket.sequence ∧ ticket.sequence < m.outbox.nextSequence
  keys_nodup : (m.transit.tickets.map Ticket.key).Nodup
  key_bounds : ∀ ticket ∈ m.transit.tickets, ticket.key < m.nextKey ∧ ticket.key ≠ greetingKey

namespace Multiplexer

theorem ticket_mem_of_current {m : Multiplexer σ η} {request : InFlight η}
    (current : m.outbox.current = some request) : request.ticket ∈ m.transit.tickets := by
  refine List.mem_append_right _ (List.mem_append_left _ ?_)
  rw [current]
  exact List.mem_singleton_self _

/-- If requests stand on their way **by their names**, their names are in order. -/
theorem inOrder_of_rising {m : Multiplexer σ η}
    (rising : m.transit.tickets.Pairwise fun t u => t.sequence < u.sequence ∧ t.key < u.key)
    (bounded : ∀ t ∈ m.transit.tickets, 0 ≤ t.sequence ∧ t.sequence < m.outbox.nextSequence ∧
      t.key < m.nextKey) : m.InOrder := by
  have apart : m.transit.tickets.Pairwise fun t u => t.key ≠ u.key :=
    rising.imp fun lt same => by
      rw [same] at lt
      exact UInt64.lt_irrefl _ lt.2
  -- the three places, one behind the other
  simp only [Transit.tickets, transit, Outbox.unsent, Outstanding.tickets, List.pairwise_append,
    List.pairwise_map, List.mem_append, List.mem_map, Option.mem_toList] at rising
  obtain ⟨-, ⟨-, queue, unsent⟩, awaiting⟩ := rising
  constructor
  · intro waiting mem writing current
    exact (awaiting _ ⟨waiting, mem, rfl⟩ _ (.inl ⟨writing, current, rfl⟩)).1
  · intro writing current next mem
    exact (unsent _ ⟨writing, current, rfl⟩ _ ⟨next, mem, rfl⟩).1
  · intro waiting mem next inside
    exact (awaiting _ ⟨waiting, mem, rfl⟩ _ (.inr ⟨next, inside, rfl⟩)).1
  · exact queue.imp fun lt => lt.1
  · intro t mem
    obtain ⟨nonneg, lt, -⟩ := bounded t mem
    exact ⟨nonneg, lt⟩
  · exact List.pairwise_map.mpr apart
  · intro t mem
    obtain ⟨-, -, lt⟩ := bounded t mem
    refine ⟨lt, fun greeting => ?_⟩
    -- no key is greater than that of the greeting
    have := m.nextKey.toNat_lt
    rw [greeting, UInt64.lt_iff_toNat_lt] at lt
    have : greetingKey.toNat = 2 ^ 64 - 1 := rfl
    omega

/-- The names of the request that is being written **are free**. -/
theorem InOrder.names_free {m : Multiplexer σ η} (h : m.InOrder) {request : InFlight η}
    (current : m.outbox.current = some request) {entry : OutstandingRequest η}
    (mem : entry ∈ m.inbox.correlator.outstanding.entries) :
    entry.sequence ≠ request.sequence ∧ entry.key ≠ request.key := by
  constructor
  · intro same
    have lt := h.awaiting_lt_current entry mem request current
    rw [same] at lt
    exact Int64.lt_irrefl lt
  · have nodup := h.keys_nodup
    rw [Transit.tickets, List.map_append, List.nodup_append] at nodup
    refine nodup.2.2 _ (List.mem_map_of_mem (List.mem_map_of_mem mem)) _ ?_
    rw [transit, Outbox.unsent, current]
    exact List.mem_cons_self ..

end Multiplexer

variable [Channel σ]

/-- **Names are in order** on every path with few submissions. -/
theorem Path.inOrder {m m' : Multiplexer σ η} {events : List (Event η)} (h : Path m events m')
    (fresh : m.Fresh) (few : (Event.submissions events).length < 2 ^ 63) : m'.InOrder := by
  have numbered := h.numbered fresh.numbered few
  have queued := h.tickets_sublist
  rw [fresh.tickets, List.nil_append] at queued
  refine Multiplexer.inOrder_of_rising ?_ ?_
  · refine (numbered.rising.sublist queued).imp ?_
    rintro t u ⟨sequence_lt, key_lt⟩
    exact ⟨Int64.lt_iff_toInt_lt.mpr sequence_lt, UInt64.lt_iff_toNat_lt.mpr key_lt⟩
  · intro t mem
    obtain ⟨nonneg, sequence_lt, key_lt⟩ := numbered.bounded t (queued.subset mem)
    exact ⟨Int64.le_iff_toInt_le.mpr nonneg, Int64.lt_iff_toInt_lt.mpr sequence_lt,
      UInt64.lt_iff_toNat_lt.mpr key_lt⟩

/-- Everything happens in some step, and **in one from names in order**. -/
theorem Path.exists_move_inOrder {m m' : Multiplexer σ η} {before after : List (Event η)}
    {event : Event η} (h : Path m (before ++ event :: after) m') (fresh : m.Fresh)
    (few : (Event.submissions (before ++ event :: after)).length < 2 ^ 63) :
    ∃ past m₁ sooner later m₂ rest, Path m past m₁ ∧ m₁.InOrder ∧
      Move m₁ (sooner ++ event :: later) m₂ ∧ before = past ++ sooner ∧ after = later ++ rest := by
  obtain ⟨past, m₁, sooner, later, m₂, rest, so_far, move, -, rfl, rfl⟩ := h.exists_move rfl
  refine ⟨past, m₁, sooner, later, m₂, rest, so_far, so_far.inOrder fresh ?_, move, rfl, rfl⟩
  rw [List.append_assoc, Event.submissions_append, List.length_append] at few
  omega

/-! ## Requests that are out -/

/-- A request comes to be out **in one step only**, and what becomes of it then stands behind. -/
theorem Move.of_sent {m m' : Multiplexer σ η} {sooner later : List (Event η)} {sequence : Int64}
    (h : Move m (sooner ++ .sent sequence :: later) m') :
    ∃ request, m.outbox.current = some request ∧ request.sequence = sequence ∧
      later = (Outbox.release request m.inbox).1 := by
  have mem : .sent sequence ∈ sooner ++ .sent sequence :: later :=
    List.mem_append_right _ (List.mem_cons_self ..)
  generalize step_eq : sooner ++ .sent sequence :: later = step at h mem
  cases h with
  | @release request writer channel working current write =>
    refine ⟨request, current, ?_⟩
    have others : .sent sequence ∉ (Outbox.release request m.inbox).1 := by
      have releases := Outbox.releases_release request m.inbox
      generalize Outbox.release request m.inbox = released at releases ⊢
      cases releases <;> simp
    rcases sooner with _ | ⟨first, _ | ⟨second, sooner⟩⟩
    · cases step_eq
    · cases step_eq
      exact ⟨rfl, rfl⟩
    · -- whatever stands behind is not about being out
      simp only [List.cons_append, List.cons.injEq] at step_eq
      refine absurd ?_ others
      rw [← step_eq.2.2]
      exact List.mem_append_right _ (List.mem_cons_self ..)
  | _ => simp at mem

omit [Channel σ] in
/-- Where names are in order, a request that is out **waits for its answer at once**, if it has a
handler. -/
theorem Multiplexer.InOrder.release_eq {m : Multiplexer σ η} (h : m.InOrder)
    {request : InFlight η} (current : m.outbox.current = some request) {handler : η}
    (some : request.handler = some handler) :
    (Outbox.release request m.inbox).1 = [.tracked ⟨request.sequence, request.key, handler⟩] := by
  have releases := Outbox.releases_release request m.inbox
  generalize Outbox.release request m.inbox = released at releases ⊢
  cases releases with
  | unasked none =>
    rw [none] at some
    cases some
  | tracked same fresh =>
    rw [same] at some
    cases some
    rfl
  | refused same taken =>
    obtain ⟨entry, mem, taken⟩ := taken
    obtain ⟨sequence_ne, key_ne⟩ := h.names_free current mem
    exact absurd taken (not_or.mpr ⟨sequence_ne, key_ne⟩)

/-! ## What the client blames itself for -/

/-- Whether a request failed for something that the client **blames itself** for. -/
def Outcome.isInternal : Outcome → Bool
  | failed status _ => status.code = .client .internalError
  | answered _ _ => false

/-- What the drive reports is **no fault of the client**. -/
theorem Status.code_ofResponse_ne (response : Command) (fault : ClientFault) :
    (ofResponse response).code ≠ .client fault := by
  unfold ofResponse
  split
  · exact nofun
  · rename_i block block_eq
    have drive : (ofBlock block).code ≠ .client fault := by
      rw [ofBlock]
      cases block.code <;> exact nofun
    simp only
    split
    · exact nofun
    · exact drive

namespace Correlator

theorem outcome_of_failAll {c : Correlator η} {status : Status} {completion : Completion η}
    (mem : completion ∈ (c.failAll status).1) : completion.outcome = .failed status none := by
  obtain ⟨request, -, rfl⟩ := List.mem_map.mp mem
  rfl

theorem isInternal_answer (request : OutstandingRequest η) (response : Command) (value : Bytes) :
    (Completion.answer request.key request.handler response value).outcome.isInternal = false := by
  rw [Completion.answer]
  split
  · rfl
  · exact decide_eq_false (Status.code_ofResponse_ne response _)

theorem isInternal_dispatch {c : Correlator η} {frame : Frame} {completion : Completion η}
    (mem : completion ∈ (c.dispatch frame).completions) :
    completion.outcome.isInternal = false := by
  cases opened : c.openResponse frame.command with
  | error fault =>
    rw [dispatch, opened] at mem
    rw [outcome_of_failAll mem]
    cases fault <;> rfl
  | ok response =>
    obtain ⟨envelope, command⟩ := response
    cases answers : answeredSequence envelope command with
    | none =>
      rw [dispatch, opened] at mem
      simp only [answers] at mem
      rw [outcome_of_failAll mem]
      rfl
    | some sequence =>
      rw [dispatch_of_opened opened answers] at mem
      cases removed : c.outstanding.removeBySequence sequence with
      | none =>
        rw [removed] at mem
        exact absurd mem List.not_mem_nil
      | some taken =>
        rw [removed] at mem
        rw [List.mem_singleton.mp mem]
        exact isInternal_answer _ _ _

theorem isInternal_dispatchTooLarge {c : Correlator η} {bytes : Option Bytes}
    {completion : Completion η} (mem : completion ∈ (c.dispatchTooLarge bytes).completions) :
    completion.outcome.isInternal = false := by
  unfold dispatchTooLarge at mem
  split at mem
  · rw [outcome_of_failAll mem]
    rfl
  · split at mem
    · exact absurd mem List.not_mem_nil
    · rw [List.mem_singleton.mp mem]
      rfl

/-- Of what **the end of a frame** does, nothing is the client's own fault. -/
theorem isInternal_accept {c : Correlator η} {outcome : ReadOutcome} {completion : Completion η}
    (mem : completion ∈ (c.accept outcome).completions) :
    completion.outcome.isInternal = false := by
  cases outcome with
  | frame frame => exact isInternal_dispatch mem
  | tooLarge bytes commandLength valueLength => exact isInternal_dispatchTooLarge mem
  | pending => exact absurd mem List.not_mem_nil
  | failed error => exact absurd mem List.not_mem_nil

end Correlator

/-- A request that is not made fails because the outbox is dead, or **with the reason why it has no
frame**. -/
theorem Outbox.status_of_prepare {outbox : Outbox η} {envelope : Envelope} {command : Command}
    {value : Bytes} {handler : Option η} {key : RequestKey} {connectionId : Option Int64}
    {status : Status}
    (h : outbox.prepare envelope command value handler key connectionId = .error status) :
    status = .client .shutdown "sender has failed" ∨
      ∃ reason, status = .client .internalError ("failed to build request frame: " ++ reason) := by
  unfold prepare at h
  simp only at h
  split at h
  · cases h
    exact .inl rfl
  · split at h
    · cases h
    · rename_i failure framed
      cases h
      exact .inr ⟨failure.message, rfl⟩

/-- **What the client blames itself for**: a request that no frame could be made of, and one whose
names are taken when its frame is out. -/
theorem Move.internal_cases {m m' : Multiplexer σ η} {events : List (Event η)}
    {completion : Completion η} (h : Move m events m') (mem : .completed completion ∈ events)
    (internal : completion.outcome.isInternal = true) :
    (∃ reason, completion.outcome =
      .failed (.client .internalError ("failed to build request frame: " ++ reason)) none) ∨
    ∃ request entry, m.outbox.current = some request ∧
      entry ∈ m.inbox.correlator.outstanding.entries ∧
      (entry.sequence = request.sequence ∨ entry.key = request.key) := by
  have not_internal {status : Status} (outcome_eq : completion.outcome = .failed status none)
      (other : status.code ≠ .client .internalError) : False := by
    rw [outcome_eq] at internal
    exact other (of_decide_eq_true internal)
  cases h with
  | reject dead handler =>
    have outcome_eq := Completion.outcome_of_failIfAny (Event.mem_of_completed_mem rfl mem)
    exact (not_internal outcome_eq nofun).elim
  | misfit alive prepared =>
    have outcome_eq := Completion.outcome_of_failIfAny (Event.mem_of_completed_mem rfl mem)
    rcases Outbox.status_of_prepare prepared with rfl | ⟨reason, rfl⟩
    · exact (not_internal outcome_eq nofun).elim
    · exact .inl ⟨reason, outcome_eq⟩
  | @release request writer channel working current write =>
    have releases := Outbox.releases_release request m.inbox
    generalize Outbox.release request m.inbox = released at releases mem
    cases releases with
    | unasked none => simp at mem
    | tracked some fresh => simp at mem
    | refused some taken =>
      obtain ⟨entry, inside, same⟩ := taken
      exact .inr ⟨request, entry, current, inside, same⟩
  | breakOut working current write =>
    have inside := Event.mem_of_completed_mem rfl mem
    rw [Outbox.failures_eq] at inside
    exact (not_internal (Ticket.outcome_of_fail inside) nofun).elim
  | accept working read ends =>
    have external := Correlator.isInternal_accept (Event.mem_of_completed_mem rfl mem)
    rw [external] at internal
    cases internal
  | breakIn working read all =>
    cases all
    have outcome_eq := Correlator.outcome_of_failAll (Event.mem_of_completed_mem rfl mem)
    exact (not_internal outcome_eq nofun).elim
  | _ => simp at mem

/-- Where names are in order, **only frames that cannot be made** are the client's own fault. -/
theorem Multiplexer.InOrder.internal_cases {m m' : Multiplexer σ η} (h : m.InOrder)
    {events : List (Event η)} {completion : Completion η} (move : Move m events m')
    (mem : .completed completion ∈ events) (internal : completion.outcome.isInternal = true) :
    ∃ reason, completion.outcome =
      .failed (.client .internalError ("failed to build request frame: " ++ reason)) none := by
  rcases move.internal_cases mem internal with unmade | ⟨request, entry, current, inside, taken⟩
  · exact unmade
  · obtain ⟨sequence_ne, key_ne⟩ := h.names_free current inside
    exact absurd taken (not_or.mpr ⟨sequence_ne, key_ne⟩)

omit [Channel σ] in
/-- What the client blames itself for says **why there was no frame**, and nothing of names. -/
theorem reason_ne_untracked (reason : String) :
    "failed to build request frame: " ++ reason ≠ "could not track response for request" := by
  intro same
  have first := congrArg (fun text : String => text.toList.head?) same
  simp at first

/-! ## Lives -/

/-- **Names are in order.** In the life of a connection that was started, with fewer submissions
than there are sequences, the requests that wait for their answers have lesser numbers than the one
that is being written, that one has a lesser number than those that wait for their turn, these rise
from the next one on, and all are among the numbers given out; and no two requests in the three
places have the same key, nor does one have the key of the greeting. So a request with a handler
waits for its answer as soon as it is out, and none ever fails because that cannot be told. -/
theorem names_in_order [Pollable σ] {patience : Nat} {signer : Signer} {options : Options}
    {s : σ} {m : Multiplexer σ η}
    (started : Multiplexer.start patience signer options s = some (.ok m))
    (turns : List (Turn σ η)) (few : (Turn.submitted turns).length < 2 ^ 63) :
    let lived := m.live turns
    lived.service.InOrder ∧
    (∀ before after sequence, lived.events = before ++ .sent sequence :: after →
      ∃ request, .queued request ∈ before ∧ request.sequence = sequence ∧
        ∀ handler, request.handler = some handler →
          ∃ rest, after = .tracked ⟨sequence, request.key, handler⟩ :: rest) ∧
    ∀ completion ∈ Event.completions lived.ended, ∀ response, completion.outcome ≠
      .failed (.client .internalError "could not track response for request") response := by
  intro lived
  have fresh := Multiplexer.fresh_of_start started
  have path : Path m lived.events lived.service := path_live m turns
  have few : (Event.submissions lived.events).length < 2 ^ 63 := by
    rwa [length_submissions_live]
  refine ⟨path.inOrder fresh few, ?_, ?_⟩
  · intro before after sequence events_eq
    rw [events_eq] at path few
    obtain ⟨past, m₁, sooner, later, m₂, rest, so_far, order, move, rfl, rfl⟩ :=
      path.exists_move_inOrder fresh few
    obtain ⟨writing, current, rfl, rfl⟩ := move.of_sent
    -- the request that is being written has been queued
    have queued := so_far.tickets_sublist.subset (Multiplexer.ticket_mem_of_current current)
    rw [fresh.tickets, List.nil_append, Event.tickets, List.mem_filterMap] at queued
    obtain ⟨event, mem, same⟩ := queued
    cases event with
    | queued request =>
      have ticket_eq : request.ticket = writing.ticket := Option.some.inj same
      refine ⟨request, List.mem_append_left _ mem, congrArg Ticket.sequence ticket_eq, ?_⟩
      intro handler asked
      have key_eq : request.key = writing.key := congrArg Ticket.key ticket_eq
      have handler_eq : request.handler = writing.handler := congrArg Ticket.handler ticket_eq
      rw [order.release_eq current (handler_eq ▸ asked), key_eq]
      exact ⟨rest, rfl⟩
    | _ => cases same
  · intro completion mem response untracked
    rw [Lived.ended, Event.completions_append, Event.completions_map_completed] at mem
    rcases List.mem_append.mp mem with mem | mem
    · obtain ⟨before, after, events_eq⟩ := List.append_of_mem (Event.mem_completions.mp mem)
      rw [events_eq] at path few
      obtain ⟨past, m₁, sooner, later, m₂, rest, -, order, move, -, -⟩ :=
        path.exists_move_inOrder fresh few
      have internal : completion.outcome.isInternal = true := by
        rw [untracked]
        rfl
      obtain ⟨reason, outcome_eq⟩ := order.internal_cases move
        (List.mem_append_right _ (List.mem_cons_self ..)) internal
      rw [outcome_eq] at untracked
      exact reason_ne_untracked reason (congrArg Status.text (Outcome.failed.inj untracked).1)
    · rw [Multiplexer.shutDown_eq] at mem
      rw [Ticket.outcome_of_fail mem] at untracked
      cases untracked

/-! ## Requests in all three places -/

section Crowded

open Simulation (Drive)

/-- Three requests, of which the channel **holds back the flush** behind the second. -/
def crowdedTurns : List (Turn Drive Nat) :=
  [.submit (.withPin [1]) {} [] (some 10), .submit (.withPin [1]) {} [] (some 20),
    .submit (.withPin [1]) {} [] (some 30), .run]

/-- Of three requests **one waits in each place**, with their names in order, and the first waits
for its answer as soon as it is out. -/
theorem names_in_order_crowded :
    ∃ m : Multiplexer Drive Nat,
      Multiplexer.start 2 (.constant [7]) { hmacKey := [1] } hastyDrive = some (.ok m) ∧
      (m.live crowdedTurns).service.transit.awaiting.map Ticket.sequence = [0] ∧
      (m.live crowdedTurns).service.transit.unsent.map Ticket.sequence = [1, 2] ∧
      (m.live crowdedTurns).service.InOrder ∧
      (∃ before rest, (m.live crowdedTurns).events =
        before ++ .sent 0 :: .tracked ⟨0, 0, 10⟩ :: rest) ∧
      ∀ completion ∈ Event.completions (m.live crowdedTurns).ended, ∀ response,
        completion.outcome ≠ .failed
          (.client .internalError "could not track response for request") response := by
  have check : ((Multiplexer.start 2 (.constant [7]) { hmacKey := [1] } hastyDrive :
      Option (Except Failure (Multiplexer Drive Nat))).any fun started =>
      started.toOption.any fun m =>
        let lived := m.live crowdedTurns
        decide (lived.service.transit.awaiting.map Ticket.sequence = [0] ∧
          lived.service.transit.unsent.map Ticket.sequence = [1, 2] ∧
          0 ∈ Event.outgoing lived.events ∧
          (Event.tickets lived.events).map (fun t => (t.sequence, t.key, t.handler)) =
            [(0, 0, some 10), (1, 1, some 20), (2, 2, some 30)])) = true := by
    decide +kernel
  obtain ⟨m, started, check⟩ := exists_started check
  obtain ⟨awaiting, unsent, out, tickets⟩ := of_decide_eq_true check
  have few : (Turn.submitted crowdedTurns).length < 2 ^ 63 := by decide
  obtain ⟨order, tracked, untold⟩ := names_in_order started crowdedTurns few
  refine ⟨m, started, awaiting, unsent, order, ?_, untold⟩
  obtain ⟨before, after, events_eq⟩ := List.append_of_mem (Event.mem_outgoing.mp out)
  obtain ⟨request, queued, sequence_eq, asked⟩ := tracked before after 0 events_eq
  have known : request.ticket ∈ Event.tickets (m.live crowdedTurns).events := by
    rw [events_eq]
    exact List.mem_filterMap.mpr ⟨_, List.mem_append_left _ queued, rfl⟩
  have names := List.mem_map_of_mem (f := fun t => (t.sequence, t.key, t.handler)) known
  rw [tickets] at names
  simp [QueuedRequest.ticket, sequence_eq] at names
  obtain ⟨rest, rfl⟩ := asked 10 names.2
  rw [names.1] at events_eq
  exact ⟨before, rest, events_eq⟩

end Crowded

end DriveLink
