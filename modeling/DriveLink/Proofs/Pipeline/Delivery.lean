import DriveLink.Proofs.Pipeline.Correlation
import DriveLink.Proofs.Pipeline.Key
import DriveLink.Proofs.Pipeline.Once
import DriveLink.Proofs.Pipeline.Written

/-! # Whether a response reaches its request

A response is handed over only to a request that waits for its answer, and a request waits from the
moment when a flush has made progress behind its last byte. A drive may answer before that moment,
as it has all bytes. Then the response is passed over, as if the request had been taken back.

* `Path.sent_iff_awaiting` — a request on its way waits just if it is out;
* `Path.ticket_of_waiting` — a request that is neither called nor taken back is on its way;
* `Path.completions_iff_awaiting` — a response is handed over just if its request waits;
* `response_reaches_iff_sent` — a response reaches its request just if that is out. -/

namespace DriveLink

variable {σ η : Type}

/-! ## Who waits -/

/-- Whoever waits for an answer after a step has waited before it, or **is out** since it. -/
theorem Shift.awaiting_sublist {t t' : Transit η} {events : List (Event η)}
    (h : Shift t events t') :
    (t'.awaiting.map Ticket.sequence).Sublist
      (t.awaiting.map Ticket.sequence ++ Event.outgoing events) := by
  cases h with
  | @track awaiting unsent request bytes fresh =>
    rw [List.map_append]
    exact List.Sublist.refl _
  | @disown unsent before after ticket =>
    refine List.Sublist.trans ?_ (List.sublist_append_left _ _)
    exact ((List.sublist_cons_self ticket after).append_left before).map Ticket.sequence
  | @complete unsent before after ticket outcome completion key_eq handler_eq =>
    refine List.Sublist.trans ?_ (List.sublist_append_left _ _)
    exact ((List.sublist_cons_self ticket after).append_left before).map Ticket.sequence
  | breakIn outcome status => exact List.nil_sublist _
  | _ => exact List.sublist_append_left _ _

/-- No step lets two requests wait **under one number**. -/
theorem Shift.nodup_awaiting {t t' : Transit η} {events : List (Event η)} (h : Shift t events t')
    (nodup : (t.awaiting.map Ticket.sequence).Nodup) :
    (t'.awaiting.map Ticket.sequence).Nodup := by
  cases h with
  | @track awaiting unsent request bytes fresh =>
    have others : request.sequence ∉ awaiting.map Ticket.sequence := by
      intro mem
      obtain ⟨other, inside, same⟩ := List.mem_map.mp mem
      exact (fresh other inside).1 same
    rw [List.map_append, List.map_singleton, ← List.concat_eq_append]
    exact nodup.concat others
  | @disown unsent before after ticket =>
    exact nodup.sublist (((List.sublist_cons_self ticket after).append_left before).map _)
  | @complete unsent before after ticket outcome completion key_eq handler_eq =>
    exact nodup.sublist (((List.sublist_cons_self ticket after).append_left before).map _)
  | breakIn outcome status => exact List.nodup_nil
  | _ => exact nodup

variable [Channel σ]

/-- **No two requests wait under one number.** -/
theorem Path.nodup_awaiting {m m' : Multiplexer σ η} {events : List (Event η)}
    (h : Path m events m') (fresh : m.Fresh) :
    (m'.transit.awaiting.map Ticket.sequence).Nodup := by
  have nobody : m.transit.awaiting = [] := (List.append_eq_nil_iff.mp fresh.tickets).1
  refine h.invariant (fun _ m₁ => (m₁.transit.awaiting.map Ticket.sequence).Nodup) ?_ ?_
  · rw [nobody]
    exact List.nodup_nil
  · intro past m₁ events m₂ _ nodup move
    exact move.shift.nodup_awaiting nodup

/-- Whoever waits for an answer **is out**. -/
theorem Path.awaiting_sublist {m m' : Multiplexer σ η} {events : List (Event η)}
    (h : Path m events m') :
    (m'.transit.awaiting.map Ticket.sequence).Sublist
      (m.transit.awaiting.map Ticket.sequence ++ Event.outgoing events) := by
  induction h with
  | done m => exact List.sublist_append_left _ _
  | step move _ ih =>
    rw [Event.outgoing_append, ← List.append_assoc]
    exact ih.trans (move.shift.awaiting_sublist.append_right _)

/-- **A request on its way waits for its answer just if it is out.** -/
theorem Path.sent_iff_awaiting {m m' : Multiplexer σ η} {events : List (Event η)}
    (h : Path m events m') (fresh : m.Fresh) (numbered : Numbered events m') {ticket : Ticket η}
    (mem : ticket ∈ m'.transit.tickets) :
    .sent ticket.sequence ∈ events ↔ ticket ∈ m'.transit.awaiting := by
  rw [← Event.mem_outgoing]
  obtain ⟨nobody, nothing⟩ := List.append_eq_nil_iff.mp fresh.tickets
  constructor
  · intro out
    rcases List.mem_append.mp mem with waits | unsent
    · exact waits
    · -- nothing that is out is unsent as well
      have order := h.outgoing_sublist
      rw [nothing, List.map_nil, List.nil_append] at order
      have apart := List.nodup_append.mp (numbered.nodup_sequences.sublist order)
      exact absurd rfl (apart.2.2 _ out _ (List.mem_map_of_mem unsent))
  · intro waits
    have order := h.awaiting_sublist
    rw [nobody, List.map_nil, List.nil_append] at order
    exact order.subset (List.mem_map_of_mem waits)

/-- A request that has been queued with a handler, and is neither called nor taken back, **is on its
way**. -/
theorem Path.ticket_of_waiting {m m' : Multiplexer σ η} {events : List (Event η)}
    (h : Path m events m') (fresh : m.Fresh) (numbered : Numbered events m')
    {request : QueuedRequest η} {handler : η} (queued : .queued request ∈ events)
    (handler_eq : request.handler = some handler)
    (uncalled : ∀ completion, .completed completion ∈ events → completion.key ≠ request.key)
    (kept : ∀ taken, .cancelled request.key taken ∉ events) :
    request.ticket ∈ m'.transit.tickets := by
  have known : request.ticket ∈ Event.tickets events := List.mem_filterMap.mpr ⟨_, queued, rfl⟩
  have submitted : (request.key, some handler) ∈ Event.submissions events := by
    rw [← handler_eq]
    exact h.submissions_sublist.subset (List.mem_map_of_mem known)
  have given : (request.key, handler) ∈ Event.given events := by
    rw [Event.given_eq]
    exact Multiset.mem_coe.mpr (List.mem_filterMap.mpr ⟨_, submitted, rfl⟩)
  have balance := h.balance
  rw [fresh.tickets, Ticket.handlers_nil, add_zero] at balance
  rw [balance, Multiset.mem_add, Multiset.mem_add] at given
  -- its handler has been given away, and is neither called nor handed back: so it is held
  rcases given with (called | back) | held
  · obtain ⟨event, mem, same⟩ := List.mem_filterMap.mp (Multiset.mem_coe.mp called)
    cases event with
    | completed completion =>
      exact absurd (congrArg Prod.fst (Option.some.inj same)) (uncalled completion mem)
    | _ => cases same
  · rw [Event.handedBack_eq] at back
    obtain ⟨⟨key, taken⟩, mem, same⟩ := List.mem_filterMap.mp (Multiset.mem_coe.mp back)
    cases taken <;> cases same
    exact absurd (Event.mem_cancellations.mp mem) (kept _)
  · obtain ⟨ticket, mem, same⟩ := List.mem_filterMap.mp (Multiset.mem_coe.mp held)
    have same_key : ticket.key = request.key := by
      obtain ⟨_, key, handler⟩ := ticket
      cases handler <;> cases same
      rfl
    have on_way := h.tickets_sublist.subset mem
    rw [fresh.tickets, List.nil_append] at on_way
    rwa [← numbered.ticket_eq on_way known (.inr same_key)]

/-! ## What a frame does -/

omit [Channel σ] in
/-- That a request is completed is **not that a frame is received**. -/
theorem Event.received_notMem_completed (outcome : ReadOutcome) (done : List (Completion η)) :
    .received outcome ∉ done.map completed := by
  intro inside
  obtain ⟨_, -, same⟩ := List.mem_map.mp inside
  cases same

/-- A step in which a frame ends **reads the rest of it**, and does what its end does. -/
theorem Move.exists_read_of_received {m m' : Multiplexer σ η} {events : List (Event η)}
    {outcome : ReadOutcome} (h : Move m events m') (mem : .received outcome ∈ events)
    (ends : outcome.endsFrame = true) :
    ∃ reader channel, m.inbox.reader.read m.channel = (outcome, reader, channel) ∧
      events = .received outcome ::
        (m.inbox.correlator.accept outcome).completions.map .completed ∧
      m' = { m with
        inbox := { m.inbox with
          correlator := (m.inbox.correlator.accept outcome).correlator
          reader }
        channel } := by
  cases h with
  | @accept outcome' reader channel working read ends' =>
    rcases List.mem_cons.mp mem with same | inside
    · cases same
      exact ⟨reader, channel, read, rfl, rfl⟩
    · exact absurd inside (Event.received_notMem_completed _ _)
  | breakIn working read all =>
    rcases List.mem_cons.mp mem with same | inside
    · cases same
      cases ends
    · exact absurd inside (Event.received_notMem_completed _ _)
  | @release request writer channel working current write =>
    have releases := Outbox.releases_release request m.inbox
    generalize Outbox.release request m.inbox = released at releases mem
    cases releases <;> simp at mem
  | _ => simp at mem

/-- A step in which a frame ends does what **the end of the frame** does, and nothing before it. -/
theorem Move.of_received {m m' : Multiplexer σ η} {events sooner later : List (Event η)}
    {outcome : ReadOutcome} (h : Move m events m')
    (events_eq : events = sooner ++ .received outcome :: later) (ends : outcome.endsFrame = true) :
    sooner = [] ∧
      later = (m.inbox.correlator.accept outcome).completions.map .completed := by
  have mem : .received outcome ∈ events := by
    rw [events_eq]
    exact List.mem_append_right _ (List.mem_cons_self ..)
  obtain ⟨-, -, -, told, -⟩ := h.exists_read_of_received mem ends
  rw [events_eq] at told
  cases sooner with
  | nil => exact ⟨rfl, (List.cons.inj told).2⟩
  | cons first sooner =>
    rw [List.cons_append, List.cons.injEq] at told
    refine absurd ?_ (Event.received_notMem_completed outcome
      (m.inbox.correlator.accept outcome).completions)
    rw [← told.2]
    exact List.mem_append_right _ (List.mem_cons_self ..)

/-- In a step in which a handler is called with a response, **its frame comes first**. -/
theorem Move.not_first {m m' : Multiplexer σ η} {later : List (Event η)}
    {completion : Completion η} {response : Command}
    (answered : completion.outcome.response? = some response) :
    ¬ Move m (.completed completion :: later) m' := by
  intro move
  rcases move.answers with silent | ⟨_, _, _, _, step, -⟩
  · rw [silent completion (List.mem_cons_self ..)] at answered
    cases answered
  · cases step

/-- **No path begins with a response**: its frame comes first. -/
theorem Path.not_first {m m' : Multiplexer σ η} {events later : List (Event η)}
    {completion : Completion η} {response : Command} (h : Path m events m')
    (answered : completion.outcome.response? = some response) :
    events ≠ .completed completion :: later := by
  intro events_eq
  have first : events = [] ++ .completed completion :: later := events_eq
  obtain ⟨past, m₁, sooner, rest, _, _, -, move, -, before_eq, -⟩ := h.exists_move first
  obtain ⟨-, rfl⟩ := List.append_eq_nil_iff.mp before_eq.symm
  exact Move.not_first answered move

namespace Correlator

variable {c : Correlator η} {frame : Frame} {envelope : Envelope} {response : Command}

omit [Channel σ] in
/-- A response to a request that waits for it **answers that request**. -/
theorem completions_of_awaited {request : OutstandingRequest η}
    (opened : c.openResponse frame.command = .ok (envelope, response))
    (answers : answeredSequence envelope response = some request.sequence)
    (mem : request ∈ c.outstanding.entries)
    (alone : ∀ other ∈ c.outstanding.entries, other.sequence = request.sequence → other = request) :
    (c.accept (.frame frame)).completions =
      [.answer request.key request.handler response frame.value] := by
  rw [accept, dispatch_of_opened opened answers]
  cases removed : c.outstanding.removeBySequence request.sequence with
  | none => exact absurd rfl (Outstanding.removeBySequence_eq_none_iff.mp removed request mem)
  | some taken =>
    obtain ⟨other, outstanding⟩ := taken
    obtain ⟨before, after, entries_eq, -, same⟩ := Outstanding.exists_split removed
    have inside : other ∈ c.outstanding.entries := by
      rw [entries_eq]
      exact List.mem_append_right _ (List.mem_cons_self ..)
    rw [alone other inside same]

omit [Channel σ] in
/-- A response that nobody waits for **answers nobody**. -/
theorem completions_of_unawaited {sequence : Int64}
    (opened : c.openResponse frame.command = .ok (envelope, response))
    (answers : answeredSequence envelope response = some sequence)
    (none : ∀ other ∈ c.outstanding.entries, other.sequence ≠ sequence) :
    (c.accept (.frame frame)).completions = [] := by
  rw [accept, dispatch_of_opened opened answers,
    Outstanding.removeBySequence_eq_none_iff.mpr none]

end Correlator

/-- A response to a request on its way is handed over **just if the request waits for it**. -/
theorem Path.completions_iff_awaiting {m m' : Multiplexer σ η} {events : List (Event η)}
    (h : Path m events m') (fresh : m.Fresh) (numbered : Numbered events m')
    {frame : Frame} {envelope : Envelope} {response : Command}
    (opened : m'.inbox.correlator.openResponse frame.command = .ok (envelope, response))
    {request : OutstandingRequest η}
    (answers : Correlator.answeredSequence envelope response = some request.sequence)
    (on_way : request.ticket ∈ m'.transit.tickets) :
    (request.ticket ∈ m'.transit.awaiting →
      (m'.inbox.correlator.accept (.frame frame)).completions =
        [.answer request.key request.handler response frame.value]) ∧
    (request.ticket ∉ m'.transit.awaiting →
      (m'.inbox.correlator.accept (.frame frame)).completions = []) := by
  have known : ∀ ticket ∈ m'.transit.tickets, ticket ∈ Event.tickets events := by
    intro ticket mem
    have queued := h.tickets_sublist.subset mem
    rwa [fresh.tickets, List.nil_append] at queued
  -- whoever waits under that number is this request
  have alone : ∀ other ∈ m'.inbox.correlator.outstanding.entries,
      other.sequence = request.sequence → other.ticket = request.ticket := by
    intro other mem same
    have waits : other.ticket ∈ m'.transit.tickets :=
      List.mem_append_left _ (List.mem_map_of_mem mem)
    exact numbered.ticket_eq (known _ waits) (known _ on_way) (.inl same)
  constructor
  · intro awaits
    obtain ⟨waiting, mem, same⟩ := List.mem_map.mp awaits
    have request_eq : ∀ other : OutstandingRequest η, other.ticket = request.ticket →
        other = request := by
      rintro ⟨_, _, _⟩ same
      cases same
      rfl
    rw [request_eq waiting same] at mem
    exact Correlator.completions_of_awaited opened answers mem fun other inside same =>
      request_eq other (alone other inside same)
  · intro away
    refine Correlator.completions_of_unawaited opened answers fun other mem same => away ?_
    rw [← alone other mem same]
    exact List.mem_map_of_mem mem

/-! ## Responses that reach their requests -/

/-- **A response reaches its request just if that is out.** In the life of a connection that was
started, with fewer submissions than there are sequences, let a frame end with a response that
decodes, carries the digest that it should if it claims to be signed, and acknowledges a request
whose handler is neither called nor handed back. Then the handler is called with the response at
once, if the channel has taken every byte of the request and a flush has made progress behind them;
and it is not, as long as that flush is all that is still to come. -/
theorem response_reaches_iff_sent [Pollable σ] {patience : Nat} {signer : Signer}
    {options : Options} {s : σ} {m : Multiplexer σ η}
    (started : Multiplexer.start patience signer options s = some (.ok m))
    (turns : List (Turn σ η)) (few : (Turn.submitted turns).length < 2 ^ 63)
    {past after : List (Event η)} {frame : Frame}
    (received : (m.live turns).events = past ++ .received (.frame frame) :: after)
    {envelope : Envelope} {response : Command}
    (decoded : Envelope.decode frame.command = .ok envelope)
    (signed : envelope.auth = .hmac → signer.verifies options.hmacKey envelope = true)
    (inner : envelope.inner = .ok response) (asked : envelope.auth ≠ .unsolicited)
    {request : QueuedRequest η} {handler : η} (queued : .queued request ∈ past)
    (handler_eq : request.handler = some handler)
    (uncalled : ∀ completion, .completed completion ∈ past → completion.key ≠ request.key)
    (kept : ∀ taken, .cancelled request.key taken ∉ past)
    (acknowledges : response.header.ackSequence = some request.sequence) :
    (.sent request.sequence ∈ past ↔
      ∃ rest, after = .completed (.answer request.key handler response frame.value) :: rest) ∧
    (.sent request.sequence ∈ past → Event.taken request.sequence past = request.frame) ∧
    (.sent request.sequence ∉ past → Event.taken request.sequence past = request.frame →
      ∃ m₁, Path m past m₁ ∧
        m₁.outbox.current = some ⟨⟨[]⟩, request.sequence, request.key, request.handler⟩) := by
  have fresh := Multiplexer.fresh_of_start started
  have path := path_live m turns
  -- what came before the frame is a path of its own, and the frame is the first thing in its step
  obtain ⟨past', m₁, sooner, later, m₂, rest, so_far, move, onward, past_eq, rfl⟩ :=
    path.exists_move received
  obtain ⟨rfl, rfl⟩ := move.of_received rfl rfl
  rw [List.append_nil] at past_eq
  subst past_eq
  have numbered : Numbered past m₁ := by
    refine so_far.numbered fresh.numbered ?_
    have few := few
    rw [← length_submissions_live m turns, received, Event.submissions_append,
      List.length_append] at few
    omega
  -- the request is still on its way, and it waits for its answer just if it is out
  have on_way := so_far.ticket_of_waiting fresh numbered queued handler_eq uncalled kept
  have sent_iff := so_far.sent_iff_awaiting fresh numbered on_way
  have opened : m₁.inbox.correlator.openResponse frame.command = .ok (envelope, response) := by
    obtain ⟨signer_eq, key_eq⟩ := so_far.correlator_of_start started
    refine Correlator.openResponse_eq_ok decoded ?_ inner
    rwa [signer_eq, key_eq]
  have answers : Correlator.answeredSequence envelope response = some request.sequence := by
    rw [Correlator.answeredSequence, if_neg asked]
    exact acknowledges
  have ticket_eq : request.ticket =
      OutstandingRequest.ticket ⟨request.sequence, request.key, handler⟩ := by
    rw [QueuedRequest.ticket, OutstandingRequest.ticket, handler_eq]
  rw [ticket_eq] at on_way
  obtain ⟨awaited, away⟩ := so_far.completions_iff_awaiting fresh numbered opened answers on_way
  rw [← ticket_eq] at awaited away on_way
  refine ⟨⟨?_, ?_⟩, so_far.taken_of_sent fresh numbered queued, ?_⟩
  · intro sent
    rw [awaited (sent_iff.mp sent)]
    exact ⟨rest, rfl⟩
  · rintro ⟨last, after_eq⟩
    -- nobody is called in the step of the frame, and no later step begins with an answer
    by_contra unsent
    rw [away (mt sent_iff.mpr unsent), List.map_nil, List.nil_append] at after_eq
    exact onward.not_first (Completion.response?_answer _ _ _ _) after_eq
  · intro unsent taken
    have waits := (List.mem_append.mp on_way).resolve_left (mt sent_iff.mpr unsent)
    exact ⟨m₁, so_far, so_far.flushing_of_taken fresh numbered queued waits taken⟩

/-! ## A drive that answers too soon -/

/-- The frame that a read comes to the end of, if it does. -/
def Event.frame? : Event η → Option Frame
  | received (.frame frame) => some frame
  | _ => none

theorem Event.eq_of_frame? {event : Event η} {frame : Frame} (h : event.frame? = some frame) :
    event = .received (.frame frame) := by
  cases event with
  | received outcome =>
    cases outcome <;> cases h
    rfl
  | _ => cases h

section Hasty

open Simulation (Drive)

/-- A drive that answers the second request only, and as soon as it has all of it, while its channel
**holds back the flush**. -/
def hastyDrive : Drive where
  key := [1]
  queue := [.bytes hello]
  flushes := [.done, .block]
  replies := [[], [.frame
    { auth := .pin
      command := .response {} .echo (.given .empty) (some { code := .success }) }]]

def hastyTurns : List (Turn Drive Nat) :=
  [.submit (.withPin [1]) {} [] (some 10), .submit (.withPin [1]) {} [] (some 20), .run]

/-- The response of a hasty drive acknowledges a request that its channel has taken entirely, and
yet **nobody is called with it**. -/
theorem response_reaches_iff_sent_hasty :
    ∃ (m : Multiplexer Drive Nat) (past after : List (Event Nat)) (frame : Frame)
      (envelope : Envelope) (response : Command) (request : QueuedRequest Nat),
      Multiplexer.start 2 (.constant [7]) { hmacKey := [1] } hastyDrive = some (.ok m) ∧
      (m.live hastyTurns).events = past ++ .received (.frame frame) :: after ∧
      Envelope.decode frame.command = .ok envelope ∧ envelope.inner = .ok response ∧
      .queued request ∈ past ∧ request.handler = some 20 ∧
      response.header.ackSequence = some request.sequence ∧
      Event.taken request.sequence past = request.frame ∧
      ¬ ∃ rest, after = .completed (.answer request.key 20 response frame.value) :: rest := by
  -- the frame of the response is the last thing that happens
  have check : ((Multiplexer.start 2 (.constant [7]) { hmacKey := [1] } hastyDrive :
      Option (Except Failure (Multiplexer Drive Nat))).any fun started =>
      started.toOption.any fun m =>
        let events := (m.live hastyTurns).events
        (events.getLast?.any fun last => last.frame?.any fun frame =>
          (Envelope.decode frame.command).toOption.any fun envelope =>
          envelope.inner.toOption.any fun response =>
          (Event.requests events.dropLast)[1]?.any fun request =>
            decide (envelope.auth = .pin ∧ request.handler = some 20 ∧
              response.header.ackSequence = some request.sequence ∧
              Event.taken request.sequence events.dropLast = request.frame ∧
              request.sequence ∉ Event.outgoing events.dropLast ∧
              (Event.completions events.dropLast).map Completion.key = [] ∧
              Event.cancellations events.dropLast = []))) = true := by
    decide +kernel
  obtain ⟨m, started, check⟩ := exists_started check
  obtain ⟨last, last_eq, check⟩ := (Option.any_eq_true _ _).mp check
  obtain ⟨frame, frame_eq, check⟩ := (Option.any_eq_true _ _).mp check
  obtain ⟨envelope, decodes, check⟩ := (Option.any_eq_true _ _).mp check
  obtain ⟨response, holds, check⟩ := (Option.any_eq_true _ _).mp check
  obtain ⟨request, request_eq, check⟩ := (Option.any_eq_true _ _).mp check
  obtain ⟨pin, handler_eq, acknowledges, taken, unsent, called, given_back⟩ :=
    of_decide_eq_true check
  have decoded := eq_ok_of_toOption decodes
  have inner := eq_ok_of_toOption holds
  have received : (m.live hastyTurns).events =
      (m.live hastyTurns).events.dropLast ++ .received (.frame frame) :: [] := by
    have same : last = .received (.frame frame) := Event.eq_of_frame? frame_eq
    rw [← same]
    exact (List.dropLast_append_getLast? last last_eq).symm
  have queued : .queued request ∈ (m.live hastyTurns).events.dropLast :=
    Event.mem_requests.mp (List.mem_of_getElem? request_eq)
  have few : (Turn.submitted hastyTurns).length < 2 ^ 63 := by decide
  have signed : envelope.auth = .hmac → (Signer.constant [7]).verifies [1] envelope = true := by
    rw [pin]
    intro hmac
    cases hmac
  have asked : envelope.auth ≠ .unsolicited := by
    rw [pin]
    decide
  have uncalled : ∀ completion, .completed completion ∈ (m.live hastyTurns).events.dropLast →
      completion.key ≠ request.key := by
    intro completion mem
    have inside : completion ∈ Event.completions (m.live hastyTurns).events.dropLast :=
      List.mem_filterMap.mpr ⟨_, mem, rfl⟩
    rw [List.map_eq_nil_iff.mp called] at inside
    exact absurd inside List.not_mem_nil
  have kept : ∀ taken, .cancelled request.key taken ∉ (m.live hastyTurns).events.dropLast := by
    intro taken mem
    have inside := Event.mem_cancellations.mpr mem
    rw [given_back] at inside
    exact absurd inside List.not_mem_nil
  obtain ⟨reaches, -, -⟩ := response_reaches_iff_sent started hastyTurns few received decoded
    signed inner asked queued handler_eq uncalled kept acknowledges
  refine ⟨m, _, _, frame, envelope, response, request, started, received, decoded, inner, queued,
    handler_eq, acknowledges, taken, fun reached => unsent ?_⟩
  exact Event.mem_outgoing.mpr (reaches.mpr reached)

end Hasty

end DriveLink
