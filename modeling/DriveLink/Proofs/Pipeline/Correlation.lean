import DriveLink.Proofs.Pipeline.Order

/-! # Which answer a request gets

A handler is called with a response only because of a frame that acknowledges the very request the
handler was submitted with, and that came after the request had begun to wait. Each such call
stands directly behind its frame, so that no two of them come from one frame, and they come in the
order of their frames.

* `Outcome.response?` — the response that a handler is called with;
* `Move.answers` — only the end of a frame answers a request;
* `AnsweredBy`, `Path.answered_by` — what a call with a response rests on;
* `answers_correlate` — the same for the life of a connection, by positions. -/

namespace DriveLink

variable {σ η : Type}

/-- The **response** that a handler is called with, if the drive has answered at all. -/
def Outcome.response? : Outcome → Option Command
  | answered response _ => some response
  | failed _ response => response

/-! ## Only frames answer -/

namespace Event

/-- Among completions behind an event stand **those completions**. -/
theorem mem_of_completed_mem {event : Event η} (other : event.completion? = none)
    {done : List (Completion η)} {completion : Completion η}
    (mem : .completed completion ∈ event :: done.map completed) : completion ∈ done := by
  rcases List.mem_cons.mp mem with same | mem
  · rw [← same] at other
    cases other
  · obtain ⟨_, inside, same⟩ := List.mem_map.mp mem
    cases same
    exact inside

end Event

theorem Completion.outcome_of_failIfAny {key : RequestKey} {handler : Option η} {status : Status}
    {completion : Completion η} (mem : completion ∈ failIfAny key handler status) :
    completion.outcome = .failed status none := by
  cases handler with
  | none => exact absurd mem List.not_mem_nil
  | some handler =>
    rw [List.mem_singleton.mp mem]
    rfl

/-- Requests that fail together fail **with the same status**, and without a response. -/
theorem Ticket.outcome_of_fail {tickets : List (Ticket η)} {status : Status}
    {completion : Completion η} (mem : completion ∈ tickets.flatMap (fail · status)) :
    completion.outcome = .failed status none := by
  obtain ⟨ticket, -, inside⟩ := List.mem_flatMap.mp mem
  exact Completion.outcome_of_failIfAny inside

theorem Completion.response?_of_failIfAny {key : RequestKey} {handler : Option η} {status : Status}
    {completion : Completion η} (mem : completion ∈ failIfAny key handler status) :
    completion.outcome.response? = none := by
  rw [outcome_of_failIfAny mem]
  rfl

theorem Ticket.response?_of_fail {tickets : List (Ticket η)} {status : Status}
    {completion : Completion η} (mem : completion ∈ tickets.flatMap (fail · status)) :
    completion.outcome.response? = none := by
  rw [outcome_of_fail mem]
  rfl

/-- What is in a frame that **can be opened**. -/
theorem Correlator.decode_of_openResponse {c : Correlator η} {bytes : Bytes} {envelope : Envelope}
    {response : Command} (h : c.openResponse bytes = .ok (envelope, response)) :
    Envelope.decode bytes = .ok envelope ∧ envelope.inner = .ok response ∧
      (envelope.auth = .hmac → c.signer.verifies c.hmacKey envelope = true) := by
  unfold openResponse at h
  split at h
  · cases h
  · rename_i envelope' decoded
    split at h
    · cases h
    · rename_i verified
      split at h
      · cases h
      · rename_i inner
        cases h
        refine ⟨decoded, inner, fun hmac => ?_⟩
        simpa [hmac] using verified

/-! ## Who waits has been tracked -/

/-- Whoever waits for an answer after a step has **waited before it**, or begins to in it. -/
theorem Shift.tracked {t t' : Transit η} {events : List (Event η)} (h : Shift t events t')
    {ticket : Ticket η} (mem : ticket ∈ t'.awaiting) :
    ticket ∈ t.awaiting ∨ ∃ request, .tracked request ∈ events ∧ request.ticket = ticket := by
  cases h with
  | track request bytes fresh =>
    rcases List.mem_append.mp mem with mem | new
    · exact .inl mem
    · exact .inr ⟨request, by simp, (List.mem_singleton.mp new).symm⟩
  | @disown unsent before after taken =>
    refine .inl ?_
    rcases List.mem_append.mp mem with mem | mem
    · exact List.mem_append_left _ mem
    · exact List.mem_append_right _ (List.mem_cons_of_mem _ mem)
  | @complete unsent before after taken outcome completion key_eq handler_eq =>
    refine .inl ?_
    rcases List.mem_append.mp mem with mem | mem
    · exact List.mem_append_left _ mem
    · exact List.mem_append_right _ (List.mem_cons_of_mem _ mem)
  | breakIn outcome status => exact absurd mem List.not_mem_nil
  | _ => exact .inl mem

/-- Only a request **on its way** begins to wait for its answer. -/
theorem Shift.ticket_of_tracked {t t' : Transit η} {events : List (Event η)}
    (h : Shift t events t') {request : OutstandingRequest η} (mem : .tracked request ∈ events) :
    request.ticket ∈ t.tickets := by
  cases h with
  | track entry bytes fresh =>
    simp only [List.mem_cons, reduceCtorEq, List.not_mem_nil, or_false, false_or,
      Event.tracked.injEq] at mem
    rw [mem]
    exact List.mem_append_right _ (List.mem_cons_self ..)
  | _ => simp at mem

variable [Channel σ]

/-- Whoever waits for an answer **has been tracked**. -/
theorem Path.tracked {m m' : Multiplexer σ η} {events : List (Event η)} (h : Path m events m')
    (fresh : m.Fresh) {request : OutstandingRequest η}
    (mem : request ∈ m'.inbox.correlator.outstanding.entries) : .tracked request ∈ events := by
  have all : ∀ ticket ∈ m'.transit.awaiting,
      ∃ request, .tracked request ∈ events ∧ request.ticket = ticket := by
    refine h.invariant (fun past m₁ => ∀ ticket ∈ m₁.transit.awaiting,
      ∃ request, .tracked request ∈ past ∧ request.ticket = ticket) ?_ ?_
    · intro ticket mem
      rw [Multiplexer.transit, fresh.outstanding] at mem
      exact absurd mem List.not_mem_nil
    · intro past m₁ events m₂ _ known move ticket mem
      rcases move.shift.tracked mem with mem | ⟨request, new, same⟩
      · obtain ⟨request, old, same⟩ := known ticket mem
        exact ⟨request, List.mem_append_left _ old, same⟩
      · exact ⟨request, List.mem_append_right _ new, same⟩
  obtain ⟨⟨sequence, key, handler⟩, known, same⟩ := all request.ticket (List.mem_map_of_mem mem)
  obtain ⟨_, _, _⟩ := request
  cases same
  exact known

/-! ## What a call with a response rests on -/

/-- **Only the end of a frame answers a request**, and one that waits for its answer. -/
theorem Move.answers {m m' : Multiplexer σ η} {events : List (Event η)} (h : Move m events m') :
    (∀ completion, .completed completion ∈ events → completion.outcome.response? = none) ∨
    ∃ frame envelope response request,
      events = [.received (.frame frame),
        .completed (.answer request.key request.handler response frame.value)] ∧
      m.inbox.correlator.openResponse frame.command = .ok (envelope, response) ∧
      Correlator.answeredSequence envelope response = some request.sequence ∧
      request ∈ m.inbox.correlator.outstanding.entries := by
  cases h with
  | reject dead handler =>
    refine .inl fun completion mem => ?_
    exact Completion.response?_of_failIfAny (Event.mem_of_completed_mem rfl mem)
  | misfit alive prepared =>
    refine .inl fun completion mem => ?_
    exact Completion.response?_of_failIfAny (Event.mem_of_completed_mem rfl mem)
  | @release request writer channel working current write =>
    refine .inl fun completion mem => ?_
    have releases := Outbox.releases_release request m.inbox
    generalize Outbox.release request m.inbox = released at releases mem
    cases releases <;> simp at mem
    rw [mem]
    rfl
  | breakOut working current write =>
    refine .inl fun completion mem => ?_
    rw [Outbox.failures_eq] at mem
    exact Ticket.response?_of_fail (Event.mem_of_completed_mem rfl mem)
  | @accept outcome reader channel working read ends =>
    have accepts := m.inbox.correlator.accepts_accept ends
    generalize m.inbox.correlator.accept outcome = accepted at accepts ⊢
    cases accepts with
    | giveUp status connectionId stop =>
      refine .inl fun completion mem => ?_
      rw [Outstanding.fail_eq] at mem
      exact Ticket.response?_of_fail (Event.mem_of_completed_mem rfl mem)
    | passOver connectionId =>
      refine .inl fun completion mem => ?_
      exact absurd (Event.mem_of_completed_mem rfl mem) List.not_mem_nil
    | @answer frame envelope response request before after opened answers entries_eq _ =>
      refine .inr ⟨frame, envelope, response, request, rfl, opened, answers, ?_⟩
      rw [entries_eq]
      exact List.mem_append_right _ (List.mem_cons_self ..)
    | tooLarge acknowledged entries_eq =>
      refine .inl fun completion mem => ?_
      rw [List.mem_singleton.mp (Event.mem_of_completed_mem rfl mem)]
      rfl
  | breakIn working read all =>
    cases all
    refine .inl fun completion mem => ?_
    rw [Outstanding.fail_eq] at mem
    exact Ticket.response?_of_fail (Event.mem_of_completed_mem rfl mem)
  | _ => exact .inl fun completion mem => by simp at mem

/-- **What a call with a response rests on**: the request of the handler, and a frame with that
response, which acknowledges the request. -/
structure AnsweredBy (completion : Completion η) (response : Command) (request : QueuedRequest η)
    (frame : Frame) (envelope : Envelope) : Prop where
  key : request.key = completion.key
  handler : request.handler = some completion.handler
  decoded : Envelope.decode frame.command = .ok envelope
  inner : envelope.inner = .ok response
  sequence : Correlator.answeredSequence envelope response = some request.sequence
  outcome : completion.outcome =
    if response.isSuccess then .answered response frame.value
    else .failed (.ofResponse response) (some response)

theorem Completion.eq_answer (key : RequestKey) (handler : η) (response : Command)
    (value : Bytes) :
    answer key handler response value = ⟨key, handler, if response.isSuccess then
      .answered response value else .failed (.ofResponse response) (some response)⟩ := by
  rw [answer]
  split <;> rfl

/-- The response of an answer is the one it was **made of**. -/
theorem Completion.response?_answer (key : RequestKey) (handler : η) (response : Command)
    (value : Bytes) : (answer key handler response value).outcome.response? = some response := by
  rw [answer]
  split <;> rfl

/-- Of whatever has been tracked, a request **was queued before**, under the same names. -/
theorem Path.queued_before {m m' : Multiplexer σ η} {events : List (Event η)}
    {entry : OutstandingRequest η} (h : Path m events m') (fresh : m.Fresh)
    (tracked : .tracked entry ∈ events) :
    ∃ request earlier between later, events =
        earlier ++ .queued request :: (between ++ .tracked entry :: later) ∧
      request.ticket = entry.ticket := by
  obtain ⟨before, later, rfl⟩ := List.append_of_mem tracked
  obtain ⟨past, m₁, sooner, _, _, _, so_far, move, -, rfl, -⟩ := h.exists_move rfl
  -- a request only begins to wait if it is on its way, and then it has been queued
  have on_way := move.shift.ticket_of_tracked (List.mem_append_right sooner (List.mem_cons_self ..))
  have queued := so_far.tickets_sublist.subset on_way
  rw [fresh.tickets, List.nil_append, Event.tickets, List.mem_filterMap] at queued
  obtain ⟨event, mem, same⟩ := queued
  cases event with
  | queued request =>
    obtain ⟨earlier, between, rfl⟩ := List.append_of_mem mem
    refine ⟨request, earlier, between ++ sooner, later, ?_, Option.some.inj same⟩
    simp only [List.append_assoc, List.cons_append]
  | _ => cases same

/-- **Behind a call with a response** stand its frame, directly, the moment when its request began
to wait, and the moment when it was queued, in this order. -/
theorem Path.answered_by {m m' : Multiplexer σ η} {events before after : List (Event η)}
    {completion : Completion η} {response : Command} (h : Path m events m') (fresh : m.Fresh)
    (events_eq : events = before ++ .completed completion :: after)
    (answered : completion.outcome.response? = some response) :
    ∃ request frame envelope earlier between later,
      before = earlier ++ .queued request :: (between ++
        .tracked ⟨request.sequence, completion.key, completion.handler⟩ ::
          (later ++ [.received (.frame frame)])) ∧
      AnsweredBy completion response request frame envelope := by
  obtain ⟨past, m₁, sooner, rest, m₂, _, so_far, move, -, rfl, -⟩ := h.exists_move events_eq
  -- the step in which the handler is called is the end of a frame
  rcases move.answers with silent | ⟨frame, envelope, response', entry, step, opened, answers, mem⟩
  · rw [silent completion (by simp)] at answered
    cases answered
  · obtain ⟨rfl, rfl⟩ : sooner = [.received (.frame frame)] ∧
        completion = .answer entry.key entry.handler response' frame.value := by
      rcases sooner with _ | ⟨first, _ | ⟨second, sooner⟩⟩ <;> simp at step
      exact ⟨by rw [step.1], step.2.1⟩
    rw [Completion.response?_answer] at answered
    cases answered
    obtain ⟨request, earlier, between, later, rfl, same⟩ :=
      so_far.queued_before fresh (so_far.tracked fresh mem)
    obtain ⟨sequence, key, handler⟩ := entry
    obtain ⟨frame', _, _, _⟩ := request
    cases same
    obtain ⟨decoded, inner, -⟩ := Correlator.decode_of_openResponse opened
    rw [Completion.eq_answer]
    refine ⟨⟨frame', sequence, key, some handler⟩, frame, envelope, earlier, between, later, ?_,
      ⟨rfl, rfl, decoded, inner, answers, rfl⟩⟩
    simp only [List.append_assoc, List.cons_append]

/-! ## Answers in the life of a connection -/

omit [Channel σ] in
/-- No request has the number that everything **unsolicited** counts as answering. -/
theorem Numbered.asked {past : List (Event η)} {m : Multiplexer σ η} (h : Numbered past m)
    {t : Ticket η} (mem : t ∈ Event.tickets past) {envelope : Envelope} {response : Command}
    (answers : Correlator.answeredSequence envelope response = some t.sequence) :
    envelope.auth ≠ .unsolicited ∧ response.header.ackSequence = some t.sequence := by
  by_cases unsolicited : envelope.auth = .unsolicited
  · rw [Correlator.answeredSequence, if_pos unsolicited] at answers
    have nonneg := (h.bounded t mem).1
    rw [← Option.some.inj answers] at nonneg
    exact absurd nonneg (by decide)
  · rw [Correlator.answeredSequence, if_neg unsolicited] at answers
    exact ⟨unsolicited, answers⟩

/-- Whether a handler is called **with a response** at a position. -/
def AnswersAt (events : List (Event η)) (i : Nat) : Prop :=
  ∃ completion response, events[i]? = some (.completed completion) ∧
    completion.outcome.response? = some response

omit [Channel σ] in
/-- What stands **behind so many** stands at that position. -/
theorem getElem?_of_append {α : Type} {l before after : List α} {a : α}
    (h : l = before ++ a :: after) {i : Nat} (length_eq : before.length = i) :
    l[i]? = some a := by
  rw [h, ← length_eq, List.getElem?_append_right (Nat.le_refl _), Nat.sub_self]
  rfl

omit [Channel σ] in
/-- What stands somewhere **in a list with one more** stands there in the list, or is the one. -/
theorem getElem?_of_concat {α : Type} {l : List α} {last a : α} {i : Nat}
    (h : (l ++ [last])[i]? = some a) : l[i]? = some a ∨ i = l.length ∧ last = a := by
  rcases Nat.lt_trichotomy i l.length with lt | rfl | gt
  · rw [List.getElem?_append_left lt] at h
    exact .inl h
  · rw [List.getElem?_concat_length] at h
    exact .inr ⟨rfl, Option.some.inj h⟩
  · rw [List.getElem?_eq_none (by rw [List.length_append, List.length_singleton]; omega)] at h
    cases h

omit [Channel σ] in
/-- Of four things in a row, the last two side by side, **each has its position**. -/
theorem exists_positions {α : Type} {l earlier between later after : List α} {a b c d : α}
    (h : l = earlier ++ a :: (between ++ b :: (later ++ [c])) ++ d :: after) {i : Nat}
    (length_eq : (earlier ++ a :: (between ++ b :: (later ++ [c]))).length = i) :
    ∃ n k, n < k ∧ k < i - 1 ∧ i - 1 < i ∧ l[n]? = some a ∧ l[k]? = some b ∧
      l[i - 1]? = some c := by
  have a_eq : l = earlier ++ a :: (between ++ b :: (later ++ [c]) ++ d :: after) := by
    rw [h, List.append_assoc, List.cons_append]
  have b_eq : l = (earlier ++ a :: between) ++ b :: (later ++ [c] ++ d :: after) := by
    simp only [h, List.append_assoc, List.cons_append]
  have c_eq : l = (earlier ++ a :: (between ++ b :: later)) ++ c :: d :: after := by
    simp only [h, List.append_assoc, List.cons_append, List.nil_append]
  simp only [List.length_append, List.length_cons, List.length_nil] at length_eq
  refine ⟨earlier.length, earlier.length + (between.length + 1), by omega, by omega, by omega,
    getElem?_of_append a_eq rfl, getElem?_of_append b_eq ?_, getElem?_of_append c_eq ?_⟩
  · rw [List.length_append, List.length_cons]
  · simp only [List.length_append, List.length_cons]
    omega

omit [Channel σ] in
/-- What stands at a position stands **between what is before and behind it**. -/
theorem exists_append_of_getElem? {α : Type} {l : List α} {i : Nat} {a : α}
    (h : l[i]? = some a) : ∃ before after, l = before ++ a :: after ∧ before.length = i := by
  obtain ⟨lt, rfl⟩ := List.getElem?_eq_some_iff.mp h
  refine ⟨l.take i, l.drop (i + 1), ?_, List.length_take_of_le (Nat.le_of_lt lt)⟩
  rw [← List.drop_eq_getElem_cons, List.take_append_drop]

omit [Channel σ] in
/-- The end of a connection **answers nothing**. -/
theorem Lived.response?_of_shutDown (lived : Lived σ η) {completion : Completion η}
    (mem : completion ∈ lived.service.shutDown) : completion.outcome.response? = none := by
  rw [Multiplexer.shutDown_eq] at mem
  exact Ticket.response?_of_fail mem

omit [Channel σ] in
/-- A call with a response **comes before the end**. -/
theorem Lived.exists_of_ended {lived : Lived σ η} {before after : List (Event η)}
    {completion : Completion η} {response : Command}
    (events_eq : lived.ended = before ++ .completed completion :: after)
    (answered : completion.outcome.response? = some response) :
    ∃ rest, lived.events = before ++ .completed completion :: rest := by
  have early : .completed completion ∉ lived.service.shutDown.map Event.completed := by
    intro mem
    obtain ⟨_, inside, same⟩ := List.mem_map.mp mem
    cases same
    rw [lived.response?_of_shutDown inside] at answered
    cases answered
  rcases List.append_eq_append_iff.mp events_eq with ⟨between, rfl, last⟩ | ⟨rest, same, last⟩
  · rw [last] at early
    exact absurd (List.mem_append_right _ (List.mem_cons_self ..)) early
  · cases rest with
    | nil =>
      rw [← List.nil_append (List.map _ _), ← last] at early
      exact absurd (List.mem_cons_self ..) early
    | cons event rest =>
      rw [List.cons_append, List.cons.injEq] at last
      obtain ⟨rfl, -⟩ := last
      exact ⟨rest, same⟩

/-- **Every answer is for the request that it reaches.** In the life of a connection that was
started, up to its end, a handler is only called with a response because of a frame that holds the
response and acknowledges the handler's own request, and the frame came after that request had
begun to wait. Different calls have different frames, in the same order. As long as there are fewer
submissions than sequences, the acknowledgement is in the response itself, and no other request
has that sequence, or that key. -/
theorem answers_correlate [Pollable σ] {patience : Nat} {signer : Signer} {options : Options}
    {s : σ} {m : Multiplexer σ η}
    (started : Multiplexer.start patience signer options s = some (.ok m))
    (turns : List (Turn σ η)) :
    let events := (m.live turns).ended
    ∃ frameAt : Nat → Nat,
      (∀ i j, AnswersAt events i → AnswersAt events j → i < j → frameAt i < frameAt j) ∧
      ∀ i completion response, events[i]? = some (.completed completion) →
        completion.outcome.response? = some response →
        ∃ request frame envelope n k, n < k ∧ k < frameAt i ∧ frameAt i < i ∧
          events[n]? = some (.queued request) ∧
          events[k]? =
            some (.tracked ⟨request.sequence, completion.key, completion.handler⟩) ∧
          events[frameAt i]? = some (.received (.frame frame)) ∧
          AnsweredBy completion response request frame envelope ∧
          ((Turn.submitted turns).length < 2 ^ 63 →
            envelope.auth ≠ .unsolicited ∧
            response.header.ackSequence = some request.sequence ∧
            ∀ other, .queued other ∈ events →
              (other.sequence = request.sequence ↔ other.key = completion.key)) := by
  intro events
  have fresh := Multiplexer.fresh_of_start started
  have path := path_live m turns
  -- a call with a response comes before the end, and all that it rests on comes before it
  have behind : ∀ {i completion response}, events[i]? = some (.completed completion) →
      completion.outcome.response? = some response →
      ∃ request frame envelope earlier between later after,
        events = (earlier ++ .queued request :: (between ++
          .tracked ⟨request.sequence, completion.key, completion.handler⟩ ::
            (later ++ [.received (.frame frame)]))) ++ .completed completion :: after ∧
        (earlier ++ .queued request :: (between ++
          .tracked ⟨request.sequence, completion.key, completion.handler⟩ ::
            (later ++ [.received (.frame frame)]))).length = i ∧
        AnsweredBy completion response request frame envelope := by
    intro i completion response at_i answered
    obtain ⟨before, after, events_eq, length_eq⟩ := exists_append_of_getElem? at_i
    obtain ⟨rest, lived_eq⟩ := Lived.exists_of_ended events_eq answered
    obtain ⟨request, frame, envelope, earlier, between, later, rfl, answered_by⟩ :=
      path.answered_by fresh lived_eq answered
    exact ⟨request, frame, envelope, earlier, between, later, after, events_eq, length_eq,
      answered_by⟩
  -- the frame of an answer stands directly before it
  refine ⟨fun i => i - 1, ?_, ?_⟩
  · rintro i j ⟨completion, response, at_i, answered⟩ - lt
    obtain ⟨_, _, _, earlier, _, _, _, -, length_eq, -⟩ := behind at_i answered
    rw [List.length_append, List.length_cons] at length_eq
    show i - 1 < j - 1
    omega
  · intro i completion response at_i answered
    obtain ⟨request, frame, envelope, earlier, between, later, after, events_eq, length_eq,
      answered_by⟩ := behind at_i answered
    obtain ⟨n, k, n_lt, k_lt, lt, at_n, at_k, at_frame⟩ := exists_positions events_eq length_eq
    refine ⟨request, frame, envelope, n, k, n_lt, k_lt, lt, at_n, at_k, at_frame, answered_by,
      fun few => ?_⟩
    have numbered := numbered_live fresh turns few
    have queued : ∀ {other}, .queued other ∈ events →
        other.ticket ∈ Event.tickets (m.live turns).events := by
      intro other mem
      rcases List.mem_append.mp mem with mem | mem
      · exact List.mem_filterMap.mpr ⟨_, mem, rfl⟩
      · obtain ⟨_, -, same⟩ := List.mem_map.mp mem
        cases same
    have request_mem := queued (List.mem_of_getElem? at_n)
    obtain ⟨asked, acknowledges⟩ := numbered.asked request_mem answered_by.sequence
    refine ⟨asked, acknowledges, fun other mem => ?_⟩
    rw [← answered_by.key]
    constructor
    · intro same
      have eq := numbered.ticket_eq (queued mem) request_mem (.inl same)
      exact congrArg Ticket.key eq
    · intro same
      have eq := numbered.ticket_eq (queued mem) request_mem (.inr same)
      exact congrArg Ticket.sequence eq

/-! ## A drive that answers -/

section Polite

open Simulation (Drive)

/-- A drive that answers every request with success. -/
def politeDrive : Drive where
  key := [1]
  queue := [.bytes hello]
  reply := [.frame
    { auth := .pin
      command := .response {} .echo (.given .empty) (some { code := .success }) }]

def politeTurns : List (Turn Drive Nat) :=
  [.submit (.withPin [1]) {} [] (some 10), .run]

/-- The answer that a polite drive gives **acknowledges the request**. -/
theorem answers_correlate_polite :
    ∃ (m : Multiplexer Drive Nat) (i k : Nat) (completion : Completion Nat) (response : Command)
      (request : QueuedRequest Nat),
      Multiplexer.start 2 (.constant [7]) { hmacKey := [1] } politeDrive = some (.ok m) ∧
      (m.live politeTurns).ended[i]? = some (.completed completion) ∧
      completion.handler = 10 ∧ completion.outcome.response? = some response ∧ k < i ∧
      (m.live politeTurns).ended[k]? =
        some (.tracked ⟨request.sequence, completion.key, completion.handler⟩) ∧
      response.header.ackSequence = some request.sequence := by
  have check : ((Multiplexer.start 2 (.constant [7]) { hmacKey := [1] } politeDrive :
      Option (Except Failure (Multiplexer Drive Nat))).any fun started =>
      started.toOption.any fun m =>
        decide ((Event.completions (m.live politeTurns).ended).map (fun completion =>
          (completion.handler, completion.outcome.response?.isSome)) = [(10, true)])) = true := by
    decide +kernel
  obtain ⟨m, started, check⟩ := exists_started check
  have mem := of_decide_eq_true check ▸ List.mem_singleton_self (10, true)
  obtain ⟨completion, inside, same⟩ := List.mem_map.mp mem
  rw [Prod.mk.injEq] at same
  obtain ⟨handler_eq, some⟩ := same
  obtain ⟨response, answered⟩ := Option.isSome_iff_exists.mp some
  obtain ⟨event, mem, same⟩ := List.mem_filterMap.mp inside
  have same : event = .completed completion := by
    cases event <;> cases same
    rfl
  subst same
  obtain ⟨i, at_i⟩ := List.mem_iff_getElem?.mp mem
  obtain ⟨frameAt, -, correlate⟩ := answers_correlate started politeTurns
  obtain ⟨request, frame, envelope, n, k, -, k_lt, lt, -, at_k, -, -, few⟩ :=
    correlate i completion response at_i answered
  have acknowledges := (few (by decide)).2.1
  exact ⟨m, i, k, completion, response, request, started, at_i, handler_eq, answered,
    Nat.lt_trans k_lt lt, at_k, acknowledges⟩

end Polite

end DriveLink
