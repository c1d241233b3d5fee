import DriveLink.Proofs.Pipeline.Names
import DriveLink.Proofs.Session.History

/-! # No cross-talk between calls

A call that gives up leaves much behind: its request may be half written, and its answer may still
be on the way when the next call runs the connection. Still, whatever the drive has said in a call's
result it has said to the request of that very call. For the client makes up no words of the drive,
the answer to a request is found by its number, and no number is given out twice.

* `Outcome.OwnFault`, `Move.ownFault_of_unanswered` — what the client says by itself;
* `own_of_awaitOutcome`, `CallRun.mem_of_found` — where the result of a call comes from;
* `queued_by_submission` — of all requests, a call has queued its own;
* `Blocking.OwnAnswer`, `CallRun.ownAnswer` — what a call's result rests on;
* `Path.nextSequence_le`, `GaveOut.lt` — numbers only rise, and none is given out twice;
* `no_cross_talk` — all of it, in any history of a connection. -/

namespace DriveLink

variable {σ η τ : Type}

/-! ## What the client says by itself -/

/-- The client has **noticed a fault by itself**; the drive has not answered. -/
def Outcome.OwnFault (outcome : Outcome) : Prop :=
  ∃ fault text, outcome = .failed (.client fault text) none

/-- Where the client has noticed a fault by itself, a caller learns **neither a value nor what the
drive reports**. -/
theorem Outcome.OwnFault.read_eq {outcome : Outcome} (h : outcome.OwnFault) (reply : Reply) :
    ∃ status, outcome.read reply = .error status ∧ status.code.isRemote = false := by
  obtain ⟨fault, text, rfl⟩ := h
  exact ⟨_, rfl, rfl⟩

namespace Correlator

theorem ownFault_of_failAll {c : Correlator η} {fault : ClientFault} {text : String}
    {completion : Completion η} (mem : completion ∈ (c.failAll (.client fault text)).1) :
    completion.outcome.OwnFault := ⟨fault, text, outcome_of_failAll mem⟩

theorem ownFault_of_dispatch {c : Correlator η} {frame : Frame} {completion : Completion η}
    (mem : completion ∈ (c.dispatch frame).completions)
    (unanswered : completion.outcome.response? = none) : completion.outcome.OwnFault := by
  cases opened : c.openResponse frame.command with
  | error fault =>
    rw [dispatch, opened] at mem
    cases fault with
    | malformed error => exact ownFault_of_failAll mem
    | badDigest => exact ownFault_of_failAll mem
  | ok response =>
    obtain ⟨envelope, command⟩ := response
    cases answers : answeredSequence envelope command with
    | none =>
      rw [dispatch, opened] at mem
      simp only [answers] at mem
      exact ownFault_of_failAll mem
    | some sequence =>
      rw [dispatch_of_opened opened answers] at mem
      cases removed : c.outstanding.removeBySequence sequence with
      | none =>
        rw [removed] at mem
        exact absurd mem List.not_mem_nil
      | some taken =>
        rw [removed] at mem
        rw [List.mem_singleton.mp mem, Completion.response?_answer] at unanswered
        cases unanswered

/-- Whoever the end of a frame fails **without a response**, it fails by the client's own word. -/
theorem ownFault_of_accept {c : Correlator η} {outcome : ReadOutcome} {completion : Completion η}
    (mem : completion ∈ (c.accept outcome).completions)
    (unanswered : completion.outcome.response? = none) : completion.outcome.OwnFault := by
  cases outcome with
  | frame frame => exact ownFault_of_dispatch mem unanswered
  | tooLarge bytes commandLength valueLength =>
    rw [accept, dispatchTooLarge] at mem
    split at mem
    · exact ownFault_of_failAll mem
    · split at mem
      · exact absurd mem List.not_mem_nil
      · rw [List.mem_singleton.mp mem]
        exact ⟨_, _, rfl⟩
  | pending => exact absurd mem List.not_mem_nil
  | failed error => exact absurd mem List.not_mem_nil

end Correlator

section

variable [Channel σ]

/-- **Without a response, the client speaks for itself**, whatever step it is. -/
theorem Move.ownFault_of_unanswered {m m' : Multiplexer σ η} {events : List (Event η)}
    {completion : Completion η} (h : Move m events m') (mem : .completed completion ∈ events)
    (unanswered : completion.outcome.response? = none) : completion.outcome.OwnFault := by
  cases h with
  | reject dead handler =>
    exact ⟨_, _, Completion.outcome_of_failIfAny (Event.mem_of_completed_mem rfl mem)⟩
  | misfit alive prepared =>
    have outcome_eq := Completion.outcome_of_failIfAny (Event.mem_of_completed_mem rfl mem)
    rcases Outbox.status_of_prepare prepared with rfl | ⟨reason, rfl⟩
    · exact ⟨_, _, outcome_eq⟩
    · exact ⟨_, _, outcome_eq⟩
  | @release request writer channel working current write =>
    have releases := Outbox.releases_release request m.inbox
    generalize Outbox.release request m.inbox = released at releases mem
    cases releases with
    | unasked none => simp at mem
    | tracked some fresh => simp at mem
    | @refused handler some taken =>
      have same : completion = .fail request.key handler
          (.client .internalError "could not track response for request") := by simpa using mem
      rw [same]
      exact ⟨_, _, rfl⟩
  | breakOut working current write =>
    have inside := Event.mem_of_completed_mem rfl mem
    rw [Outbox.failures_eq] at inside
    exact ⟨_, _, Ticket.outcome_of_fail inside⟩
  | accept working read ends =>
    exact Correlator.ownFault_of_accept (Event.mem_of_completed_mem rfl mem) unanswered
  | breakIn working read all =>
    cases all
    exact Correlator.ownFault_of_failAll (Event.mem_of_completed_mem rfl mem)
  | _ => simp at mem

theorem Path.ownFault_of_unanswered {m m' : Multiplexer σ η} {events : List (Event η)}
    {completion : Completion η} (h : Path m events m') (mem : .completed completion ∈ events)
    (unanswered : completion.outcome.response? = none) : completion.outcome.OwnFault := by
  obtain ⟨before, after, events_eq⟩ := List.append_of_mem mem
  obtain ⟨_, _, sooner, later, _, _, -, move, -⟩ := h.exists_move events_eq
  exact move.ownFault_of_unanswered (List.mem_append_right _ (List.mem_cons_self ..)) unanswered

/-! ## Numbers only rise -/

omit [Channel σ] in
/-- A step gives out numbers **upwards**. -/
theorem Counts.nextSequence_le {m m' : Multiplexer σ η} {past events : List (Event η)}
    (h : Counts m events m') (numbered : Numbered past m)
    (few : (Event.submissions (past ++ events)).length < 2 ^ 63) :
    m.outbox.nextSequence.toInt ≤ m'.outbox.nextSequence.toInt := by
  have := numbered.sequence_nonneg
  have := numbered.sequence_le
  rw [Event.submissions_append, List.length_append] at few
  cases h with
  | still _ _ _ sequence_eq => rw [sequence_eq]
  | refuse handler one _ _ sequence_eq =>
    rw [one, List.length_singleton] at few
    rcases sequence_eq with same | next
    · rw [same]
    · rw [next, Int64.toInt_add_one numbered.sequence_nonneg (by omega)]
      omega
  | queue handler one _ _ sequence_eq =>
    rw [one, List.length_singleton] at few
    rw [sequence_eq, Int64.toInt_add_one numbered.sequence_nonneg (by omega)]
    omega

/-- **Numbers only rise**, as long as there are any. -/
theorem Path.nextSequence_le {m m' : Multiplexer σ η} {past events : List (Event η)}
    (h : Path m events m') (numbered : Numbered past m)
    (few : (Event.submissions (past ++ events)).length < 2 ^ 63) :
    m.outbox.nextSequence.toInt ≤ m'.outbox.nextSequence.toInt := by
  induction h generalizing past with
  | done m => exact Int.le_refl _
  | @step m m₁ m₂ events later move path ih =>
    rw [← List.append_assoc] at few
    have before : (Event.submissions (past ++ events)).length < 2 ^ 63 := by
      rw [Event.submissions_append, List.length_append] at few
      omega
    exact (move.counts.nextSequence_le numbered before).trans
      (ih (numbered.count move.counts before) few)

end

/-! ## Where the result of a call comes from -/

namespace Blocking

/-- What happens when a call **submits its request**. -/
def submission [Channel σ] {reply : Reply} (b : Blocking σ τ) (request : Request reply) :
    List (Event (Callback (Option τ))) :=
  (b.inner.service.turn (b.submitting request)).events

variable [Channel σ]

omit [Channel σ] in
theorem unanswered_of_refused {b : Blocking σ τ} {reply : Reply} {request : Request reply}
    {completion : Completion (Callback (Option τ))} (mem : completion ∈ b.refused request) :
    completion.outcome.response? = none := by
  unfold refused Connection.submit at mem
  simp only at mem
  cases alive : b.inner.service.failed with
  | true =>
    rw [Multiplexer.submit, if_pos alive] at mem
    exact Completion.response?_of_failIfAny mem
  | false =>
    cases prepared : b.inner.service.outbox.prepare request.envelope
        (b.inner.prepare request.command) request.value
        (if reply = .silence then none else some { reply, tag := none }) b.inner.service.nextKey
        b.inner.service.connectionId with
    | error status =>
      rw [Multiplexer.submit_of_alive alive, Outbox.enqueue, prepared] at mem
      exact Completion.response?_of_failIfAny mem
    | ok queued =>
      rw [Multiplexer.submit_of_alive alive, Outbox.enqueue, prepared] at mem
      exact absurd mem List.not_mem_nil

variable [Pollable σ]

/-- If a wait for an outcome comes to an error, **the client says so**. -/
theorem own_of_awaitOutcome {key : RequestKey} {policy : WaitPolicy} {patience : Nat}
    {readiness : Readiness} {completions : List (Completion (Callback (Option τ)))}
    {b : Blocking σ τ} {awaited : Awaited σ τ} {status : Status}
    (returned : awaitOutcome key policy patience readiness completions b = some awaited)
    (gave_up : awaited.result = .error status) : status.code.isRemote = false := by
  induction patience generalizing readiness completions b with
  | zero =>
    -- without patience there is an outcome or no result at all
    rw [awaitOutcome] at returned
    obtain ⟨outcome, -, rfl⟩ := Option.map_eq_some_iff.mp returned
    cases gave_up
  | succ patience ih =>
    cases found : outcomeOf key completions with
    | some outcome =>
      rw [awaitOutcome_of_outcome found] at returned
      cases returned
      cases gave_up
    | none =>
      -- the wait fails, or its time is up, or there is another run
      rcases waits : b.wait readiness policy.timeout with ⟨_ | _ | _, b₂⟩
      · simp only [awaitOutcome, found, waits] at returned
        cases returned
        cases gave_up
        rfl
      · simp only [awaitOutcome, found, waits] at returned
        cases returned
        cases gave_up
        rfl
      · obtain ⟨goes_on, stops⟩ := awaitOutcome_of_ready found waits patience
        cases readiness_eq : b₂.ran.readiness with
        | some readiness => exact ih ((goes_on readiness readiness_eq).symm.trans returned)
        | none =>
          rw [stops readiness_eq] at returned
          cases returned
          cases gave_up
          rfl

variable {b b₁ : Blocking σ τ} {reply : Reply} {policy : WaitPolicy} {request : Request reply}
  {timeout : Duration} {n : Nat} {done : List (Completion (Callback (Option τ)))}

/-- An outcome with a response **is found in the last run**, if it is found at all: the request has
no outcome before. -/
theorem CallRun.mem_of_found (h : CallRun b timeout request n done b₁)
    {completion : Completion (Callback (Option τ))}
    (found : (done ++ b₁.ran.completions).find? (·.key = b.inner.service.nextKey) =
      some completion) {response : Command}
    (answered : completion.outcome.response? = some response) :
    completion ∈ b₁.ran.completions := by
  rw [List.find?_append, Option.or_eq_some_iff] at found
  rcases found with sooner | ⟨-, found⟩
  · cases h with
    | first =>
      rw [unanswered_of_refused (List.mem_of_find?_eq_some sooner)] at answered
      cases answered
    | next run alive none ready =>
      rw [outcomeOf, sooner] at none
      cases none
  · exact List.mem_of_find?_eq_some found

omit [Pollable σ] in
/-- What a call queues is **its own request**, under the next names, behind all others. -/
theorem queued_by_submission {queued : QueuedRequest (Callback (Option τ))}
    (mem : .queued queued ∈ b.submission request) :
    (b.submitted request).inner.service.outbox.queue =
        b.inner.service.outbox.queue ++ [queued] ∧
      queued.key = b.inner.service.nextKey ∧
      queued.sequence = b.inner.service.outbox.nextSequence ∧
      b.inner.service.outbox.frameOf request.envelope
        (Outbox.addressed (b.inner.prepare request.command) queued.sequence
          b.inner.service.connectionId) request.value = .ok queued.frame := by
  obtain ⟨envelope, command, value, handler, turn_eq, alive, prepared⟩ :=
    Multiplexer.prepare_of_queued mem
  cases turn_eq
  have submits := Multiplexer.turn_submit_of_ok alive prepared
  have service_eq : (b.submitted request).inner.service =
      (b.inner.service.turn (b.submitting request)).service := rfl
  obtain ⟨-, frame, framed, rfl⟩ := Outbox.exists_frame_of_prepare prepared
  refine ⟨?_, rfl, rfl, framed⟩
  rw [service_eq, submitting, submits]

end Blocking

/-! ## What a call's result rests on -/

/-- **The drive has a word** in a result: it is a value, or an error that the drive reports. -/
def FromDrive {ρ : Type} (result : Except Status ρ) : Prop :=
  (∃ value, result = .ok value) ∨ ∃ status, result = .error status ∧ status.code.isRemote = true

/-- Nothing that the client says by itself **is from the drive**. -/
theorem not_fromDrive_of_own {ρ : Type} {result : Except Status ρ} {status : Status}
    (result_eq : result = .error status) (own : status.code.isRemote = false) :
    ¬ FromDrive result := by
  rintro (⟨value, rfl⟩ | ⟨remote, rfl, code⟩)
  · cases result_eq
  · cases result_eq
    rw [own] at code
    cases code

namespace Blocking

variable [Channel σ] [Pollable σ] {b b₁ : Blocking σ τ} {reply : Reply} {policy : WaitPolicy}
  {request : Request reply}

/-- **A call rests on its own answer**: in one of its runs a frame was dispatched that acknowledges
the request which the call itself has queued, and the result is what that frame says. -/
structure OwnAnswer (b : Blocking σ τ) (policy : WaitPolicy) (request : Request reply)
    (called : Called σ τ reply.Result) (queued : QueuedRequest (Callback (Option τ)))
    (frame : Frame) (envelope : Envelope) (response : Command) : Prop where
  /-- The request stands behind all that were queued before, under the next names. -/
  queue_eq : (b.submitted request).inner.service.outbox.queue =
    b.inner.service.outbox.queue ++ [queued]
  key_eq : queued.key = b.inner.service.nextKey
  sequence_eq : queued.sequence = b.inner.service.outbox.nextSequence
  framed : b.inner.service.outbox.frameOf request.envelope
    (Outbox.addressed (b.inner.prepare request.command) queued.sequence
      b.inner.service.connectionId) request.value = .ok queued.frame
  /-- In a run of this call, the frame came in and its handler was called. -/
  dispatched : ∃ n done b₁ before completion after, b.CallRun policy.timeout request n done b₁ ∧
    b₁.ran.events = before ++ .received (.frame frame) :: .completed completion :: after ∧
    completion.key = queued.key ∧ queued.handler = some completion.handler
  decoded : Envelope.decode frame.command = .ok envelope
  inner : envelope.inner = .ok response
  asked : envelope.auth ≠ .unsolicited
  acknowledges : response.header.ackSequence = some queued.sequence
  result : called.result =
    if response.isSuccess then reply.decode response frame.value
    else .error (.ofResponse response)

/-- A call whose result is from the drive **has an outcome**, found under its key in its last
run. -/
theorem exists_found_of_fromDrive {waits : Nat} {called : Called σ τ reply.Result}
    (returned : b.callWith waits policy request = some called)
    (fromDrive : FromDrive called.result) :
    ∃ n done b₁ completion, b.CallRun policy.timeout request n done b₁ ∧
      (done ++ b₁.ran.completions).find? (·.key = b.inner.service.nextKey) = some completion ∧
      called.result = completion.outcome.read reply := by
  rw [callWith_eq] at returned
  obtain ⟨awaited, awaits, rfl⟩ := Option.map_eq_some_iff.mp returned
  cases CallRun.first.ends (.inl rfl) awaits with
  | @answered n done b₁ outcome run alive found =>
    obtain ⟨completion, first, rfl⟩ := Option.map_eq_some_iff.mp found
    exact ⟨n, done, b₁, completion, run, first, rfl⟩
  | gaveUp givesUp completions status =>
    have own := own_of_awaitOutcome awaits rfl
    exact absurd fromDrive (not_fromDrive_of_own rfl own)

/-- What a request comes to that **is answered** with a response. -/
theorem read_of_answeredBy {η : Type} {completion : Completion η} {response : Command}
    {queued : QueuedRequest η} {frame : Frame} {envelope : Envelope}
    (h : AnsweredBy completion response queued frame envelope) (reply : Reply) :
    completion.outcome.read reply =
      if response.isSuccess then reply.decode response frame.value
      else .error (.ofResponse response) := by
  rw [h.outcome]
  by_cases success : response.isSuccess = true
  · rw [if_pos success, if_pos success]
    rfl
  · rw [if_neg success, if_neg success]
    rfl

omit [Pollable σ] in
/-- Up to the end of a call, a request under the call's key is **the one that the call queues**:
none has the key before, and no run queues anything. -/
theorem queued_of_key {past behind : List (Event (Callback (Option τ)))}
    (numbered : Numbered past b.inner.service) (inRun : ∀ event ∈ behind, event.InRun)
    {queued : QueuedRequest (Callback (Option τ))}
    (mem : .queued queued ∈ past ++ (b.submission request ++ behind))
    (key_eq : queued.key = b.inner.service.nextKey) : .queued queued ∈ b.submission request := by
  rcases List.mem_append.mp mem with old | mem
  · have known : queued.ticket ∈ Event.tickets past := List.mem_filterMap.mpr ⟨_, old, rfl⟩
    have key_lt := (numbered.bounded _ known).2.2
    have same : queued.ticket.key = b.inner.service.nextKey := key_eq
    rw [same] at key_lt
    exact absurd key_lt (Nat.lt_irrefl _)
  · rcases List.mem_append.mp mem with own | mem
    · exact own
    · cases inRun _ mem

/-- **All that has ever happened** up to the end of a run of a call: what was before, the submission
of one request, and what may happen in runs. -/
theorem CallRun.exists_behind {m : Multiplexer σ (Callback (Option τ))}
    {past : List (Event (Callback (Option τ)))} (so_far : Path m past b.inner.service) {n : Nat}
    {done : List (Completion (Callback (Option τ)))}
    (run : b.CallRun policy.timeout request n done b₁) :
    ∃ behind, (∀ event ∈ behind, event.InRun) ∧
      Path m (past ++ (b.submission request ++ (behind ++ b₁.ran.events))) b₁.ran.service ∧
      (Event.submissions (past ++ (b.submission request ++ (behind ++ b₁.ran.events)))).length =
        (Event.submissions past).length + 1 := by
  obtain ⟨behind, waited, inRun⟩ := run.path_behind
  have submits := path_turn b.inner.service (b.submitting request)
  refine ⟨behind, inRun, so_far.trans (submits.trans (waited.trans (path_run _))), ?_⟩
  have one : (Event.submissions (b.submission request)).length = 1 := by
    rw [← List.length_map, submission, submissions_turn]
    rfl
  have none : Event.submissions b₁.ran.events = [] := submissions_run _
  simp only [Event.submissions_append, List.length_append, submissions_of_inRun inRun, one, none,
    List.length_nil]

/-- On a connection whose numbers are counted, a call whose handler is called with a response
**rests on its own answer**. -/
theorem CallRun.ownAnswer {m : Multiplexer σ (Callback (Option τ))} (fresh : m.Fresh)
    {past : List (Event (Callback (Option τ)))} (so_far : Path m past b.inner.service)
    (few : (Event.submissions past).length + 1 < 2 ^ 63) {n : Nat}
    {done : List (Completion (Callback (Option τ)))}
    (run : b.CallRun policy.timeout request n done b₁)
    {completion : Completion (Callback (Option τ))} (mem : completion ∈ b₁.ran.completions)
    (own : completion.key = b.inner.service.nextKey) {response : Command}
    (answered : completion.outcome.response? = some response)
    {called : Called σ τ reply.Result}
    (result_eq : called.result = completion.outcome.read reply) :
    ∃ queued frame envelope, b.OwnAnswer policy request called queued frame envelope response := by
  obtain ⟨before, after, events_eq⟩ := List.append_of_mem (Event.mem_completions.mp mem)
  obtain ⟨behind, inRun, whole, length_eq⟩ := run.exists_behind so_far
  have numbered := whole.numbered fresh.numbered (length_eq ▸ few)
  have split : past ++ (b.submission request ++ (behind ++ b₁.ran.events)) =
      (past ++ (b.submission request ++ (behind ++ before))) ++ .completed completion :: after := by
    rw [events_eq]
    simp only [List.append_assoc]
  obtain ⟨queued, frame, envelope, earlier, between, later, before_eq, answeredBy⟩ :=
    whole.answered_by fresh split answered
  -- the request has the key of the call, so that it is the one that the call has queued
  have queued_mem : .queued queued ∈ past ++ (b.submission request ++ (behind ++ before)) := by
    rw [before_eq]
    exact List.mem_append_right _ (List.mem_cons_self ..)
  have inside : ∀ event ∈ behind ++ before, event.InRun := by
    intro event mem
    rcases List.mem_append.mp mem with mem | mem
    · exact inRun event mem
    · refine inRun_run b₁.inner.service event ?_
      show event ∈ b₁.ran.events
      rw [events_eq]
      exact List.mem_append_left _ mem
  have counted := so_far.numbered fresh.numbered (Nat.lt_of_succ_lt few)
  obtain ⟨queue_eq, key_eq, sequence_eq, framed⟩ := queued_by_submission
    (queued_of_key counted inside queued_mem (answeredBy.key.trans own))
  have known : queued.ticket ∈
      Event.tickets (past ++ (b.submission request ++ (behind ++ b₁.ran.events))) := by
    rw [split]
    exact List.mem_filterMap.mpr ⟨_, List.mem_append_left _ queued_mem, rfl⟩
  obtain ⟨asked, acknowledges⟩ := numbered.asked known answeredBy.sequence
  -- the frame came in directly before the handler was called, in the same run
  obtain ⟨sooner, _, frame', _, -, rfl, -, -⟩ :=
    (path_run b₁.inner.service).opened_by events_eq answered
  obtain rfl : frame' = frame := by
    simp only [← List.append_assoc, ← List.cons_append] at before_eq
    cases List.append_inj_right' before_eq rfl
    rfl
  refine ⟨queued, frame', envelope, queue_eq, key_eq, sequence_eq, framed, ?_, answeredBy.decoded,
    answeredBy.inner, asked, acknowledges, ?_⟩
  · refine ⟨n, done, b₁, sooner, completion, after, run, ?_, answeredBy.key.symm,
      answeredBy.handler⟩
    rw [events_eq, List.append_assoc]
    rfl
  · rw [result_eq, read_of_answeredBy answeredBy]

/-! ## Numbers of a history -/

/-- Among what has been done with a connection, **a request was submitted**, and this was the next
number then. -/
def GaveOut (may : σ → σ → Prop) (start : Blocking σ τ) (deeds : List Deed) (b : Blocking σ τ)
    (number : Int64) : Prop :=
  ∃ earlier deed later b₀ b₁, deeds = earlier ++ deed :: later ∧ deed.submits = true ∧
    History may start earlier b₀ ∧ Does may b₀ deed b₁ ∧ History may b₁ later b ∧
    number = b₀.inner.service.outbox.nextSequence

/-- As long as a connection is alive, all numbers that were given out **are used up**. -/
theorem GaveOut.lt {may : σ → σ → Prop} {start : Blocking σ τ} {deeds : List Deed} {number : Int64}
    (h : GaveOut may start deeds b number) (fresh : start.inner.service.Fresh)
    (few : Deed.submissions deeds < 2 ^ 63) (alive : b.inner.service.failed = false) :
    number.toInt < b.inner.service.outbox.nextSequence.toInt := by
  obtain ⟨earlier, deed, later, b₀, b₁, rfl, submits, past, does, rest, rfl⟩ := h
  obtain ⟨_, path, one⟩ := past.path
  obtain ⟨_, step, length_eq⟩ := does.path
  obtain ⟨_, behind, rest_eq⟩ := rest.path
  rw [if_pos submits] at length_eq
  rw [Deed.submissions_append, Deed.submissions_cons, if_pos submits] at few
  have alive₀ : b₀.inner.service.failed = false := by
    by_contra dead
    have dies := (step.trans behind).failed (Bool.not_eq_false _ ▸ dead)
    rw [alive] at dies
    cases dies
  have numbered := path.numbered fresh.numbered (by omega)
  have numbered₁ := (path.trans step).numbered fresh.numbered (by
    rw [Event.submissions_append, List.length_append]
    omega)
  have rises := behind.nextSequence_le numbered₁ (by
    rw [Event.submissions_append, Event.submissions_append, List.length_append, List.length_append]
    omega)
  have := numbered.sequence_le
  rw [does.nextSequence_eq submits alive₀,
    Int64.toInt_add_one numbered.sequence_nonneg (by omega)] at rises
  omega

/-- A call that rests on its own answer is made on a connection that is **alive**. -/
theorem OwnAnswer.alive {called : Called σ τ reply.Result}
    {queued : QueuedRequest (Callback (Option τ))} {frame : Frame} {envelope : Envelope}
    {response : Command} (h : b.OwnAnswer policy request called queued frame envelope response) :
    b.inner.service.failed = false := by
  obtain ⟨n, done, b₁, before, completion, after, run, events_eq, -, -⟩ := h.dispatched
  by_contra dead
  obtain ⟨_, path, -, -⟩ := run.path
  have dies := path.failed (Bool.not_eq_false _ ▸ dead)
  rw [ran, Multiplexer.run_of_failed dies] at events_eq
  simp at events_eq

end Blocking

open Blocking in
/-- **No cross-talk between calls.** Let a connection be started, with whatever channel, and let its
owner make calls that end in whatever way, submit requests that nobody waits for, run the connection
and take requests back, while the channel changes as it likes. Whenever a call then comes to a
value, or to an error that the drive reports, a frame was dispatched in a run of this very call
which acknowledges the request that this very call has queued, and the result is what that frame
says. That frame acknowledges none of the numbers that were given out before, whatever has become of
the requests under them. -/
theorem no_cross_talk [Channel σ] [Pollable σ] {patience : Nat} {signer : Signer}
    {options : Options} {s : σ} {c : Connection σ (Option τ)}
    (started : Connection.start patience signer options s = some (.ok c))
    {networkTimeout : Duration} {deeds : List Deed} {b : Blocking σ τ}
    (history : History (fun _ _ => True) (.ofConnection c networkTimeout) deeds b)
    (few : Deed.submissions deeds + 1 < 2 ^ 63) {reply : Reply} {policy : WaitPolicy}
    {request : Request reply} {waits : Nat} {called : Called σ τ reply.Result}
    (returned : b.callWith waits policy request = some called)
    (fromDrive : FromDrive called.result) :
    ∃ queued frame envelope response,
      b.OwnAnswer policy request called queued frame envelope response ∧
      ∀ number, GaveOut (fun _ _ => True) (.ofConnection c networkTimeout) deeds b number →
        response.header.ackSequence ≠ some number := by
  have fresh := Multiplexer.fresh_of_start (Connection.service_of_start started)
  obtain ⟨past, so_far, length_eq⟩ := history.path
  obtain ⟨n, done, b₁, completion, run, found, result_eq⟩ :=
    exists_found_of_fromDrive returned fromDrive
  have own : completion.key = b.inner.service.nextKey := by
    have matching := List.find?_some found
    exact of_decide_eq_true matching
  cases answered : completion.outcome.response? with
  | none =>
    -- then the client has failed the request by itself
    obtain ⟨events, path, completions_eq, -⟩ := run.path
    have whole := path.trans (path_run b₁.inner.service)
    have mem : .completed completion ∈ events ++ b₁.inner.service.run.events := by
      rw [← Event.mem_completions, Event.completions_append, completions_eq]
      exact List.mem_of_find?_eq_some found
    obtain ⟨status, read_eq, client⟩ :=
      (whole.ownFault_of_unanswered mem answered).read_eq reply
    exact absurd fromDrive (not_fromDrive_of_own (result_eq.trans read_eq) client)
  | some response =>
    obtain ⟨queued, frame, envelope, answer⟩ := run.ownAnswer fresh so_far (length_eq ▸ few)
      (run.mem_of_found found answered) own answered result_eq
    refine ⟨queued, frame, envelope, response, answer, fun number gaveOut same => ?_⟩
    have lt := gaveOut.lt fresh (Nat.lt_of_succ_lt few) answer.alive
    rw [answer.acknowledges, answer.sequence_eq] at same
    cases same
    exact Int.lt_irrefl _ lt

/-! ## An answer that comes too late -/

section Belated

open Simulation (Drive)

/-- A drive that takes only a little of the first request at first. Once it has all of it, it
reports that something is not found, and to the second request it reports success. -/
def belatedDrive : Drive where
  key := [1]
  queue := [.bytes hello]
  writes := [.upTo 5, .block]
  replies := [[.frame
      { auth := .pin
        command := .response {} .echo (.given .empty) (some { code := .notFound }) }],
    [.frame
      { auth := .pin
        command := .response {} .echo (.given .empty) (some { code := .success }) }]]

/-- Not to wait at all. -/
def hastyPolicy : WaitPolicy := ⟨⟨0⟩, .networkTimeout⟩

open Blocking in
/-- A call gives up while its request is half written. The next call writes the rest of it, hears
the answer to it in its own first run, and **returns its own answer**. -/
theorem no_cross_talk_belated :
    ∃ (c : Connection Drive (Option Nat))
      (first second : Called Drive Nat Reply.acknowledgement.Result),
      Connection.start 2 (.constant [7]) { hmacKey := [1] } belatedDrive = some (.ok c) ∧
      (ofConnection c (.seconds 1)).callWith 1 hastyPolicy Request.noOp = some first ∧
      errorIn first.result = some (.client .networkTimeout "no response within 0ns") ∧
      first.connection.inner.service.outbox.current.isSome = true ∧
      first.connection.callWith 0 noOpPolicy Request.noOp = some second ∧
      second.completions.map Completion.key = [0, 1] ∧
      second.result = .ok () ∧
      ∃ queued frame envelope response,
        first.connection.OwnAnswer noOpPolicy Request.noOp second queued frame envelope response ∧
        queued.sequence = 1 ∧ response.header.ackSequence ≠ some 0 := by
  have check : ((Connection.start 2 (.constant [7]) { hmacKey := [1] } belatedDrive :
      Option (Except Failure (Connection Drive (Option Nat)))).any fun started =>
      started.toOption.any fun c =>
        ((ofConnection c (.seconds 1)).callWith 1 hastyPolicy Request.noOp).any fun first =>
          (first.connection.callWith 0 noOpPolicy Request.noOp).any fun second =>
            decide (c.service.outbox.nextSequence = 0 ∧
              errorIn first.result =
                some (.client .networkTimeout "no response within 0ns") ∧
              first.connection.inner.service.outbox.nextSequence = 1 ∧
              first.connection.inner.service.outbox.current.isSome = true ∧
              second.completions.map Completion.key = [0, 1] ∧
              second.result.toOption.isSome = true)) = true := by
    decide +kernel
  obtain ⟨c, started, check⟩ := exists_started check
  obtain ⟨first, calls, check⟩ := (Option.any_eq_true _ _).mp check
  obtain ⟨second, calls', check⟩ := (Option.any_eq_true _ _).mp check
  obtain ⟨number, gives_up, next, half, keys, fine⟩ := of_decide_eq_true check
  obtain ⟨value, some⟩ := Option.isSome_iff_exists.mp fine
  have result_eq : second.result = .ok () := eq_ok_of_toOption some
  have history : History (fun _ _ => True) (ofConnection c (.seconds 1)) [.call]
      first.connection := (Does.call calls).history
  obtain ⟨queued, frame, envelope, response, answer, other⟩ :=
    no_cross_talk started history (by decide) calls' (.inl ⟨(), result_eq⟩)
  refine ⟨c, first, second, started, calls, gives_up, half, calls', keys, result_eq, queued, frame,
    envelope, response, answer, answer.sequence_eq.trans next, ?_⟩
  exact other 0 ⟨[], .call, [], _, _, rfl, rfl, .nil _, .call calls, .nil _, number.symm⟩

end Belated

end DriveLink
