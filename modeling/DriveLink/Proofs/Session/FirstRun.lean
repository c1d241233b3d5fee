import DriveLink.Proofs.Pipeline.Blame
import DriveLink.Proofs.Session.Unanswered

/-! # When the first run of a call fails

Behind its first run a call looks for its outcome, and only then whether the connection is alive: a
run that finds the connection dead, or in which it dies, is taken to have called the handler of the
call. So it has if the request was refused, or if it was out when the connection died. But requests
are written before anything is read. Where the channel does not take all that is to be written, the
request of the call still stands in the outbox when the read behind it fails, and a failed read
fails only those requests that are out. Then the call waits, on a connection that is dead.

* `Multiplexer.submit_cases` — a request is refused, or stands behind all others;
* `Blocking.Stalls` — when the first run of a call stops before its request is out;
* `Blocking.vain`, `awaitOutcome_of_dead` — what waiting on a dead connection comes to;
* `failed_first_run` — what a first run that fails has done for the call. -/

namespace DriveLink

/-! ## Submitting -/

/-- The last of some things is among **any that stand at the end**. -/
theorem mem_of_concat_eq_append {α : Type} {init out rest : List α} {last : α}
    (h : init ++ [last] = out ++ rest) (some : rest ≠ []) : last ∈ rest := by
  obtain rfl | ⟨before, other, rfl⟩ := rest.eq_nil_or_concat'
  · exact absurd rfl some
  · rw [← List.append_assoc] at h
    obtain rfl := List.singleton_inj.mp (List.append_inj' h rfl).2
    exact List.mem_append_right _ (List.mem_singleton_self _)

/-- **A request that is submitted** with a handler is refused at once, or stands behind all others
that are not entirely written. -/
theorem Multiplexer.submit_cases {σ η : Type} (m : Multiplexer σ η) (envelope : Envelope)
    (command : Command) (value : Bytes) (handler : η) :
    (∃ status, (m.submit envelope command value (some handler)).2.1 =
      [.fail m.nextKey handler status]) ∨
    ((m.submit envelope command value (some handler)).2.1 = [] ∧
      (m.submit envelope command value (some handler)).2.2.failed = false ∧
      ∃ sequence, (m.submit envelope command value (some handler)).2.2.transit.unsent =
        m.transit.unsent ++ [⟨sequence, m.nextKey, some handler⟩]) := by
  cases alive : m.failed with
  | true =>
    rw [submit, if_pos alive]
    exact .inl ⟨_, rfl⟩
  | false =>
    rw [submit_of_alive alive, Outbox.enqueue]
    cases prepared :
        m.outbox.prepare envelope command value (some handler) m.nextKey m.connectionId with
    | error status => exact .inl ⟨status, rfl⟩
    | ok request =>
      obtain ⟨-, frame, -, rfl⟩ := Outbox.exists_frame_of_prepare prepared
      refine .inr ⟨rfl, alive, m.outbox.nextSequence, ?_⟩
      show _ ++ List.map _ (m.outbox.queue ++ [_]) = _
      rw [List.map_append, ← List.append_assoc]
      rfl

namespace Blocking

variable {σ τ : Type} [Channel σ] {reply : Reply} {b : Blocking σ τ} {request : Request reply}

/-- The first run of a call **stops before its request is out**: the request is not refused, and the
channel does not take all that is to be written. -/
def Stalls (b : Blocking σ τ) (request : Request reply) : Prop :=
  b.refused request = [] ∧ (b.submitted request).inner.service.writes.activity = .waiting

omit [Channel σ] in
/-- **The request of a call** is refused at once, or stands behind all others that are not entirely
written. -/
theorem refused_cases (b : Blocking σ τ) (request : Request reply) (asked : reply ≠ .silence) :
    (∃ status, b.refused request = [.fail b.inner.service.nextKey ⟨reply, none⟩ status]) ∨
    (b.refused request = [] ∧ (b.submitted request).inner.service.failed = false ∧
      ∃ sequence, (b.submitted request).inner.service.transit.unsent =
        b.inner.service.transit.unsent ++
          [⟨sequence, b.inner.service.nextKey, some ⟨reply, none⟩⟩]) := by
  unfold refused submitted Connection.submit
  simp only [if_neg asked]
  exact b.inner.service.submit_cases _ _ _ _

variable [Pollable σ]

/-! ## Waiting on a dead connection -/

/-- What a call comes to that waits **on a dead connection**: no run behind the wait changes
anything. -/
def vain (b : Blocking σ τ) (policy : WaitPolicy) : Status :=
  match (b.wait .forRead policy.timeout).1 with
  | .error error => .client .ioError ("wait failed: " ++ error.message)
  | .ok false => .client policy.onTimeout ("no response within " ++ policy.timeout.text)
  | .ok true => .client .connectionFailed "connection failed"

theorem awaitOutcome_of_dead (b : Blocking σ τ) (policy : WaitPolicy) {key : RequestKey}
    {completions : List (Completion (Callback (Option τ)))}
    (none : outcomeOf key completions = none) (dead : b.inner.service.failed = true)
    (waits : Nat) :
    ∃ awaited, awaitOutcome key policy (waits + 1) .forRead completions b = some awaited ∧
      awaited.result = .error (b.vain policy) := by
  unfold vain
  rcases waited : b.wait .forRead policy.timeout with ⟨_ | _ | _, b₂⟩
  · rw [awaitOutcome, none]
    simp only [waited]
    exact ⟨_, rfl, rfl⟩
  · rw [awaitOutcome, none]
    simp only [waited]
    exact ⟨_, rfl, rfl⟩
  · have ended : b₂.ran.readiness = Option.none := by
      have still : b₂.inner.service.failed = true := by
        have same : (b.wait .forRead policy.timeout).2 = b₂ := congrArg Prod.snd waited
        rw [← same]
        exact dead
      exact congrArg Ran.readiness (Multiplexer.run_of_failed still)
    rw [(awaitOutcome_of_ready none waited waits).2 ended]
    exact ⟨_, rfl, rfl⟩

/-! ## What the first run does -/

section FirstRun

variable {m : Multiplexer σ (Callback (Option τ))} {turns : List (Turn σ (Callback (Option τ)))}

omit [Pollable σ] in
/-- The submission of a call is **one more turn** in the life of its connection. -/
theorem service_submitted (state : b.inner.service = (m.live turns).service)
    (request : Request reply) :
    (b.submitted request).inner.service = (m.live (turns ++ [b.submitting request])).service := by
  rw [Multiplexer.live_concat, ← state]
  rfl

omit [Pollable σ] in
/-- **A first run that stalls** has not called the handler of the call, and its request still stands
in the outbox. -/
theorem unsent_of_stalls (fresh : m.Fresh) (coherent : m.Coherent)
    (state : b.inner.service = (m.live turns).service)
    (few : (Turn.submitted turns).length + 1 < 2 ^ 63) (asked : reply ≠ .silence)
    (stalls : b.Stalls request) :
    outcomeOf b.inner.service.nextKey
        (b.refused request ++ (b.submitted request).ran.completions) = none ∧
      ∃ ticket ∈ (b.submitted request).ran.service.transit.unsent,
        ticket.key = b.inner.service.nextKey ∧ ticket.handler = some ⟨reply, none⟩ := by
  obtain ⟨unrefused, waits⟩ := stalls
  obtain ⟨status, refused⟩ | ⟨-, alive, sequence, unsent_eq⟩ :=
    b.refused_cases request asked
  · rw [unrefused] at refused
    cases refused
  have service_eq := service_submitted state request
  have few : (Turn.submitted (turns ++ [b.submitting request])).length < 2 ^ 63 := by
    rw [Turn.submitted_append, List.length_append]
    exact few
  have works : (b.submitted request).inner.service.writes.activity ≠ .failed := by
    rw [waits]
    decide
  rw [service_eq] at alive works
  have spares := Multiplexer.sparesUnsent_of_writesWork fresh (coherent.live _) alive works
  rw [← service_eq] at spares
  -- the request is the last one, and some request is left
  obtain ⟨out, left_eq⟩ := Outbox.exists_out_of_send (b.submitted request).inner.service.outbox
    (b.submitted request).inner.service.inbox (b.submitted request).inner.service.channel
  have some_left : (b.submitted request).inner.service.writes.outbox.unsent ≠ [] := by
    obtain ⟨current, current_eq⟩ := Option.isSome_iff_exists.mp (Outbox.current_of_send waits)
    rw [Multiplexer.writes, Outbox.unsent, current_eq]
    exact List.cons_ne_nil _ _
  have left : (⟨sequence, b.inner.service.nextKey, some ⟨reply, none⟩⟩ : Ticket _) ∈
      (b.submitted request).ran.service.transit.unsent := by
    show _ ∈ (b.submitted request).inner.service.run.service.outbox.unsent
    rw [spares.outbox]
    exact mem_of_concat_eq_append (unsent_eq.symm.trans left_eq) some_left
  refine ⟨?_, _, left, rfl, rfl⟩
  rw [unrefused, List.nil_append, outcomeOf, Option.map_eq_none_iff, List.find?_eq_none]
  intro completion mem own
  exact (spares.quiet few).2 completion mem _ left (of_decide_eq_true own)

/-- **A first run that fails and does not stall** has called the handler of the call. -/
theorem exists_called_of_not_stalls (fresh : m.Fresh) (coherent : m.Coherent)
    (state : b.inner.service = (m.live turns).service) (asked : reply ≠ .silence)
    (dead : (b.submitted request).ran.readiness = none) (goes : ¬ b.Stalls request) :
    ∃ outcome, ⟨b.inner.service.nextKey, ⟨reply, none⟩, outcome⟩ ∈
      b.refused request ++ (b.submitted request).ran.completions := by
  obtain ⟨status, refused⟩ | ⟨unrefused, alive, sequence, unsent_eq⟩ :=
    b.refused_cases request asked
  · rw [refused]
    exact ⟨_, List.mem_cons_self ..⟩
  have service_eq := service_submitted state request
  have coherent := coherent.live (turns ++ [b.submitting request])
  rw [service_eq] at alive
  by_cases fails : (m.live (turns ++ [b.submitting request])).service.writes.activity = .failed
  · -- whoever is not out fails, and the request of the call is the last of them
    obtain ⟨error, out, failing, breaks⟩ :=
      Multiplexer.breaksOut_of_writeFails fresh coherent alive fails
    obtain ⟨before, ticket, bytes, first, events_eq, -, -⟩ := breaks.events
    rw [← service_eq] at breaks events_eq
    have last := mem_of_concat_eq_append (unsent_eq.symm.trans breaks.unsent)
      (fun none => by rw [none] at first; cases first)
    have fails_own : ∃ status, .completed (.fail b.inner.service.nextKey ⟨reply, none⟩ status) ∈
        (b.submitted request).inner.service.run.events := by
      rw [events_eq]
      exact ⟨_, List.mem_append_right _ (List.mem_cons_of_mem _ (List.mem_map_of_mem
        (List.mem_flatMap.mpr ⟨_, last, List.mem_singleton_self _⟩)))⟩
    obtain ⟨status, failed⟩ := fails_own
    exact ⟨_, List.mem_append_right _ (Event.mem_completions.mpr failed)⟩
  · have reads : (m.live (turns ++ [b.submitting request])).service.reads.activity = .failed := by
      by_contra works
      rw [ran, service_eq, Multiplexer.run_of_writesWork coherent alive fails, if_neg works] at dead
      cases dead
    obtain ⟨error, received⟩ := Inbox.exists_failed_of_activity _ _ _ reads
    have breaks := Multiplexer.breaksIn_of_received fresh coherent alive fails received
    rw [← service_eq] at breaks fails
    -- nothing is left to write, and nobody waits any more
    have idle : (b.submitted request).inner.service.writes.activity = .idle := by
      cases activity : (b.submitted request).inner.service.writes.activity with
      | idle => rfl
      | waiting => exact absurd ⟨unrefused, activity⟩ goes
      | failed => exact absurd activity fails
    obtain ⟨-, free, drained⟩ := Outbox.nothing_of_send idle
    have nobody : (b.submitted request).ran.service.transit.tickets = [] := by
      show (b.submitted request).inner.service.run.service.transit.awaiting ++
        (b.submitted request).inner.service.run.service.outbox.unsent = []
      rw [breaks.dead.1, breaks.spares.outbox, Multiplexer.writes, Outbox.unsent, free, drained]
      rfl
    have run : b.CallRun ⟨0⟩ request 0 (b.refused request) (b.submitted request) := .first
    refine (run.called_or_held asked).resolve_right fun held => ?_
    rw [nobody] at held
    exact absurd held (Multiset.notMem_zero _)

/-- In a call no two completions have the same key, so that the outcome of its request is **the one
that is found**. -/
theorem CallRun.outcomeOf_eq (fresh : m.Fresh) (state : b.inner.service = (m.live turns).service)
    (few : (Turn.submitted turns).length + 1 < 2 ^ 63) {timeout : Duration} {n : Nat}
    {done : List (Completion (Callback (Option τ)))} {b' : Blocking σ τ}
    (run : b.CallRun timeout request n done b') {completion : Completion (Callback (Option τ))}
    (mem : completion ∈ done ++ b'.ran.completions) :
    outcomeOf completion.key (done ++ b'.ran.completions) = some completion.outcome := by
  obtain ⟨events, path, completions_eq, one⟩ := run.path
  have whole := (state ▸ path_live m turns).trans (path.trans (path_run b'.inner.service))
  have bounded : (Event.submissions ((m.live turns).events ++
      (events ++ b'.inner.service.run.events))).length < 2 ^ 63 := by
    rw [Event.submissions_append, Event.submissions_append, submissions_run, List.length_append,
      List.length_append, length_submissions_live, one, List.length_nil]
    exact few
  have nodup := whole.nodup_completions fresh (whole.numbered fresh.numbered bounded)
  rw [Event.completions_append, Event.completions_append, completions_eq, List.map_append,
    List.nodup_append] at nodup
  exact outcomeOf_eq_some nodup.2.1 mem

end FirstRun

end Blocking

/-! ## What the call comes to -/

open Blocking in
/-- **What a first run that fails has done for its call.** In whatever state a connection is that
was started, with whatever requests under way, let the first run of a call find the connection dead,
or be the one in which it dies. Unless the run stops before the request of the call is out, it has
called the handler of the call by then, and the call returns what the handler was called with, at
once and without a wait. If it does stop, the handler has not been called and the request still
stands in the outbox; then the call waits for bytes, and returns that the wait was in vain. -/
theorem failed_first_run {σ τ : Type} [Channel σ] [Pollable σ] {patience : Nat} {signer : Signer}
    {options : Options} {s : σ} {m : Multiplexer σ (Callback (Option τ))}
    (started : Multiplexer.start patience signer options s = some (.ok m))
    (turns : List (Turn σ (Callback (Option τ))))
    (few : (Turn.submitted turns).length + 1 < 2 ^ 63) {b : Blocking σ τ}
    (state : b.inner.service = (m.live turns).service) {reply : Reply} (asked : reply ≠ .silence)
    (policy : WaitPolicy) (request : Request reply)
    (dead : (b.submitted request).ran.readiness = none) :
    let submitted := b.submitted request
    let done := b.refused request ++ submitted.ran.completions
    let key := b.inner.service.nextKey
    (¬ b.Stalls request → ∃ outcome, ⟨key, ⟨reply, none⟩, outcome⟩ ∈ done ∧
      ∀ waits, b.callWith waits policy request =
        some ⟨outcome.read reply, done, submitted.afterRun.releaseSource⟩) ∧
    (b.Stalls request → (∀ completion ∈ done, completion.key ≠ key) ∧
      (∃ ticket ∈ submitted.ran.service.transit.unsent,
        ticket.key = key ∧ ticket.handler = some ⟨reply, none⟩) ∧
      b.callWith 0 policy request = none ∧
      ∀ waits, ∃ called, b.callWith (waits + 1) policy request = some called ∧
        called.result = .error (submitted.afterRun.vain policy)) := by
  intro submitted done key
  have fresh := Multiplexer.fresh_of_start started
  have coherent := Multiplexer.coherent_of_start started
  constructor
  · intro goes
    obtain ⟨outcome, called⟩ := exists_called_of_not_stalls fresh coherent state asked dead goes
    have run : b.CallRun policy.timeout request 0 (b.refused request) submitted := .first
    have found := run.outcomeOf_eq fresh state few called
    refine ⟨outcome, called, fun waits => ?_⟩
    rw [callWith_eq, awaitOutcome_of_outcome found]
    rfl
  · intro stalls
    obtain ⟨none, unsent⟩ := unsent_of_stalls fresh coherent state few asked stalls
    have uncalled : ∀ completion ∈ done, completion.key ≠ key := by
      rw [outcomeOf, Option.map_eq_none_iff, List.find?_eq_none] at none
      exact fun completion mem own => none completion mem (decide_eq_true own)
    refine ⟨uncalled, unsent, ?_, fun waits => ?_⟩
    · rw [callWith_eq, awaitOutcome, none]
      rfl
    · rw [callWith_eq, dead]
      obtain ⟨awaited, awaits, result_eq⟩ := awaitOutcome_of_dead submitted.afterRun policy none
        (Multiplexer.failed_of_readiness dead) waits
      refine ⟨finish reply awaited, ?_, ?_⟩
      · rw [Option.getD_none, awaits]
        rfl
      · rw [finish, result_eq]

/-! ## Two connections that die under a call -/

section Deserting

open Simulation (Drive)

/-- The channel **fails to take** anything more. -/
def deafTurns : List (Turn Drive (Callback (Option Nat))) :=
  [.elapse { key := [1], writes := [.fail "gone"] }]

/-- A request waits for its answer when the channel **fails to be read** and takes nothing more. -/
def desertedTurns : List (Turn Drive (Callback (Option Nat))) :=
  [.submit .hmac {} [] (some ⟨.acknowledgement, some 10⟩), .run,
    .elapse
      { key := [1], source := some { behaviour := .silent }, writes := [.block],
        failReads := some "gone" }]

/-- A call whose request cannot be written says so at once. One whose request still stands in the
outbox when the connection dies **waits for the full time**. -/
theorem failed_first_run_deserted :
    ∃ (m : Multiplexer Drive (Callback (Option Nat)))
      (deaf left : Called Drive Nat Reply.acknowledgement.Result),
      Multiplexer.start 2 (.constant [7]) { hmacKey := [1] } quietDrive = some (.ok m) ∧
      (m.live deafTurns).service.waiting.callWith 0 noOpPolicy Request.noOp = some deaf ∧
      (∃ outcome, ⟨0, ⟨.acknowledgement, none⟩, outcome⟩ ∈ deaf.completions ∧
        deaf.result = outcome.read .acknowledgement) ∧
      (m.live desertedTurns).service.waiting.callWith 0 noOpPolicy Request.noOp = none ∧
      (m.live desertedTurns).service.waiting.callWith 1 noOpPolicy Request.noOp = some left ∧
      left.result = .error (.client .networkTimeout "no response within 1s") := by
  have check : ((Multiplexer.start 2 (.constant [7]) { hmacKey := [1] } quietDrive :
      Option (Except Failure (Multiplexer Drive (Callback (Option Nat))))).any fun started =>
      started.toOption.any fun m =>
        let deaf := (m.live deafTurns).service.waiting
        let left := (m.live desertedTurns).service.waiting
        decide (deaf.inner.service.nextKey = 0 ∧
          (deaf.submitted Request.noOp).ran.readiness = none ∧
          (deaf.submitted Request.noOp).inner.service.writes.activity = .failed ∧
          (left.submitted Request.noOp).ran.readiness = none ∧
          (left.refused Request.noOp).isEmpty = true ∧
          (left.submitted Request.noOp).inner.service.writes.activity = .waiting ∧
          (left.submitted Request.noOp).afterRun.vain noOpPolicy =
            .client .networkTimeout "no response within 1s")) = true := by
    decide +kernel
  obtain ⟨m, started, check⟩ := exists_started check
  obtain ⟨first_key, dies, breaks, dies', unrefused, stops, waits⟩ := of_decide_eq_true check
  obtain ⟨called, -⟩ := failed_first_run started deafTurns (by decide) rfl (by decide) noOpPolicy
    Request.noOp dies
  obtain ⟨-, stalled⟩ := failed_first_run started desertedTurns (by decide) rfl (by decide)
    noOpPolicy Request.noOp dies'
  obtain ⟨outcome, mem, returns⟩ := called fun stalls => by
    rw [stalls.2] at breaks
    cases breaks
  obtain ⟨-, -, none, gives_up⟩ := stalled ⟨List.isEmpty_iff.mp unrefused, stops⟩
  obtain ⟨left, calls, result_eq⟩ := gives_up 0
  rw [first_key] at mem
  exact ⟨m, _, left, started, returns 0, ⟨outcome, mem, rfl⟩, none, calls, waits ▸ result_eq⟩

end Deserting

end DriveLink
