import DriveLink.Proofs.Pipeline.Authentic
import DriveLink.Proofs.Pipeline.Once
import DriveLink.Session.Blocking

/-! # What a call comes to

A call submits its request, runs the connection, and then waits and runs in turn until it has an
outcome. In any of these runs the answer to its request may come, and in the same run the connection
may die of something else. After the first run the call looks for the answer first, so that the
answer counts. After every later run it looks whether the connection is alive first, so that the
answer counts only if it is.

* `Blocking.CallRun` — the runs that a call makes, one after the other;
* `CallRun.awaitOutcome_of_alive`, `CallRun.awaitOutcome_of_dead` — what the call does after a run;
* `CallRun.path` — what has happened up to a run;
* `call_returns_answer` — what a call returns whose handler is called with a response. -/

namespace DriveLink

/-! ## Outcomes by key -/

/-- Among completions with different keys, each outcome **is found under its key**. -/
theorem outcomeOf_eq_some {η : Type} {done : List (Completion η)}
    (nodup : (done.map Completion.key).Nodup) {completion : Completion η}
    (mem : completion ∈ done) : outcomeOf completion.key done = some completion.outcome := by
  have found : done.find? (·.key = completion.key) = some completion := by
    rw [← List.head?_filter, filter_key_eq_singleton nodup mem]
    rfl
  rw [outcomeOf, found]
  rfl

/-- **No request is completed twice.** -/
theorem Path.nodup_completions {σ η : Type} [Channel σ] {m m' : Multiplexer σ η}
    {events : List (Event η)} (h : Path m events m') (fresh : m.Fresh)
    (numbered : Numbered events m') : ((Event.completions events).map Completion.key).Nodup := by
  have balance := h.balance
  rw [fresh.tickets, Ticket.handlers_nil, add_zero] at balance
  have nodup := numbered.nodup_given
  -- whoever is called has been given a handler under that key
  rw [balance, Multiset.map_add, Multiset.map_add, Multiset.nodup_add, Multiset.nodup_add]
    at nodup
  have called := nodup.1.1
  rw [Event.fired_eq, Multiset.map_coe, List.map_map] at called
  exact Multiset.coe_nodup.mp called

namespace Blocking

variable {σ τ : Type}

/-- The completions of a request that is **refused** as soon as a call submits it. -/
def refused {reply : Reply} (b : Blocking σ τ) (request : Request reply) :
    List (Completion (Callback (Option τ))) :=
  (b.inner.submit request none).2.1

/-- The connection when a call **has submitted** its request. -/
def submitted {reply : Reply} (b : Blocking σ τ) (request : Request reply) : Blocking σ τ :=
  { b with inner := (b.inner.submit request none).2.2, waiter := b.waiter.reset }

variable [Channel σ]

/-- What **the next run** does. -/
def ran (b : Blocking σ τ) : Ran σ (Callback (Option τ)) := b.inner.service.run

/-- The connection **after the next run**. -/
def afterRun (b : Blocking σ τ) : Blocking σ τ := { b with inner := b.inner.run.2.2 }

/-- Whether a call **goes on** after a run: the first run may find the connection dead, and no
other. -/
def GoesOn (n : Nat) (b : Blocking σ τ) : Prop := n = 0 ∨ b.ran.readiness.isSome = true

instance (n : Nat) (b : Blocking σ τ) : Decidable (b.GoesOn n) :=
  inferInstanceAs (Decidable (_ ∨ _))

variable [Pollable σ]

/-! ## The runs of a call -/

/-- **The runs of a call.** The call comes to so many runs, and to one more, in which it runs this
connection; and these are the completions before that run. -/
inductive CallRun {reply : Reply} (b : Blocking σ τ) (timeout : Duration)
    (request : Request reply) :
    Nat → List (Completion (Callback (Option τ))) → Blocking σ τ → Prop
  /-- The first run comes directly behind the submission. -/
  | first : CallRun b timeout request 0 (b.refused request) (b.submitted request)
  /-- Another run comes if the call goes on, has no outcome yet, and waits with success. -/
  | next {n : Nat} {done : List (Completion (Callback (Option τ)))} {b₁ b₂ : Blocking σ τ}
      (run : CallRun b timeout request n done b₁) (alive : b₁.GoesOn n)
      (none : outcomeOf b.inner.service.nextKey (done ++ b₁.ran.completions) = none)
      (ready : b₁.afterRun.wait (b₁.ran.readiness.getD .forRead) timeout = (.ok true, b₂)) :
      CallRun b timeout request (n + 1) (done ++ b₁.ran.completions) b₂

/-- What a call returns **once it has waited**. -/
def finish (reply : Reply) (awaited : Awaited σ τ) : Called σ τ reply.Result where
  result :=
    match awaited.result with
    | .ok outcome => outcome.read reply
    | .error status => .error status
  completions := awaited.completions
  connection := awaited.connection.releaseSource

section

variable {reply : Reply} {b : Blocking σ τ} {policy : WaitPolicy} {request : Request reply}
  {n : Nat} {done : List (Completion (Callback (Option τ)))} {b' : Blocking σ τ}

/-- **A call** submits its request, runs, and waits. -/
theorem callWith_eq (patience : Nat) (b : Blocking σ τ) (policy : WaitPolicy)
    (request : Request reply) :
    b.callWith patience policy request =
      (awaitOutcome b.inner.service.nextKey policy patience
        ((b.submitted request).ran.readiness.getD .forRead)
        (b.refused request ++ (b.submitted request).ran.completions)
        (b.submitted request).afterRun).map (finish reply) := by
  have key_eq : (b.inner.submit request none).1 = b.inner.service.nextKey := by
    unfold Connection.submit Multiplexer.submit
    simp only
    split <;> rfl
  unfold callWith
  simp only
  rw [key_eq]
  split
  · rename_i none
    exact (congrArg (Option.map (finish reply)) none).symm
  · rename_i awaited some
    exact (congrArg (Option.map (finish reply)) some).symm

/-- A wait **is over** once the outcome is in. -/
theorem awaitOutcome_of_outcome {key : RequestKey}
    {completions : List (Completion (Callback (Option τ)))} {outcome : Outcome}
    (found : outcomeOf key completions = some outcome) (patience : Nat) (readiness : Readiness)
    (b : Blocking σ τ) :
    awaitOutcome key policy patience readiness completions b =
      some ⟨.ok outcome, completions, b⟩ := by
  cases patience with
  | zero => rw [awaitOutcome, found, Option.map_some]
  | succ patience => rw [awaitOutcome, found]

/-- As long as there is no outcome, a wait with success **leads to a run**. -/
theorem awaitOutcome_of_ready {key : RequestKey}
    {completions : List (Completion (Callback (Option τ)))}
    (none : outcomeOf key completions = none) {readiness : Readiness} {b b₂ : Blocking σ τ}
    (ready : b.wait readiness policy.timeout = (.ok true, b₂)) (patience : Nat) :
    (∀ next, b₂.ran.readiness = some next →
      awaitOutcome key policy (patience + 1) readiness completions b =
        awaitOutcome key policy patience next (completions ++ b₂.ran.completions) b₂.afterRun) ∧
    (b₂.ran.readiness = Option.none →
      awaitOutcome key policy (patience + 1) readiness completions b =
        some (b₂.afterRun.giveUp key (completions ++ b₂.ran.completions)
          (.client .connectionFailed "connection failed"))) := by
  rw [awaitOutcome, none]
  simp only [ready]
  constructor
  · intro next alive
    have alive : b₂.inner.run.1 = some next := alive
    rw [alive]
    rfl
  · intro dead
    have dead : b₂.inner.run.1 = Option.none := dead
    rw [dead]
    rfl

/-- **After a run with which the call goes on**, it waits as if it had just begun to. -/
theorem CallRun.awaitOutcome_of_alive (h : CallRun b policy.timeout request n done b')
    (alive : b'.GoesOn n) (patience : Nat) :
    awaitOutcome b.inner.service.nextKey policy (n + patience)
        ((b.submitted request).ran.readiness.getD .forRead)
        (b.refused request ++ (b.submitted request).ran.completions)
        (b.submitted request).afterRun =
      awaitOutcome b.inner.service.nextKey policy patience (b'.ran.readiness.getD .forRead)
        (done ++ b'.ran.completions) b'.afterRun := by
  induction h generalizing patience with
  | first => rw [Nat.zero_add]
  | @next n done b₁ b₂ run alive₁ none ready ih =>
    obtain ⟨next, readiness_eq⟩ : ∃ next, b₂.ran.readiness = some next := by
      rcases alive with first | alive
      · cases first
      · exact Option.isSome_iff_exists.mp alive
    rw [Nat.add_assoc, Nat.add_comm 1, ih alive₁,
      (awaitOutcome_of_ready none ready patience).1 next readiness_eq, readiness_eq]
    rfl

/-- **After a run with which the call does not go on**, it gives up. -/
theorem CallRun.awaitOutcome_of_dead (h : CallRun b policy.timeout request n done b')
    (dead : ¬ b'.GoesOn n) (patience : Nat) :
    awaitOutcome b.inner.service.nextKey policy (n + patience)
        ((b.submitted request).ran.readiness.getD .forRead)
        (b.refused request ++ (b.submitted request).ran.completions)
        (b.submitted request).afterRun =
      some (b'.afterRun.giveUp b.inner.service.nextKey (done ++ b'.ran.completions)
        (.client .connectionFailed "connection failed")) := by
  cases h with
  | first => exact absurd (.inl rfl) dead
  | next run alive₁ none ready =>
    have readiness_eq : b'.ran.readiness = Option.none := by
      have ended : ¬ b'.ran.readiness.isSome = true := fun alive => dead (.inr alive)
      simpa using ended
    rw [Nat.add_assoc, Nat.add_comm 1, run.awaitOutcome_of_alive alive₁,
      (awaitOutcome_of_ready none ready patience).2 readiness_eq]

/-! ## What has happened up to a run -/

omit [Pollable σ] in
/-- What is **completed as soon as it is submitted** is what submitting answers with. -/
theorem completions_turn_submit {η : Type} (m : Multiplexer σ η) (envelope : Envelope)
    (command : Command) (value : Bytes) (handler : Option η) :
    Event.completions (m.turn (.submit envelope command value handler)).events =
      (m.submit envelope command value handler).2.1 := by
  have queued (requests : List (QueuedRequest η)) :
      Event.completions (requests.map Event.queued) = [] := by
    rw [Event.completions, List.filterMap_map]
    exact List.filterMap_eq_nil_iff.mpr fun _ _ => rfl
  rw [Multiplexer.turn]
  simp only
  rw [← List.singleton_append, Event.completions_append, Event.completions_append, queued,
    Event.completions_map_completed]
  rfl

/-- Waiting changes **the channel and the waiter** only. -/
theorem path_wait {b b₂ : Blocking σ τ} {readiness : Readiness} {timeout : Duration}
    {result : Except IoError Bool} (h : b.wait readiness timeout = (result, b₂)) :
    Path b.inner.service [] b₂.inner.service := by
  cases h
  exact (Move.elapse _).path

/-- **Up to a run of a call**, its request is submitted, and what is completed are the completions
before that run. -/
theorem CallRun.path {timeout : Duration} (h : CallRun b timeout request n done b') :
    ∃ events, Path b.inner.service events b'.inner.service ∧
      Event.completions events = done ∧ (Event.submissions events).length = 1 := by
  induction h with
  | first =>
    refine ⟨_, path_turn b.inner.service (.submit request.envelope
      (b.inner.prepare request.command) request.value
      (if reply = .silence then none else some { reply, tag := none })), ?_, ?_⟩
    · exact completions_turn_submit _ _ _ _ _
    · rw [← List.length_map, submissions_turn]
      rfl
  | @next n done b₁ b₂ run alive none ready ih =>
    obtain ⟨events, path, completions_eq, one⟩ := ih
    have goes_on := path.trans ((path_run b₁.inner.service).trans (path_wait ready))
    refine ⟨_, goes_on, ?_, ?_⟩
    · rw [Event.completions_append, Event.completions_append, completions_eq]
      exact congrArg _ (List.append_nil _)
    · rw [Event.submissions_append, Event.submissions_append, submissions_run, List.length_append,
        one]
      rfl

end

end Blocking

/-! ## What a call returns -/

variable {σ τ : Type} [Channel σ] [Pollable σ]

/-- **What a call returns** whose handler is called with a response. In whatever state a connection
is that was started, with whatever requests under way, let a call come to a run in which its handler
is called with a response. Then this is because of a frame directly before it, and the call returns:
what the response and the value in the frame say, if it was the first run or the connection is alive
after it; and that the connection failed, if the connection died in a later run. -/
theorem call_returns_answer {patience : Nat} {signer : Signer} {options : Options} {s : σ}
    {m : Multiplexer σ (Callback (Option τ))}
    (started : Multiplexer.start patience signer options s = some (.ok m))
    (turns : List (Turn σ (Callback (Option τ))))
    (few : (Turn.submitted turns).length + 1 < 2 ^ 63) {b : Blocking σ τ}
    (state : b.inner.service = (m.live turns).service) {reply : Reply} {policy : WaitPolicy}
    {request : Request reply} {n : Nat} {done : List (Completion (Callback (Option τ)))}
    {b' : Blocking σ τ} (run : b.CallRun policy.timeout request n done b')
    {before after : List (Event (Callback (Option τ)))}
    {completion : Completion (Callback (Option τ))} {response : Command}
    (dispatched : b'.ran.events = before ++ .completed completion :: after)
    (own : completion.key = b.inner.service.nextKey)
    (answered : completion.outcome.response? = some response) {waits : Nat} (enough : n ≤ waits) :
    ∃ past frame called, before = past ++ [.received (.frame frame)] ∧
      b.callWith waits policy request = some called ∧
      called.result =
        if b'.GoesOn n then
          if response.isSuccess then reply.decode response frame.value
          else .error (.ofResponse response)
        else .error (.client .connectionFailed "connection failed") := by
  have fresh := Multiplexer.fresh_of_start started
  obtain ⟨past, _, frame, _, -, before_eq, -, completion_eq⟩ :=
    (path_run b'.inner.service).opened_by dispatched answered
  -- no other completion in the call has its key, so that the outcome is found under it
  have found : outcomeOf b.inner.service.nextKey (done ++ b'.ran.completions) =
      some completion.outcome := by
    obtain ⟨events, path, completions_eq, one⟩ := run.path
    have whole := (state ▸ path_live m turns).trans (path.trans (path_run b'.inner.service))
    have bounded : (Event.submissions ((m.live turns).events ++
        (events ++ b'.inner.service.run.events))).length < 2 ^ 63 := by
      rw [Event.submissions_append, Event.submissions_append, submissions_run, List.length_append,
        List.length_append, length_submissions_live, one, List.length_nil]
      exact few
    have nodup := whole.nodup_completions fresh (whole.numbered fresh.numbered bounded)
    rw [Event.completions_append, Event.completions_append, completions_eq, List.map_append,
      List.nodup_append] at nodup
    rw [← own]
    refine outcomeOf_eq_some nodup.2.1 (List.mem_append_right _ (Event.mem_completions.mpr ?_))
    exact dispatched ▸ List.mem_append_right _ (List.mem_cons_self ..)
  have read_eq : completion.outcome.read reply =
      if response.isSuccess then reply.decode response frame.value
      else .error (.ofResponse response) := by
    rw [completion_eq, Completion.eq_answer]
    by_cases success : response.isSuccess = true
    · simp only [success, if_true]
      rfl
    · simp only [success]
      rfl
  obtain ⟨more, rfl⟩ := Nat.exists_eq_add_of_le enough
  rw [Blocking.callWith_eq]
  by_cases alive : b'.GoesOn n
  · rw [run.awaitOutcome_of_alive alive, Blocking.awaitOutcome_of_outcome found]
    refine ⟨past, frame, _, before_eq, rfl, ?_⟩
    rw [if_pos alive]
    exact read_eq
  · rw [run.awaitOutcome_of_dead alive]
    refine ⟨past, frame, _, before_eq, rfl, ?_⟩
    rw [if_neg alive]
    rfl

/-! ## An answer that is thrown away -/

section Spoiling

open Simulation (Drive)

/-- A drive that lets the first request wait. It answers the second one with success, but not at
once, and directly behind that answer **spoils the stream**. -/
def spoilingDrive : Drive where
  key := [1]
  queue := [.bytes hello]
  replies := [[], [.block,
    .frame
      { auth := .pin
        command := .response {} .echo (.given .empty) (some { code := .success }) },
    .bytes [0]]]

/-- A request that goes before the call. -/
def earlierTurns : List (Turn Drive (Callback (Option Nat))) :=
  [.submit .hmac {} [] (some ⟨.acknowledgement, some 10⟩)]

/-- A connection that waits for each answer, with the requests of another. -/
def Multiplexer.waiting (m : Multiplexer Drive (Callback (Option Nat))) : Blocking Drive Nat :=
  .ofConnection ⟨m, 0, .normal, none⟩ (.seconds 1)

def noOpPolicy : WaitPolicy := ⟨.seconds 1, .networkTimeout⟩

/-- The connection behind the first run of a call and the wait after it. -/
def Blocking.secondly (b : Blocking Drive Nat) : Except IoError Bool × Blocking Drive Nat :=
  let first := b.submitted Request.noOp
  first.afterRun.wait (first.ran.readiness.getD .forRead) noOpPolicy.timeout

/-- The handler of a call is called with success, and the call **returns that the connection
failed**. -/
theorem call_returns_answer_spoiled :
    ∃ (m : Multiplexer Drive (Callback (Option Nat))) (b' : Blocking Drive Nat)
      (done : List (Completion (Callback (Option Nat))))
      (completion : Completion (Callback (Option Nat))) (response : Command)
      (called : Called Drive Nat Reply.acknowledgement.Result),
      Multiplexer.start 2 (.constant [7]) { hmacKey := [1] } spoilingDrive = some (.ok m) ∧
      (m.live earlierTurns).service.waiting.CallRun noOpPolicy.timeout Request.noOp 1 done b' ∧
      .completed completion ∈ b'.ran.events ∧ completion.key = 1 ∧
      completion.outcome.response? = some response ∧ response.isSuccess = true ∧
      (m.live earlierTurns).service.waiting.callWith 1 noOpPolicy Request.noOp = some called ∧
      called.result = .error (.client .connectionFailed "connection failed") := by
  have check : ((Multiplexer.start 2 (.constant [7]) { hmacKey := [1] } spoilingDrive :
      Option (Except Failure (Multiplexer Drive (Callback (Option Nat))))).any fun started =>
      started.toOption.any fun m =>
        let b := (m.live earlierTurns).service.waiting
        let first := b.submitted Request.noOp
        let second := b.secondly.2
        second.ran.completions.any fun completion =>
          completion.outcome.response?.any fun response =>
            decide (b.inner.service.nextKey = 1 ∧ completion.key = 1 ∧
              response.isSuccess = true ∧
              (outcomeOf 1 (b.refused Request.noOp ++ first.ran.completions)).isNone = true ∧
              b.secondly.1.toOption = some true ∧ second.ran.readiness = none)) = true := by
    decide +kernel
  obtain ⟨m, started, check⟩ := exists_started check
  obtain ⟨completion, mem, check⟩ := List.any_eq_true.mp check
  obtain ⟨response, answered, check⟩ := (Option.any_eq_true _ _).mp check
  obtain ⟨next_key, own, success, nothing, waited, dead⟩ := of_decide_eq_true check
  have none : outcomeOf (m.live earlierTurns).service.waiting.inner.service.nextKey
      ((m.live earlierTurns).service.waiting.refused Request.noOp ++
        ((m.live earlierTurns).service.waiting.submitted Request.noOp).ran.completions) =
      Option.none := by
    rw [next_key]
    exact Option.isNone_iff_eq_none.mp nothing
  have run : (m.live earlierTurns).service.waiting.CallRun noOpPolicy.timeout Request.noOp 1 _
      (m.live earlierTurns).service.waiting.secondly.2 :=
    .next .first (.inl rfl) none (Prod.ext (eq_ok_of_toOption waited) rfl)
  have inside : .completed completion ∈
      (m.live earlierTurns).service.waiting.secondly.2.ran.events := Event.mem_completions.mp mem
  obtain ⟨before, after, dispatched⟩ := List.append_of_mem inside
  have few : (Turn.submitted earlierTurns).length + 1 < 2 ^ 63 := by decide
  obtain ⟨_, _, called, -, calls, result⟩ := call_returns_answer started earlierTurns few rfl run
    dispatched (own.trans next_key.symm) answered (Nat.le_refl 1)
  have stops : ¬ (m.live earlierTurns).service.waiting.secondly.2.GoesOn 1 := by
    rintro (first | alive)
    · cases first
    · rw [dead] at alive
      cases alive
  rw [if_neg stops] at result
  exact ⟨m, _, _, completion, response, called, started, run, inside, own, answered, success, calls,
    result⟩

end Spoiling

end DriveLink
