import DriveLink.Proofs.Pipeline.Outflow
import DriveLink.Proofs.Session.Turns

/-! # Histories of a connection that waits

Between two calls that wait, the owner of a connection may send requests that nobody waits for, run
the connection, take requests back and change its settings, and the channel may change. A history is
any of these deeds one after the other. To the connection below it, a history is a path, on which as
many requests are submitted as the deeds say.

* `Deed`, `Blocking.Does` — one deed, and what it does;
* `Blocking.History` — deeds one after the other, which may be put one behind the other;
* `path_of_callWith` — what a call does behind the submission of its request;
* `Does.path`, `History.path` — histories as paths;
* `Does.nextSequence_eq` — a deed that submits a request uses up a number;
* `history_startBatch` and its like — what is done with a batch as histories. -/

namespace DriveLink

/-- **What is done** with a connection that waits. -/
inductive Deed
  /-- A call, whatever it comes to. -/
  | call
  /-- A request that nobody waits for. -/
  | submit
  | run
  | remove
  /-- The channel has come to another state. -/
  | elapse
  | configure
  deriving DecidableEq, Repr

/-- Whether the deed **submits a request**. -/
def Deed.submits : Deed → Bool
  | call | submit => true
  | _ => false

/-- How many requests are submitted in some deeds. -/
def Deed.submissions (deeds : List Deed) : Nat := deeds.countP Deed.submits

theorem Deed.submissions_cons (deed : Deed) (deeds : List Deed) :
    submissions (deed :: deeds) = (if deed.submits then 1 else 0) + submissions deeds := by
  rw [submissions, List.countP_cons, Nat.add_comm]
  rfl

theorem Deed.submissions_append (deeds later : List Deed) :
    submissions (deeds ++ later) = submissions deeds + submissions later :=
  List.countP_append

/-- The error in a result, if it is one. -/
def errorIn {ρ : Type} (result : Except Status ρ) : Option Status :=
  match result with
  | .ok _ => none
  | .error status => some status

variable {σ τ : Type}

/-- A connection is started **over a multiplexer** that is started. -/
theorem Connection.start_eq [Channel σ] [Pollable σ] (patience : Nat) (signer : Signer)
    (options : Options) (s : σ) :
    (start patience signer options s : Option (Except Failure (Connection σ τ))) =
      (Multiplexer.start patience signer options s).map (Except.map fun service =>
        { service
          clusterVersion := options.clusterVersion
          priority := options.priority
          requestTimeout := options.requestTimeout }) := by
  unfold start
  split <;> rename_i starts <;> rw [starts] <;> rfl

theorem Connection.service_of_start [Channel σ] [Pollable σ] {patience : Nat} {signer : Signer}
    {options : Options} {s : σ} {c : Connection σ τ}
    (started : start patience signer options s = some (.ok c)) :
    Multiplexer.start patience signer options s = some (.ok c.service) := by
  rw [start_eq] at started
  obtain ⟨result, starts, mapped⟩ := Option.map_eq_some_iff.mp started
  cases result with
  | error failure => cases mapped
  | ok service =>
    cases mapped
    exact starts

namespace Blocking

variable [Channel σ] [Pollable σ]

/-- **One deed**, on a channel that changes as it may. To open a batch, to commit it or to discard
it is a call like any other. -/
inductive Does (may : σ → σ → Prop) : Blocking σ τ → Deed → Blocking σ τ → Prop
  | call {b : Blocking σ τ} {reply : Reply} {policy : WaitPolicy} {request : Request reply}
      {waits : Nat} {called : Called σ τ reply.Result}
      (returned : b.callWith waits policy request = some called) :
      Does may b .call called.connection
  | submit (b : Blocking σ τ) {reply : Reply} (request : Request reply) (tag : Option τ) :
      Does may b .submit { b with inner := (b.inner.submit request tag).2.2 }
  | run (b : Blocking σ τ) : Does may b .run b.afterRun
  | remove (b : Blocking σ τ) (key : RequestKey) :
      Does may b .remove { b with inner := (b.inner.remove key).2 }
  | elapse {b : Blocking σ τ} {s : σ} (allowed : may b.inner.service.channel s) :
      Does may b .elapse (b.withChannel s)
  | configure (b : Blocking σ τ) (clusterVersion : Int64) (priority : Priority)
      (requestTimeout : Option Duration) (networkTimeout : Duration) (nextBatch : UInt32) :
      Does may b .configure
        { b with
          inner := { b.inner with clusterVersion, priority, requestTimeout }
          networkTimeout
          nextBatch }

/-- **Deeds one after the other.** -/
inductive History (may : σ → σ → Prop) : Blocking σ τ → List Deed → Blocking σ τ → Prop
  | nil (b : Blocking σ τ) : History may b [] b
  | cons {b b₁ b₂ : Blocking σ τ} {deed : Deed} {deeds : List Deed} (does : Does may b deed b₁)
      (later : History may b₁ deeds b₂) : History may b (deed :: deeds) b₂

variable {may : σ → σ → Prop} {b b₁ b₂ : Blocking σ τ} {deed : Deed} {deeds later : List Deed}

/-- Histories may be put **one behind the other**. -/
theorem History.append (h : History may b deeds b₁) (h₁ : History may b₁ later b₂) :
    History may b (deeds ++ later) b₂ := by
  induction h with
  | nil => exact h₁
  | cons does _ ih => exact .cons does (ih h₁)

theorem Does.history (h : Does may b deed b₁) : History may b [deed] b₁ := .cons h (.nil b₁)

/-- What every deed keeps, **a history keeps**. -/
theorem History.invariant (h : History may b deeds b₁) {holds : Blocking σ τ → Prop}
    (start : holds b)
    (step : ∀ {b₁ deed b₂}, holds b₁ → Does may b₁ deed b₂ → holds b₂) : holds b₁ := by
  induction h with
  | nil => exact start
  | cons does _ ih => exact ih (step start does)

/-! ## Calls as paths -/

section

omit [Pollable σ] in
/-- What may happen in a run **submits nothing**. -/
theorem submissions_of_inRun {η : Type} {events : List (Event η)}
    (inRun : ∀ event ∈ events, event.InRun) : Event.submissions events = [] := by
  refine List.filterMap_eq_nil_iff.mpr fun event mem => ?_
  cases inRun event mem <;> rfl

variable {reply : Reply} {policy : WaitPolicy} {request : Request reply} {timeout : Duration}
  {n : Nat} {done : List (Completion (Callback (Option τ)))}

/-- **Behind the submission** of its request, a call only runs the connection and waits. -/
theorem CallRun.path_behind (h : CallRun b timeout request n done b₁) :
    ∃ events, Path (b.submitted request).inner.service events b₁.inner.service ∧
      ∀ event ∈ events, event.InRun := by
  induction h with
  | first => exact ⟨[], .done _, fun _ mem => absurd mem List.not_mem_nil⟩
  | @next n done b₁ b₂ run alive none ready ih =>
    obtain ⟨events, path, inRun⟩ := ih
    refine ⟨_, path.trans ((path_run b₁.inner.service).trans (path_wait ready)), ?_⟩
    intro event mem
    rw [List.append_nil] at mem
    rcases List.mem_append.mp mem with mem | mem
    · exact inRun event mem
    · exact inRun_run _ event mem

omit [Pollable σ] in
/-- Taking a request back is a path that **submits nothing**. -/
theorem path_remove {η : Type} (m : Multiplexer σ η) (key : RequestKey) :
    ∃ events, Path m events (m.remove key).2 ∧ Event.submissions events = [] := by
  have path := path_turn m (.remove key)
  rw [Multiplexer.turn] at path
  rcases removed : m.remove key with ⟨_ | _, after⟩
  · rw [removed] at path
    exact ⟨_, path, rfl⟩
  · rw [removed] at path
    exact ⟨_, path, rfl⟩

/-- **How a call ends** is a path behind the submission of its request, without another
submission. -/
theorem Ends.path {awaited : Awaited σ τ} (h : Ends b policy request awaited) :
    ∃ events,
      Path (b.submitted request).inner.service events awaited.connection.inner.service ∧
      Event.submissions events = [] := by
  -- the runs so far and one more submit nothing, and neither does the wait behind them
  have runs {n : Nat} {done : List (Completion (Callback (Option τ)))} {b₁ : Blocking σ τ}
      (run : CallRun b policy.timeout request n done b₁) :
      ∃ events, Path (b.submitted request).inner.service events b₁.afterRun.inner.service ∧
        Event.submissions events = [] := by
    obtain ⟨events, path, inRun⟩ := run.path_behind
    refine ⟨_, path.trans (path_run b₁.inner.service), ?_⟩
    rw [Event.submissions_append, submissions_of_inRun inRun, submissions_run]
    rfl
  cases h with
  | answered run => exact runs run
  | @gaveUp b₁ givesUp completions status =>
    obtain ⟨gone, removes, none⟩ := path_remove b₁.inner.service b.inner.service.nextKey
    cases givesUp with
    | vain run alive nothing waits vain =>
      obtain ⟨events, path, silent⟩ := runs run
      refine ⟨_, path.trans ((path_wait waits).trans removes), ?_⟩
      rw [Event.submissions_append, Event.submissions_append, silent, none]
      rfl
    | dead run dead =>
      obtain ⟨events, path, silent⟩ := runs run
      refine ⟨_, path.trans removes, ?_⟩
      rw [Event.submissions_append, silent, none]
      rfl

/-- **A call that returns** has submitted one request, and nothing behind it. -/
theorem path_of_callWith {waits : Nat} {called : Called σ τ reply.Result}
    (returned : b.callWith waits policy request = some called) :
    ∃ events, Path (b.submitted request).inner.service events called.connection.inner.service ∧
      Event.submissions events = [] := by
  obtain ⟨awaited, ends, rfl⟩ := callWith_ends returned
  obtain ⟨events, path, none⟩ := ends.path
  exact ⟨events, path.silent (.elapse _), none⟩

end

/-! ## Histories as paths -/

omit [Pollable σ] in
/-- A request that is submitted **is submitted in one turn**. -/
theorem path_submit (b : Blocking σ τ) {reply : Reply} (request : Request reply)
    (tag : Option τ) :
    ∃ events, Path b.inner.service events (b.inner.submit request tag).2.2.service ∧
      (Event.submissions events).length = 1 := by
  refine ⟨_, path_turn b.inner.service (.submit request.envelope
    (b.inner.prepare request.command) request.value
    (if reply = .silence then none else some { reply, tag })), ?_⟩
  rw [← List.length_map, submissions_turn]
  rfl

/-- A call **submits one request**. -/
theorem path_call {reply : Reply} {policy : WaitPolicy} {request : Request reply} {waits : Nat}
    {called : Called σ τ reply.Result}
    (returned : b.callWith waits policy request = some called) :
    ∃ events, Path b.inner.service events called.connection.inner.service ∧
      (Event.submissions events).length = 1 := by
  obtain ⟨first, submits, one⟩ := b.path_submit request none
  obtain ⟨events, path, none⟩ := path_of_callWith returned
  refine ⟨first ++ events, submits.trans path, ?_⟩
  rw [Event.submissions_append, none, List.append_nil, one]

/-- **A deed is a path**, with a submission if the deed is one. -/
theorem Does.path (h : Does may b deed b₁) :
    ∃ events, Path b.inner.service events b₁.inner.service ∧
      (Event.submissions events).length = if deed.submits then 1 else 0 := by
  cases h with
  | call returned => exact path_call returned
  | submit request tag => exact b.path_submit request tag
  | run => exact ⟨_, path_run b.inner.service, by rw [submissions_run]; rfl⟩
  | remove key =>
    obtain ⟨events, path, none⟩ := path_remove b.inner.service key
    exact ⟨events, path, by rw [none]; rfl⟩
  | elapse => exact ⟨[], (Move.elapse _).path, rfl⟩
  | configure => exact ⟨[], .done _, rfl⟩

/-- **A history is a path**, with as many submissions as there are among its deeds. -/
theorem History.path (h : History may b deeds b₁) :
    ∃ events, Path b.inner.service events b₁.inner.service ∧
      (Event.submissions events).length = Deed.submissions deeds := by
  induction h with
  | nil b => exact ⟨[], .done _, rfl⟩
  | cons does _ ih =>
    obtain ⟨first, step, one⟩ := does.path
    obtain ⟨events, path, rest⟩ := ih
    refine ⟨first ++ events, step.trans path, ?_⟩
    rw [Event.submissions_append, List.length_append, one, rest, Deed.submissions_cons]

/-! ## Numbers that are used up -/

omit [Channel σ] [Pollable σ] in
/-- Submitting to a connection that is alive **uses up a number**, whatever becomes of the
request. -/
theorem nextSequence_submit {reply : Reply} (request : Request reply) (tag : Option τ)
    (alive : b.inner.service.failed = false) :
    (b.inner.submit request tag).2.2.service.outbox.nextSequence =
      b.inner.service.outbox.nextSequence + 1 := by
  unfold Connection.submit
  simp only
  rw [Multiplexer.submit_of_alive alive, Outbox.enqueue]
  rcases b.inner.service.outbox.prepare _ _ _ _ _ _ with status | queued <;> rfl

/-- **A deed that submits a request** uses up the number of that request. -/
theorem Does.nextSequence_eq (h : Does may b deed b₁) (submits : deed.submits = true)
    (alive : b.inner.service.failed = false) :
    b₁.inner.service.outbox.nextSequence = b.inner.service.outbox.nextSequence + 1 := by
  cases h with
  | call returned =>
    obtain ⟨events, path, none⟩ := path_of_callWith returned
    exact (path.nextSequence_eq none).trans (nextSequence_submit _ Option.none alive)
  | submit request tag => exact nextSequence_submit request tag alive
  | _ => cases submits

/-! ## Operations of a batch -/

/-- To open a batch is **a call**, with the next number for batches used up before. -/
theorem exists_call_of_startBatch {waits : Nat} {called : Called σ τ OpenBatch}
    (returned : b.startBatch waits = some called) :
    ∃ inner : Called σ τ Reply.acknowledgement.Result,
      ({ b with nextBatch := nextBatchId b.nextBatch } : Blocking σ τ).callWith waits
        ⟨b.networkTimeout, .networkTimeout⟩ (.startBatch b.nextBatch) = some inner ∧
      called.connection = inner.connection ∧
      called.result = inner.result.map fun _ => { id := b.nextBatch } := by
  rw [startBatch] at returned
  split at returned
  · cases returned
  · rename_i inner returned'
    cases returned
    exact ⟨inner, returned', rfl, rfl⟩

/-- To open a batch is **a call**, behind a change of the settings. -/
theorem history_startBatch {waits : Nat} {called : Called σ τ OpenBatch}
    (returned : b.startBatch waits = some called) :
    History may b [.configure, .call] called.connection := by
  obtain ⟨inner, returned, same, -⟩ := exists_call_of_startBatch returned
  rw [same]
  have counts : Does may b .configure { b with nextBatch := nextBatchId b.nextBatch } :=
    .configure b b.inner.clusterVersion b.inner.priority b.inner.requestTimeout b.networkTimeout
      (nextBatchId b.nextBatch)
  exact counts.history.append (Does.call returned).history

/-- To write out what waits is **a run**. -/
theorem history_pump (b : Blocking σ τ) : History may b [.run] b.pump.connection :=
  (Does.run b).history

/-- To add an operation to a batch is to **submit and run**. -/
theorem history_addToBatch (b : Blocking σ τ) (batch : OpenBatch) (request : Request .silence) :
    History may b [.submit, .run] (b.addToBatch batch request).1.connection :=
  (Does.submit b request none).history.append (Does.run _).history

/-- To abandon a batch is to **submit and run**. -/
theorem history_abandon (b : Blocking σ τ) (batch : OpenBatch) :
    History may b [.submit, .run] (b.abandon batch).connection :=
  (Does.submit b (.abortBatch batch.id) none).history.append (Does.run _).history

/-- To commit a batch is **a call**. -/
theorem history_commit {waits : Nat} {batch : OpenBatch} {called : Called σ τ Unit}
    (returned : b.commit waits batch = some called) :
    History may b [.call] called.connection := by
  have call : b.callWith waits batchPolicy (.endBatch batch.id batch.count) = some called :=
    returned
  exact (Does.call call).history

/-- To discard a batch is **a call**. -/
theorem history_abort {waits : Nat} {batch : OpenBatch} {called : Called σ τ Unit}
    (returned : b.abort waits batch = some called) :
    History may b [.call] called.connection := by
  have call : b.callWith waits batchPolicy (.abortBatch batch.id) = some called := returned
  exact (Does.call call).history

end Blocking

end DriveLink
