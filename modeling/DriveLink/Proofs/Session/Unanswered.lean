import DriveLink.Proofs.Pipeline.Interest
import DriveLink.Proofs.Session.Turns

/-! # Calls that are not answered yet

The handler of a call is with its request until it is called, and no call takes its request back
before it gives up. So as long as a call has no outcome, its request is still on its way: it waits
for its turn, is being written, or is out. Hence there is something left to do on the connection,
and a call that waits does not wait for nothing.

* `CallRun.balance` — whose handlers have been called up to a run of a call;
* `CallRun.called_or_held` — behind that run, the handler of the call has been called or is held;
* `Blocking.callWith_of_goesOn` — how a call goes on after a run;
* `readiness_is_exact` — what a run asks for, and what a call waits for. -/

namespace DriveLink

open Event (given fired handedBack)

/-! ## Runs give and take nothing -/

section Runs

variable {σ η : Type} [Channel σ]

/-- **A run** hands no handler back and is given none: what it calls was held before it. -/
theorem Multiplexer.balance_run (m : Multiplexer σ η) :
    Ticket.handlers m.transit.tickets =
      (m.run.completions.map Completion.caller : Multiset (RequestKey × η)) +
        Ticket.handlers m.run.service.transit.tickets := by
  have balance := (path_run m).balance
  have nothing : given m.run.events = 0 := by
    rw [Event.given_eq, submissions_run]
    rfl
  have kept : handedBack m.run.events = 0 := by
    refine congrArg _ (List.filterMap_eq_nil_iff.mpr fun event mem => ?_)
    cases inRun_run m event mem <;> rfl
  rwa [nothing, kept, Event.fired_eq, zero_add, add_zero] at balance

/-- **A request that is submitted** with a handler gives it away, under the next key. -/
theorem Multiplexer.balance_submit (m : Multiplexer σ η) (envelope : Envelope) (command : Command)
    (value : Bytes) (handler : η) :
    (m.nextKey, handler) ::ₘ Ticket.handlers m.transit.tickets =
      ((m.submit envelope command value (some handler)).2.1.map Completion.caller :
          Multiset (RequestKey × η)) +
        Ticket.handlers (m.submit envelope command value (some handler)).2.2.transit.tickets := by
  have balance := (path_turn m (.submit envelope command value (some handler))).balance
  have events_eq : (m.turn (.submit envelope command value (some handler))).events =
      .submitted m.nextKey (some handler) ::
        (((m.submit envelope command value (some handler)).2.2.outbox.queue.drop
            m.outbox.queue.length).map .queued ++
          (m.submit envelope command value (some handler)).2.1.map .completed) := by
    have key_eq : (m.submit envelope command value (some handler)).1 = m.nextKey := by
      unfold submit
      simp only
      split <;> rfl
    rw [turn, ← key_eq]
  have queued (requests : List (QueuedRequest η)) {f : Event η → Option (RequestKey × η)}
      (none : ∀ request, f (.queued request) = none) :
      ((requests.map Event.queued).filterMap f : Multiset (RequestKey × η)) = 0 := by
    rw [List.filterMap_map]
    exact congrArg _ (List.filterMap_eq_nil_iff.mpr fun request _ => none request)
  rw [events_eq, ← List.singleton_append, Event.given_append, Event.given_append,
    Event.fired_append, Event.fired_append, Event.handedBack_append, Event.handedBack_append,
    Event.given_completed, Event.handedBack_completed, Event.fired_completed] at balance
  have gives : given [.submitted m.nextKey (some handler)] = {(m.nextKey, handler)} := rfl
  have calls : fired [.submitted m.nextKey (some handler)] = 0 := rfl
  have keeps : handedBack [.submitted m.nextKey (some handler)] = 0 := rfl
  have service_eq : (m.turn (.submit envelope command value (some handler))).service =
      (m.submit envelope command value (some handler)).2.2 := rfl
  rw [service_eq, gives, calls, keeps, given, fired, handedBack, queued _ fun _ => rfl,
    queued _ fun _ => rfl, queued _ fun _ => rfl] at balance
  simpa only [add_zero, zero_add, Multiset.singleton_add] using balance

end Runs

namespace Blocking

variable {σ τ : Type} [Channel σ] [Pollable σ]

section

variable {reply : Reply} {b : Blocking σ τ} {policy : WaitPolicy} {timeout : Duration}
  {request : Request reply} {n : Nat} {done : List (Completion (Callback (Option τ)))}
  {b' : Blocking σ τ}

/-- **Up to a run of a call**, the handlers called are its own and those that were held before it,
but for those that are still held. -/
theorem CallRun.balance (asked : reply ≠ .silence)
    (run : CallRun b timeout request n done b') :
    (b.inner.service.nextKey, (⟨reply, none⟩ : Callback (Option τ))) ::ₘ
        Ticket.handlers b.inner.service.transit.tickets =
      (done.map Completion.caller : Multiset (RequestKey × Callback (Option τ))) +
        Ticket.handlers b'.inner.service.transit.tickets := by
  induction run with
  | first =>
    have balance := b.inner.service.balance_submit request.envelope
      (b.inner.prepare request.command) request.value (⟨reply, none⟩ : Callback (Option τ))
    have own : (if reply = .silence then none else some ⟨reply, none⟩ :
        Option (Callback (Option τ))) = some ⟨reply, none⟩ := if_neg asked
    rw [← own] at balance
    exact balance
  | @next n done b₁ b₂ run alive none ready ih =>
    -- waiting moves nobody
    have waits := (path_wait ready).balance
    have still : Ticket.handlers b₁.afterRun.inner.service.transit.tickets =
        Ticket.handlers b₂.inner.service.transit.tickets := by
      simpa only [given, fired, handedBack, List.filterMap_nil, Multiset.coe_nil, zero_add]
        using waits
    rw [ih, b₁.inner.service.balance_run, List.map_append, ← Multiset.coe_add, ← still, add_assoc]
    rfl

/-- **Behind a run of a call**, its handler has been called, or its request is still on its way. -/
theorem CallRun.called_or_held (asked : reply ≠ .silence)
    (run : CallRun b timeout request n done b') :
    (∃ outcome, ⟨b.inner.service.nextKey, ⟨reply, none⟩, outcome⟩ ∈ done ++ b'.ran.completions) ∨
      (b.inner.service.nextKey, (⟨reply, none⟩ : Callback (Option τ))) ∈
        Ticket.handlers b'.ran.service.transit.tickets := by
  have balance := run.balance asked
  rw [b'.inner.service.balance_run, ← add_assoc, Multiset.coe_add, ← List.map_append] at balance
  have somewhere := balance ▸ Multiset.mem_cons_self _ _
  refine (Multiset.mem_add.mp somewhere).imp_left fun called => ?_
  obtain ⟨⟨_, _, outcome⟩, mem, same⟩ := List.mem_map.mp (Multiset.mem_coe.mp called)
  cases same
  exact ⟨outcome, mem⟩

/-- **How a call goes on** after a run with which it does. -/
theorem callWith_of_goesOn (run : CallRun b policy.timeout request n done b')
    (alive : b'.GoesOn n) (waits : Nat) :
    b.callWith (n + waits) policy request =
      (awaitOutcome b.inner.service.nextKey policy waits (b'.ran.readiness.getD .forRead)
        (done ++ b'.ran.completions) b'.afterRun).map (finish reply) := by
  rw [callWith_eq, run.awaitOutcome_of_alive alive]

/-- A call that has no outcome yet **does not wait for nothing**. -/
theorem CallRun.isEmpty_eq_false (asked : reply ≠ .silence)
    (run : CallRun b timeout request n done b')
    (none : outcomeOf b.inner.service.nextKey (done ++ b'.ran.completions) = none) :
    (b'.ran.readiness.getD .forRead).isEmpty = false := by
  cases asks : b'.ran.readiness with
  | none => rfl
  | some readiness =>
    rw [Option.getD_some, Bool.eq_false_iff]
    intro nothing
    have rests := (Multiplexer.isEmpty_iff_atRest asks).mp nothing
    have empty : b'.ran.service.transit.tickets = [] := rests.tickets
    rcases run.called_or_held asked with ⟨outcome, called⟩ | held
    · rw [outcomeOf, Option.map_eq_none_iff, List.find?_eq_none] at none
      exact none _ called (decide_eq_true rfl)
    · rw [empty] at held
      exact absurd held (Multiset.notMem_zero _)

end

end Blocking

/-! ## What is waited for -/

/-- **What a run asks for is exact.** Behind any run of a connection that lives on, room is asked
for just if some request is not entirely written, and bytes just if a request waits for its answer
or a frame is partly read. So nothing is asked for just if nothing is left to do. And whenever a
call that expects an answer is to wait behind a run, because the outcome is not in yet, what it
waits for is not nothing. -/
theorem readiness_is_exact {σ : Type} [Channel σ] [Pollable σ] :
    (∀ {η : Type} (m : Multiplexer σ η) (readiness : Readiness),
      m.run.readiness = some readiness →
        (readiness.write = true ↔ 0 < m.run.service.pendingWrites) ∧
        (readiness.read = true ↔
          0 < m.run.service.outstanding ∨ m.run.service.inbox.reader.inProgress = true) ∧
        (readiness.isEmpty = true ↔ m.run.service.AtRest)) ∧
    ∀ {τ : Type} {reply : Reply} (b : Blocking σ τ) (policy : WaitPolicy)
      (request : Request reply) (n : Nat) (done : List (Completion (Callback (Option τ))))
      (b' : Blocking σ τ), reply ≠ .silence → b.CallRun policy.timeout request n done b' →
      b'.GoesOn n →
      outcomeOf b.inner.service.nextKey (done ++ b'.ran.completions) = none →
      let readiness := b'.ran.readiness.getD .forRead
      readiness.isEmpty = false ∧ ∀ waits, b.callWith (n + waits) policy request =
        (Blocking.awaitOutcome b.inner.service.nextKey policy waits readiness
          (done ++ b'.ran.completions) b'.afterRun).map (Blocking.finish reply) := by
  constructor
  · intro η m readiness asks
    obtain ⟨write, read⟩ := Multiplexer.asks_of_run asks
    exact ⟨write, read, Multiplexer.isEmpty_iff_atRest asks⟩
  · intro τ reply b policy request n done b' asked run alive none
    exact ⟨run.isEmpty_eq_false asked none, Blocking.callWith_of_goesOn run alive⟩

/-! ## A drive that lets a call wait -/

section Reticent

open Simulation (Drive)

/-- A drive that hears the first request and **says nothing** to it. -/
def reticentDrive : Drive := { key := [1], queue := [.bytes hello], replies := [[]] }

/-- The first run of a call writes its request and asks for bytes, since the request **waits for its
answer**; and that is what the call waits for. -/
theorem readiness_is_exact_reticent :
    ∃ (m : Multiplexer Drive (Callback (Option Nat))) (readiness : Readiness),
      Multiplexer.start 2 (.constant [7]) { hmacKey := [1] } reticentDrive = some (.ok m) ∧
      let first := m.waiting.submitted Request.noOp
      first.ran.readiness = some readiness ∧ readiness = .forRead ∧
      ¬ 0 < first.ran.service.pendingWrites ∧
      (0 < first.ran.service.outstanding ∨ first.ran.service.inbox.reader.inProgress = true) ∧
      ¬ first.ran.service.AtRest ∧
      outcomeOf m.nextKey (m.waiting.refused Request.noOp ++ first.ran.completions) = none ∧
      (first.ran.readiness.getD .forRead).isEmpty = false := by
  have check : ((Multiplexer.start 2 (.constant [7]) { hmacKey := [1] } reticentDrive :
      Option (Except Failure (Multiplexer Drive (Callback (Option Nat))))).any fun started =>
      started.toOption.any fun m =>
        let first := m.waiting.submitted Request.noOp
        decide (first.ran.readiness = some .forRead ∧
          (outcomeOf m.nextKey
            (m.waiting.refused Request.noOp ++ first.ran.completions)).isNone = true)) = true := by
    decide +kernel
  obtain ⟨m, started, check⟩ := exists_started check
  obtain ⟨asks, nothing⟩ := of_decide_eq_true check
  have none := Option.isNone_iff_eq_none.mp nothing
  have exact_asks := (readiness_is_exact (σ := Drive)).1
    (m.waiting.submitted Request.noOp).inner.service .forRead asks
  have waits := (readiness_is_exact (σ := Drive)).2 m.waiting noOpPolicy Request.noOp 0 _ _
    (by decide) .first (.inl rfl) none
  obtain ⟨write, read, rests⟩ := exact_asks
  exact ⟨m, .forRead, started, asks, rfl, fun some => Bool.false_ne_true (write.mpr some),
    read.mp rfl, fun rest => Bool.false_ne_true (rests.mpr rest), none, waits.1⟩

end Reticent

end DriveLink
