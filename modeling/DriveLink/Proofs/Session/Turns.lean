import DriveLink.Proofs.Pipeline.Carried
import DriveLink.Proofs.Pipeline.Fuse
import DriveLink.Proofs.Session.Waiting

/-! # Calls as turns

To the connection below it, a call that waits is an owner who takes one turn after the other: the
call submits its request, then runs and lets time pass, and if it gives up it takes the request
back. So whatever holds of all lives of a connection holds of one that is used through calls.

* `SteadyWaits` — waiting for a channel takes nothing of what is written;
* `Blocking.Moment` — a moment in the life of a connection that is used through calls;
* `CallRun.eq_of_last`, `GivesUp.unique` — a call comes to an end in one way;
* `Blocking.GivesUp`, `Blocking.Ends`, `callWith_ends` — how a call comes to an end;
* `CallRun.moment` — what a call has done up to a run;
* `Blocking.Returns`, `callWith_returns` — and when it returns. -/

namespace DriveLink

open Metered (gauge)

/-! ## Waiting -/

/-- A channel whose **meter stands still** while somebody waits for it. -/
class SteadyWaits (σ : Type) [Channel σ] [Metered σ] [Pollable σ] : Prop where
  sleep (s : σ) (d : Duration) : gauge (Pollable.sleep s d) = gauge s
  register (s : σ) (registrar : Registrar) (interest : Interest) :
    gauge (Pollable.register s registrar interest).2 = gauge s
  reregister (s : σ) (registrar : Registrar) (interest : Interest) :
    gauge (Pollable.reregister s registrar interest).2 = gauge s
  deregister (s : σ) (registrar : Registrar) :
    gauge (Pollable.deregister s registrar).2 = gauge s
  poll (s : σ) (timeout : Duration) : gauge (Pollable.poll s timeout).2 = gauge s

instance {σ : Type} [Channel σ] [Pollable σ] : SteadyWaits (Recorder σ) where
  sleep _ _ := rfl
  register _ _ _ := rfl
  reregister _ _ _ := rfl
  deregister _ _ := rfl
  poll _ _ := rfl

section Waiting

variable {σ : Type} [Channel σ] [Metered σ] [Pollable σ] [SteadyWaits σ]

namespace Waiter

theorem gauge_enroll (waiter : Waiter) (interest : Interest) (s : σ) :
    gauge (waiter.enroll interest s).2.2 = gauge s := by
  have registers := SteadyWaits.register s waiter.registrar interest
  unfold enroll
  split
  · exact SteadyWaits.reregister s waiter.registrar interest
  · split <;> simp_all

/-- **Waiting** leaves the meter as it is. -/
theorem gauge_wait (waiter : Waiter) (readiness : Readiness) (timeout : Duration) (s : σ) :
    gauge (waiter.wait readiness timeout s).2.2 = gauge s := by
  have enrolls := waiter.gauge_enroll (readiness.interest?.getD .readable) s
  unfold wait
  split
  · split
    · rename_i enrolled
      rw [enrolled] at enrolls
      exact (SteadyWaits.poll _ timeout).trans enrolls
    · rename_i enrolled
      rw [enrolled] at enrolls
      exact enrolls
  · simp only
    split
    · rfl
    · exact SteadyWaits.sleep s _

theorem gauge_release (waiter : Waiter) (s : σ) : gauge (waiter.release s).2 = gauge s := by
  unfold release
  split
  · simp only
    split
    · exact SteadyWaits.deregister s waiter.registrar
    · rfl
  · rfl

end Waiter

end Waiting

/-- A turn in which the owner **runs the connection or lets time pass**. -/
def Turn.Waits {σ η : Type} : Turn σ η → Prop
  | run | elapse _ => True
  | _ => False

section Waits

variable {σ η : Type} {rest : List (Turn σ η)}

/-- Turns that only wait **submit nothing**. -/
theorem spares_of_waits (waits : ∀ turn ∈ rest, turn.Waits) (id : UInt32) :
    ∀ turn ∈ rest, turn.Spares id := by
  intro turn mem
  cases turn with
  | submit => exact (waits _ mem).elim
  | _ => exact trivial

theorem submitted_waits (waits : ∀ turn ∈ rest, turn.Waits) : Turn.submitted rest = [] := by
  rw [Turn.submitted, List.filterMap_eq_nil_iff]
  intro turn mem
  cases turn with
  | submit => exact (waits _ mem).elim
  | _ => rfl

/-- Turns that only wait take nothing back. -/
theorem not_removes_of_waits (waits : ∀ turn ∈ rest, turn.Waits) (key : RequestKey) :
    .remove key ∉ rest := fun mem => waits _ mem

end Waits

namespace Blocking

variable {σ τ : Type} {reply : Reply}

/-- The turn in which a call **submits its request**. -/
def submitting (b : Blocking σ τ) (request : Request reply) : Turn σ (Callback (Option τ)) :=
  .submit request.envelope (b.inner.prepare request.command) request.value
    (if reply = .silence then none else some { reply, tag := none })

/-- A call that waits has **submitted one request**. -/
theorem length_submitted_call (b : Blocking σ τ) (request : Request reply)
    {rest : List (Turn σ (Callback (Option τ)))} (waits : ∀ turn ∈ rest, turn.Waits) :
    (Turn.submitted (b.submitting request :: rest)).length = 1 := by
  rw [← List.singleton_append, Turn.submitted_append, submitted_waits waits]
  rfl

variable [Channel σ]

section Moments

variable [Metered σ]

/-- **A moment** in the life of a connection that is used through calls: what its owner has done so
far, turn by turn. -/
structure Moment (m : Multiplexer σ (Callback (Option τ)))
    (turns : List (Turn σ (Callback (Option τ)))) (b : Blocking σ τ) : Prop where
  service : b.inner.service = (m.live turns).service
  steady : m.Steady turns

namespace Moment

variable {m : Multiplexer σ (Callback (Option τ))} {turns : List (Turn σ (Callback (Option τ)))}
  {b b' : Blocking σ τ}

/-- The owner may take **any turn** in which the channel stays as it is. -/
theorem concat (h : Moment m turns b) {turn : Turn σ (Callback (Option τ))}
    (still : ∀ channel, turn = .elapse channel →
      gauge channel = gauge b.inner.service.channel)
    (service : b'.inner.service = (b.inner.service.turn turn).service) :
    Moment m (turns ++ [turn]) b' where
  service := by rw [service, h.service, Multiplexer.live_concat]
  steady := h.steady.append (.singleton (h.service ▸ still))

/-- The channel may **change by itself** as long as it takes nothing. -/
theorem elapse (h : Moment m turns b) {s : σ} (still : gauge s = gauge b.inner.service.channel)
    (service : b'.inner.service = { b.inner.service with channel := s }) :
    Moment m (turns ++ [.elapse s]) b' :=
  h.concat (by rintro _ ⟨⟩; exact still) service

theorem run (h : Moment m turns b) (service : b'.inner.service = b.inner.service.run.service) :
    Moment m (turns ++ [.run]) b' :=
  h.concat (by rintro _ ⟨⟩) service

/-- A call **submits its request**. -/
theorem submit (h : Moment m turns b) (request : Request reply)
    (service : b'.inner.service = (b.inner.submit request none).2.2.service) :
    Moment m (turns ++ [b.submitting request]) b' :=
  h.concat (by rintro _ ⟨⟩) service

/-- A call **takes its request back**. -/
theorem remove (h : Moment m turns b) (key : RequestKey)
    (service : b'.inner.service = (b.inner.remove key).2.service) :
    Moment m (turns ++ [.remove key]) b' := by
  refine h.concat (by rintro _ ⟨⟩) (service.trans ?_)
  rw [Multiplexer.turn, Connection.remove]
  rcases b.inner.service.remove key with ⟨_ | _, service⟩ <;> rfl

/-- A connection that is alive **has been alive** before. -/
theorem alive (h : Moment m turns b) {more : List (Turn σ (Callback (Option τ)))}
    (h' : Moment m (turns ++ more) b') (alive : b'.inner.service.failed = false) :
    b.inner.service.failed = false := by
  rw [h'.service] at alive
  rw [h.service]
  exact Multiplexer.alive_of_live alive

section Waiting

variable [Pollable σ] [SteadyWaits σ]

/-- **Waiting** lets time pass. -/
theorem wait (h : Moment m turns b) {readiness : Readiness} {timeout : Duration}
    {result : Except IoError Bool} (waits : b.wait readiness timeout = (result, b')) :
    ∃ s, Moment m (turns ++ [.elapse s]) b' := by
  cases waits
  exact ⟨_, h.elapse (b.waiter.gauge_wait readiness timeout _) rfl⟩

theorem releaseSource (h : Moment m turns b) :
    ∃ s, Moment m (turns ++ [.elapse s]) b.releaseSource :=
  ⟨_, h.elapse (b.waiter.gauge_release _) rfl⟩

end Waiting

end Moment

end Moments

/-! ## How a call ends -/

section Ends

variable [Pollable σ] {b : Blocking σ τ} {policy : WaitPolicy} {request : Request reply}

/-- **The runs of a call** follow from one another. -/
theorem CallRun.unique {timeout : Duration} {n : Nat}
    {done done' : List (Completion (Callback (Option τ)))} {b₁ b₁' : Blocking σ τ}
    (h : CallRun b timeout request n done b₁) (h' : CallRun b timeout request n done' b₁') :
    done = done' ∧ b₁ = b₁' := by
  induction h generalizing done' b₁' with
  | first =>
    cases h'
    exact ⟨rfl, rfl⟩
  | next run alive none ready ih =>
    cases h' with
    | next run' alive' none' ready' =>
      obtain ⟨rfl, rfl⟩ := ih run'
      rw [ready] at ready'
      exact ⟨rfl, (Prod.mk.inj ready').2⟩

/-- A call **comes to another run** behind this one. -/
def GoesFurther (b : Blocking σ τ) (timeout : Duration) (n : Nat)
    (done : List (Completion (Callback (Option τ)))) (b₁ : Blocking σ τ) : Prop :=
  b₁.GoesOn n ∧ outcomeOf b.inner.service.nextKey (done ++ b₁.ran.completions) = none ∧
    (b₁.afterRun.wait (b₁.ran.readiness.getD .forRead) timeout).1 = .ok true

/-- Before any run, the call **went further**. -/
theorem CallRun.goesFurther {timeout : Duration} {n k : Nat}
    {done done' : List (Completion (Callback (Option τ)))} {b₁ b₁' : Blocking σ τ}
    (h : CallRun b timeout request n done b₁) (earlier : CallRun b timeout request k done' b₁')
    (lt : k < n) : b.GoesFurther timeout k done' b₁' := by
  induction h with
  | first => exact absurd lt (Nat.not_lt_zero k)
  | @next n done b₁ b₂ run alive none ready ih =>
    rcases Nat.lt_or_eq_of_le (Nat.le_of_lt_succ lt) with before | rfl
    · exact ih before
    · obtain ⟨rfl, rfl⟩ := earlier.unique run
      exact ⟨alive, none, congrArg Prod.fst ready⟩

/-- A call has **one last run**. -/
theorem CallRun.eq_of_last {timeout : Duration} {n n' : Nat}
    {done done' : List (Completion (Callback (Option τ)))} {b₁ b₁' : Blocking σ τ}
    (h : CallRun b timeout request n done b₁) (h' : CallRun b timeout request n' done' b₁')
    (last : ¬ b.GoesFurther timeout n done b₁) (last' : ¬ b.GoesFurther timeout n' done' b₁') :
    n = n' ∧ done = done' ∧ b₁ = b₁' := by
  rcases Nat.lt_trichotomy n n' with lt | rfl | lt
  · exact absurd (h'.goesFurther h lt) last
  · exact ⟨rfl, h.unique h'⟩
  · exact absurd (h.goesFurther h' lt) last'

/-- In this state **a call gives up** on its request: it has waited in vain for longer than it may,
or could not wait, or has found the connection dead. -/
inductive GivesUp (b : Blocking σ τ) (timeout : Duration) (request : Request reply) :
    Blocking σ τ → Prop
  | vain {n : Nat} {done : List (Completion (Callback (Option τ)))} {b₁ b₂ : Blocking σ τ}
      {result : Except IoError Bool} (run : CallRun b timeout request n done b₁)
      (alive : b₁.GoesOn n)
      (none : outcomeOf b.inner.service.nextKey (done ++ b₁.ran.completions) = none)
      (waits : b₁.afterRun.wait (b₁.ran.readiness.getD .forRead) timeout = (result, b₂))
      (vain : result ≠ .ok true) : GivesUp b timeout request b₂
  | dead {n : Nat} {done : List (Completion (Callback (Option τ)))} {b₁ : Blocking σ τ}
      (run : CallRun b timeout request n done b₁) (dead : ¬ b₁.GoesOn n) :
      GivesUp b timeout request b₁.afterRun

/-- A call gives up **in one state** at most. -/
theorem GivesUp.unique {timeout : Duration} {b₁ b₂ : Blocking σ τ}
    (h : GivesUp b timeout request b₁) (h' : GivesUp b timeout request b₂) : b₁ = b₂ := by
  have last_of_vain {n : Nat} {done : List (Completion (Callback (Option τ)))}
      {b₁ b₂ : Blocking σ τ} {result : Except IoError Bool}
      (waits : b₁.afterRun.wait (b₁.ran.readiness.getD .forRead) timeout = (result, b₂))
      (vain : result ≠ .ok true) : ¬ b.GoesFurther timeout n done b₁ :=
    fun further => vain ((congrArg Prod.fst waits).symm.trans further.2.2)
  have last_of_dead {n : Nat} {done : List (Completion (Callback (Option τ)))}
      {b₁ : Blocking σ τ} (dead : ¬ b₁.GoesOn n) : ¬ b.GoesFurther timeout n done b₁ :=
    fun further => dead further.1
  cases h with
  | vain run alive none waits vain =>
    cases h' with
    | vain run' alive' none' waits' vain' =>
      obtain ⟨rfl, rfl, rfl⟩ := run.eq_of_last run' (last_of_vain waits vain)
        (last_of_vain waits' vain')
      exact congrArg Prod.snd (waits.symm.trans waits')
    | dead run' dead =>
      obtain ⟨rfl, rfl, rfl⟩ := run.eq_of_last run' (last_of_vain waits vain) (last_of_dead dead)
      exact absurd alive dead
  | dead run dead =>
    cases h' with
    | vain run' alive none waits vain =>
      obtain ⟨rfl, rfl, rfl⟩ := run.eq_of_last run' (last_of_dead dead) (last_of_vain waits vain)
      exact absurd alive dead
    | dead run' dead' =>
      obtain ⟨-, -, rfl⟩ := run.eq_of_last run' (last_of_dead dead) (last_of_dead dead')
      rfl

/-- A call that has an outcome **does not give up**. -/
theorem not_givesUp_of_found {timeout : Duration} {n : Nat}
    {done : List (Completion (Callback (Option τ)))} {b₁ : Blocking σ τ}
    (run : CallRun b timeout request n done b₁) (alive : b₁.GoesOn n) {outcome : DriveLink.Outcome}
    (found : outcomeOf b.inner.service.nextKey (done ++ b₁.ran.completions) = some outcome)
    (b₂ : Blocking σ τ) : ¬ GivesUp b timeout request b₂ := by
  have last : ¬ b.GoesFurther timeout n done b₁ := by
    rintro ⟨-, none, -⟩
    rw [none] at found
    cases found
  rintro (⟨run', -, none, waits, vain⟩ | ⟨run', dead⟩)
  · obtain ⟨rfl, rfl, rfl⟩ := run.eq_of_last run' last fun further =>
      vain ((congrArg Prod.fst waits).symm.trans further.2.2)
    rw [none] at found
    cases found
  · obtain ⟨rfl, -, rfl⟩ := run.eq_of_last run' last fun further => dead further.1
    exact dead alive

/-- The call **recalls its request**: when it gives up, the request still waits for its turn. -/
def Recalls (b : Blocking σ τ) (timeout : Duration) (request : Request reply) : Prop :=
  ∃ b₁, GivesUp b timeout request b₁ ∧
    ∃ queued ∈ b₁.inner.service.outbox.queue, queued.key = b.inner.service.nextKey

theorem GivesUp.recalls_iff {timeout : Duration} {b₁ : Blocking σ τ}
    (h : GivesUp b timeout request b₁) :
    b.Recalls timeout request ↔
      ∃ queued ∈ b₁.inner.service.outbox.queue, queued.key = b.inner.service.nextKey := by
  constructor
  · rintro ⟨b₂, givesUp, waiting⟩
    rwa [h.unique givesUp]
  · exact fun waiting => ⟨b₁, h, waiting⟩

/-- **How a call ends**, before it releases the source. -/
inductive Ends (b : Blocking σ τ) (policy : WaitPolicy) (request : Request reply) :
    Awaited σ τ → Prop
  | answered {n : Nat} {done : List (Completion (Callback (Option τ)))} {b₁ : Blocking σ τ}
      {outcome : DriveLink.Outcome} (run : CallRun b policy.timeout request n done b₁)
      (alive : b₁.GoesOn n)
      (found : outcomeOf b.inner.service.nextKey (done ++ b₁.ran.completions) = some outcome) :
      Ends b policy request ⟨.ok outcome, done ++ b₁.ran.completions, b₁.afterRun⟩
  | gaveUp {b₁ : Blocking σ τ} (givesUp : GivesUp b policy.timeout request b₁)
      (completions : List (Completion (Callback (Option τ)))) (status : Status) :
      Ends b policy request (b₁.giveUp b.inner.service.nextKey completions status)

/-- From any run on with which it goes on, **a call ends** in one of these ways if it ends. -/
theorem CallRun.ends {n : Nat} {done : List (Completion (Callback (Option τ)))}
    {b₁ : Blocking σ τ} (run : CallRun b policy.timeout request n done b₁) (alive : b₁.GoesOn n)
    {patience : Nat} {awaited : Awaited σ τ}
    (returned : awaitOutcome b.inner.service.nextKey policy patience
      (b₁.ran.readiness.getD .forRead) (done ++ b₁.ran.completions) b₁.afterRun = some awaited) :
    Ends b policy request awaited := by
  induction patience generalizing n done b₁ with
  | zero =>
    rw [awaitOutcome] at returned
    obtain ⟨outcome, found, rfl⟩ := Option.map_eq_some_iff.mp returned
    exact .answered run alive found
  | succ patience ih =>
    cases found : outcomeOf b.inner.service.nextKey (done ++ b₁.ran.completions) with
    | some outcome =>
      rw [awaitOutcome_of_outcome found] at returned
      cases returned
      exact .answered run alive found
    | none =>
      cases waits : b₁.afterRun.wait (b₁.ran.readiness.getD .forRead) policy.timeout with
      | mk result b₂ =>
        cases result with
        | error error =>
          simp only [awaitOutcome, found, waits] at returned
          cases returned
          exact .gaveUp (.vain run alive found waits (by simp)) _ _
        | ok ready =>
          cases ready with
          | false =>
            simp only [awaitOutcome, found, waits] at returned
            cases returned
            exact .gaveUp (.vain run alive found waits (by simp)) _ _
          | true =>
            obtain ⟨goes_on, stops⟩ := awaitOutcome_of_ready found waits patience
            cases readiness_eq : b₂.ran.readiness with
            | some readiness =>
              rw [goes_on readiness readiness_eq] at returned
              exact ih (run.next alive found waits) (.inr (by simp [readiness_eq]))
                (by simpa [readiness_eq] using returned)
            | none =>
              rw [stops readiness_eq] at returned
              cases returned
              have dead := run.next alive found waits
              exact .gaveUp (.dead dead (by simp [GoesOn, readiness_eq])) _ _

/-- **A call that returns** ends in one of these ways. -/
theorem callWith_ends {patience : Nat} {called : Called σ τ reply.Result}
    (returned : b.callWith patience policy request = some called) :
    ∃ awaited, Ends b policy request awaited ∧ called = finish reply awaited := by
  rw [callWith_eq] at returned
  obtain ⟨awaited, awaits, rfl⟩ := Option.map_eq_some_iff.mp returned
  exact ⟨awaited, CallRun.first.ends (.inl rfl) awaits, rfl⟩

end Ends

/-! ## What a call does -/

section Calls

variable [Metered σ] [Pollable σ] [SteadyWaits σ] {m : Multiplexer σ (Callback (Option τ))}
  {turns : List (Turn σ (Callback (Option τ)))} {b b' : Blocking σ τ} {policy : WaitPolicy}
  {request : Request reply}

omit [Pollable σ] [SteadyWaits σ] in
/-- Behind a run and a wait, the completions of that run are **added to those before** it. -/
theorem Moment.completions_run {first : Turn σ (Callback (Option τ))}
    {rest : List (Turn σ (Callback (Option τ)))} (moment : Moment m (turns ++ first :: rest) b)
    (s : σ) :
    Event.completions ((m.live turns).service.live (first :: (rest ++ [.run, .elapse s]))).events =
      Event.completions ((m.live turns).service.live (first :: rest)).events ++
        b.ran.completions := by
  have service : b.inner.service = ((m.live turns).service.live (first :: rest)).service := by
    rw [moment.service, Multiplexer.live_append]
  have events_eq : (b.inner.service.live [.run, .elapse s]).events = b.ran.events :=
    List.append_nil _
  rw [← List.cons_append, Multiplexer.live_append, Event.completions_append, ← service, events_eq]
  rfl

/-- **What a call has done** up to a run: it has submitted its request, and then only run the
connection and waited. What is completed meanwhile are the completions before that run. -/
theorem CallRun.moment {timeout : Duration} {n : Nat}
    {done : List (Completion (Callback (Option τ)))}
    (h : CallRun b timeout request n done b') (start : Moment m turns b) :
    ∃ rest, (∀ turn ∈ rest, turn.Waits) ∧ Moment m (turns ++ b.submitting request :: rest) b' ∧
      Event.completions ((m.live turns).service.live (b.submitting request :: rest)).events =
        done := by
  induction h with
  | first =>
    refine ⟨[], by simp, start.submit request rfl, ?_⟩
    rw [Multiplexer.live_cons, Event.completions_append, submitting, completions_turn_submit,
      ← start.service]
    exact List.append_nil _
  | @next n done b₁ b₂ run alive none ready ih =>
    obtain ⟨rest, waits, moment, completions_eq⟩ := ih
    have runs : Moment m (turns ++ b.submitting request :: rest ++ [.run]) b₁.afterRun :=
      moment.run rfl
    obtain ⟨s, behind⟩ := runs.wait ready
    refine ⟨rest ++ [.run, .elapse s], ?_, by simpa using behind, ?_⟩
    · simpa [or_imp, forall_and, Turn.Waits] using waits
    · rw [moment.completions_run, completions_eq]

/-- Up to the moment when it gives up, **a call has only waited**. -/
theorem GivesUp.moment {timeout : Duration} (h : GivesUp b timeout request b')
    (start : Moment m turns b) :
    ∃ rest, (∀ turn ∈ rest, turn.Waits) ∧
      Moment m (turns ++ b.submitting request :: rest) b' := by
  cases h with
  | @vain n done b₁ _ result run alive none waits vain =>
    obtain ⟨rest, waited, moment, -⟩ := run.moment start
    have runs : Moment m (turns ++ b.submitting request :: rest ++ [.run]) b₁.afterRun :=
      moment.run rfl
    obtain ⟨s, behind⟩ := runs.wait waits
    refine ⟨rest ++ [.run, .elapse s], ?_, by simpa using behind⟩
    simpa [or_imp, forall_and, Turn.Waits] using waited
  | dead run dead =>
    obtain ⟨rest, waited, moment, -⟩ := run.moment start
    refine ⟨rest ++ [.run], ?_, by simpa using moment.run rfl⟩
    simpa [or_imp, forall_and, Turn.Waits] using waited

/-- **How a call returns**, seen from the connection below it. -/
inductive Returns (m : Multiplexer σ (Callback (Option τ)))
    (turns : List (Turn σ (Callback (Option τ)))) (b : Blocking σ τ) (policy : WaitPolicy)
    (request : Request reply) (called : Called σ τ reply.Result) : Prop
  /-- It has only waited, and its handler has been called. -/
  | answered (holds : ∀ b₁, ¬ GivesUp b policy.timeout request b₁)
      {rest : List (Turn σ (Callback (Option τ)))} (waits : ∀ turn ∈ rest, turn.Waits)
      (moment : Moment m (turns ++ b.submitting request :: rest) called.connection)
      {completion : Completion (Callback (Option τ))}
      (mem : completion ∈
        Event.completions ((m.live turns).service.live (b.submitting request :: rest)).events)
      (own : completion.key = b.inner.service.nextKey)
      (result : called.result = completion.outcome.read reply)
  /-- It has waited and then taken its request back. -/
  | gaveUp {b₁ : Blocking σ τ} {rest : List (Turn σ (Callback (Option τ)))} {s : σ}
      (givesUp : GivesUp b policy.timeout request b₁) (waits : ∀ turn ∈ rest, turn.Waits)
      (before : Moment m (turns ++ b.submitting request :: rest) b₁)
      (moment : Moment m (turns ++ b.submitting request :: rest ++
        [.remove b.inner.service.nextKey, .elapse s]) called.connection)
      {status : Status} (result : called.result = .error status)

/-- **What a call has done** when it returns. -/
theorem callWith_returns (start : Moment m turns b) {patience : Nat}
    {called : Called σ τ reply.Result}
    (returned : b.callWith patience policy request = some called) :
    Returns m turns b policy request called := by
  obtain ⟨awaited, ends, rfl⟩ := callWith_ends returned
  cases ends with
  | @answered n done b₁ outcome run alive found =>
    obtain ⟨rest, waits, moment, completions_eq⟩ := run.moment start
    have runs : Moment m (turns ++ b.submitting request :: rest ++ [.run]) b₁.afterRun :=
      moment.run rfl
    obtain ⟨s, behind⟩ := runs.releaseSource
    obtain ⟨completion, first, rfl⟩ := Option.map_eq_some_iff.mp found
    have returns : Moment m (turns ++ b.submitting request :: (rest ++ [.run, .elapse s]))
        b₁.afterRun.releaseSource := by simpa using behind
    have mem : completion ∈ Event.completions ((m.live turns).service.live
        (b.submitting request :: (rest ++ [.run, .elapse s]))).events := by
      rw [moment.completions_run, completions_eq]
      exact List.mem_of_find?_eq_some first
    have own := List.find?_some first
    exact .answered (not_givesUp_of_found run alive found)
      (by simpa [or_imp, forall_and, Turn.Waits] using waits) returns mem
      (of_decide_eq_true own) rfl
  | @gaveUp b₁ givesUp completions status =>
    obtain ⟨rest, waits, before⟩ := givesUp.moment start
    have removed : Moment m (turns ++ b.submitting request :: rest ++
        [.remove b.inner.service.nextKey])
        (b₁.giveUp b.inner.service.nextKey completions status).connection :=
      before.remove _ rfl
    obtain ⟨s, behind⟩ := removed.releaseSource
    exact .gaveUp givesUp waits before (by simpa [finish] using behind) rfl

end Calls

end Blocking

end DriveLink
