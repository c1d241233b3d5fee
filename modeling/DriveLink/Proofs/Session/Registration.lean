import DriveLink.Proofs.Channel.Logbook
import DriveLink.Proofs.Pipeline.Untouched
import DriveLink.Proofs.Session.History

/-! # The discipline of the waits

A connection waits for its source while it is greeted, and later in every call. In between the
source belongs to whoever polls it otherwise, so a wait must not leave it registered, whatever the
calls to the source come to. The waiter keeps its registration from one wait to the next, and every
way out of a loop of waits passes through the release.

* `Orderly` — calls to a source in order, behind which it is free;
* `Interest.Suits` — what a wait asks for, by what has been asked of it;
* `GreetingRound`, `GreetingWaited`, `orderly_of_greet` — the waits for a greeting;
* `Blocking.Minds` — a connection that minds its source;
* `Blocking.Follows` — one call behind each run that a call waits behind, for what the run asks for;
* `Blocking.Waited`, `exists_waited_of_callWith` — the waits of a call;
* `waits_are_disciplined` — the waits of a connection, in any history. -/

namespace DriveLink

variable {σ η τ : Type}

/-- Calls to a source **in order, behind which it is free**. -/
structure Orderly (calls : List SourceCall) : Prop where
  disciplined : Disciplined calls
  free : holder calls = none

/-- What a source is registered for **suits what is wanted**: room to write exactly if that is
wanted, and bytes to read exactly if they are wanted, or nothing is. -/
structure Interest.Suits (interest : Interest) (wanted : Readiness) : Prop where
  writes : interest.writes = true ↔ wanted.write = true
  reads : interest.reads = true ↔
    wanted.read = true ∨ (wanted.read = false ∧ wanted.write = false)

/-- **A wait behind a run** asks for what suits that run. A run that has found the connection dead
wants nothing. -/
theorem Readiness.suits_interest (ran : Option Readiness) :
    ((ran.getD .forRead).interest?.getD .readable).Suits (ran.getD {}) := by
  rcases ran with _ | ⟨_ | _, _ | _⟩ <;> exact ⟨by decide, by decide⟩

/-- A call to a source **asks for what is wanted**. -/
def SourceCall.AsksFor (call : SourceCall) (wanted : Readiness) : Prop :=
  ∃ interest, call.interest? = some interest ∧ interest.Suits wanted

namespace Logbook

/-- Reading and writing are **no calls to the source**. -/
theorem untouched [Channel σ] : Channel.Untouched fun s : Logbook σ => s.log :=
  ⟨fun _ _ => rfl, fun _ _ => rfl, fun _ => rfl⟩

/-- The channel changes as it likes, and **no wait calls the source**. -/
def Quiet (s s' : Logbook σ) : Prop := s'.log = s.log

end Logbook

/-- A waiter minds the source **as long as nobody calls it**. -/
theorem Waiter.Minds.quiet {waiter : Waiter} {s s' : Logbook σ} (h : waiter.Minds s)
    (quiet : s.Quiet s') : waiter.Minds s' := by
  have log_eq : s'.log = s.log := quiet
  constructor
  · rw [log_eq]
    exact h.disciplined
  · rw [log_eq]
    exact h.holder_eq

variable [Channel σ] [Pollable σ]

/-! ## The greeting -/

/-- Whoever awaits the greeting **waits behind the next receive**: the greeting is not in yet, the
channel works, and it is not too late. -/
def AwaitsLonger (deadline : Nat) (inbox : Inbox Unit) (s : σ) : Prop :=
  greetingResult (inbox.receive s).completions = none ∧ (inbox.receive s).activity ≠ .failed ∧
    Pollable.now (inbox.receive s).channel < deadline

/-- **The rounds of a greeting**: from one state before a receive it comes to another, with so many
waits in between. -/
inductive GreetingRound (deadline : Nat) :
    Inbox Unit → Waiter → σ → Nat → Inbox Unit → Waiter → σ → Prop
  | first {inbox : Inbox Unit} {waiter : Waiter} {s : σ} :
      GreetingRound deadline inbox waiter s 0 inbox waiter s
  | next {inbox inbox₁ : Inbox Unit} {waiter waiter' waiter₁ : Waiter} {s s' s₁ : σ} {n : Nat}
      {ready : Bool} (awaits : AwaitsLonger deadline inbox s)
      (waits : waiter.wait .forRead ⟨deadline - Pollable.now (inbox.receive s).channel⟩
        (inbox.receive s).channel = (.ok ready, waiter', s'))
      (later : GreetingRound deadline (inbox.receive s).inbox waiter' s' n inbox₁ waiter₁ s₁) :
      GreetingRound deadline inbox waiter s (n + 1) inbox₁ waiter₁ s₁

/-- **The waits for a greeting** have made these calls: one for each of them, for nothing but bytes
to read. -/
structure GreetingWaited (deadline : Nat) (inbox : Inbox Unit) (waiter : Waiter) (s : Logbook σ)
    (calls : List SourceCall) : Prop where
  each : ∀ n inbox₁ waiter₁ s₁, GreetingRound deadline inbox waiter s n inbox₁ waiter₁ s₁ →
    AwaitsLonger deadline inbox₁ s₁ → ∃ call, calls[n]? = some call ∧
      s₁.log = s.log ++ calls.take n ∧ call.interest? = some .readable
  only : ∀ n < calls.length, ∃ inbox₁ waiter₁ s₁,
    GreetingRound deadline inbox waiter s n inbox₁ waiter₁ s₁ ∧ AwaitsLonger deadline inbox₁ s₁

namespace GreetingWaited

variable {deadline : Nat} {inbox : Inbox Unit} {waiter waiter' : Waiter} {s s' : Logbook σ}
  {call : SourceCall}

/-- Whoever **does not wait** makes no calls. -/
theorem none (stops : ¬ AwaitsLonger deadline inbox s) :
    GreetingWaited deadline inbox waiter s [] where
  each := by
    intro n inbox₁ waiter₁ s₁ round awaits
    cases round with
    | first => exact absurd awaits stops
    | next awaits => exact absurd awaits stops
  only := nofun

/-- A wait that fails is **the last one**. -/
theorem last (awaits : AwaitsLonger deadline inbox s) {error : IoError}
    (fails : waiter.wait .forRead ⟨deadline - Pollable.now (inbox.receive s).channel⟩
      (inbox.receive s).channel = (.error error, waiter', s'))
    (asks : call.interest? = some .readable) :
    GreetingWaited deadline inbox waiter s [call] where
  each := by
    intro n inbox₁ waiter₁ s₁ round awaits
    cases round with
    | first => exact ⟨call, rfl, (List.append_nil _).symm, asks⟩
    | next _ waits =>
      rw [fails] at waits
      cases waits
  only n inside := by
    obtain rfl : n = 0 := Nat.lt_one_iff.mp inside
    exact ⟨inbox, waiter, s, .first, awaits⟩

/-- A wait that succeeds leads to **another receive**, and to what is waited behind that. -/
theorem cons (awaits : AwaitsLonger deadline inbox s) {ready : Bool}
    (waits : waiter.wait .forRead ⟨deadline - Pollable.now (inbox.receive s).channel⟩
      (inbox.receive s).channel = (.ok ready, waiter', s'))
    (one : s'.log = s.log ++ [call]) (asks : call.interest? = some .readable)
    {calls : List SourceCall}
    (later : GreetingWaited deadline (inbox.receive s).inbox waiter' s' calls) :
    GreetingWaited deadline inbox waiter s (call :: calls) where
  each := by
    intro n inbox₁ waiter₁ s₁ round awaits₁
    cases round with
    | first => exact ⟨call, rfl, (List.append_nil _).symm, asks⟩
    | next _ waits' round =>
      rw [waits] at waits'
      cases waits'
      obtain ⟨other, at_n, log_eq, asks⟩ := later.each _ _ _ _ round awaits₁
      refine ⟨other, at_n, ?_, asks⟩
      rw [log_eq, one, List.append_assoc]
      rfl
  only n inside := by
    cases n with
    | zero => exact ⟨inbox, waiter, s, .first, awaits⟩
    | succ n =>
      obtain ⟨inbox₁, waiter₁, s₁, round, awaits₁⟩ := later.only n (Nat.lt_of_succ_lt_succ inside)
      exact ⟨inbox₁, waiter₁, s₁, .next awaits waits round, awaits₁⟩

end GreetingWaited

/-- **What one round of waiting for the greeting does**: it waits and then receives again, or fails
in its wait, or does not wait at all. -/
theorem awaitGreeting_cases {waiter : Waiter} {s : σ} {timeout : Duration}
    {deadline patience : Nat} {inbox : Inbox Unit} {step : GreetingStep σ}
    (returned : awaitGreeting timeout deadline (patience + 1) inbox waiter s = some step) :
    (¬ AwaitsLonger deadline inbox s ∧ step.waiter = waiter ∧
      step.channel = (inbox.receive s).channel) ∨
    AwaitsLonger deadline inbox s ∧
      ((∃ ready waiter' s', waiter.wait .forRead ⟨deadline - Pollable.now (inbox.receive s).channel⟩
          (inbox.receive s).channel = (.ok ready, waiter', s') ∧
        awaitGreeting timeout deadline patience (inbox.receive s).inbox waiter' s' = some step) ∨
      ∃ error, waiter.wait .forRead ⟨deadline - Pollable.now (inbox.receive s).channel⟩
          (inbox.receive s).channel = (.error error, step.waiter, step.channel)) := by
  rw [awaitGreeting] at returned
  simp only at returned
  split at returned
  · rename_i answered
    cases returned
    exact .inl ⟨fun awaits => Option.some_ne_none _ (answered.symm.trans awaits.1), rfl, rfl⟩
  · rename_i refused
    cases returned
    exact .inl ⟨fun awaits => Option.some_ne_none _ (refused.symm.trans awaits.1), rfl, rfl⟩
  · rename_i nothing
    split at returned
    · rename_i fails
      cases returned
      exact .inl ⟨fun awaits => awaits.2.1 fails, rfl, rfl⟩
    · rename_i works
      split at returned
      · rename_i late
        cases returned
        exact .inl ⟨fun awaits => Nat.not_lt.mpr late awaits.2.2, rfl, rfl⟩
      · rename_i early
        refine .inr ⟨⟨nothing, works, Nat.not_le.mp early⟩, ?_⟩
        split at returned
        · rename_i waited
          exact .inl ⟨_, _, _, waited, returned⟩
        · rename_i waited
          cases returned
          exact .inr ⟨_, waited⟩

/-- **Waiting for the greeting** is one call to the source for each wait. -/
theorem Waiter.Minds.awaitGreeting {waiter : Waiter} {s : Logbook σ} (h : waiter.Minds s)
    {timeout : Duration} {deadline patience : Nat} {inbox : Inbox Unit}
    {step : GreetingStep (Logbook σ)}
    (returned : awaitGreeting timeout deadline patience inbox waiter s = some step) :
    step.waiter.Minds step.channel ∧ ∃ calls, step.channel.log = s.log ++ calls ∧
      GreetingWaited deadline inbox waiter s calls := by
  induction patience generalizing inbox waiter s with
  | zero => cases returned
  | succ patience ih =>
    have log_eq : (inbox.receive s).channel.log = s.log := Logbook.untouched.receive inbox s
    have minds : waiter.Minds (inbox.receive s).channel := h.quiet log_eq
    -- one call for a wait, and then as before
    obtain ⟨behind, call, one, asks⟩ := minds.wait .forRead
      ⟨deadline - Pollable.now (inbox.receive s).channel⟩
    rw [log_eq] at one
    obtain ⟨stops, waiter_eq, channel_eq⟩ |
      ⟨awaits, ⟨ready, waiter', s', waited, later⟩ | ⟨error, fails⟩⟩ := awaitGreeting_cases returned
    · rw [waiter_eq, channel_eq]
      exact ⟨minds, [], log_eq.trans (List.append_nil _).symm, .none stops⟩
    · rw [waited] at behind one
      obtain ⟨minds, calls, log_eq, waits⟩ := ih behind later
      refine ⟨minds, call :: calls, ?_, .cons awaits waited one asks waits⟩
      rw [log_eq, one, List.append_assoc]
      rfl
    · rw [fails] at behind one
      exact ⟨behind, [call], one, .last awaits fails asks⟩

/-- **To release the source** takes at most one call, which gives the registration back. -/
def Releases (last : List SourceCall) : Prop :=
  last = [] ∨ ∃ registrar succeeds, last = [.deregister registrar succeeds]

/-- **Whatever comes of the greeting**, the calls to the source are in order, one for each wait and
at most one to release it, and the source is free afterwards. -/
theorem orderly_of_greet {patience : Nat} {signer : Signer} {options : Options} {s s' : Logbook σ}
    {result : Except Failure (Greeted η)} (before : Orderly s.log)
    (greets : greet patience signer options s = some (result, s')) :
    Orderly s'.log ∧ ∃ during last, s'.log = s.log ++ (during ++ last) ∧ Releases last ∧
      GreetingWaited (Pollable.now s + options.handshakeTimeout.nanoseconds)
        (.forGreeting signer options) { registrar := .greeting } s during := by
  have minds : ({ registrar := .greeting } : Waiter).Minds s :=
    .of_free before.disciplined before.free rfl
  unfold greet at greets
  simp only at greets
  split at greets
  · cases greets
  · rename_i step awaits
    obtain ⟨minds, during, log_eq, waits⟩ := minds.awaitGreeting awaits
    obtain ⟨minds, released, last, released_eq, gives_back⟩ := minds.release
    have channel_eq : (step.waiter.release step.channel).2 = s' := by
      split at greets
      · exact (Prod.mk.inj (Option.some.inj greets)).2
      · exact (Prod.mk.inj (Option.some.inj greets)).2
    rw [channel_eq] at minds released_eq
    refine ⟨⟨minds.disciplined, minds.free released⟩, during, last, ?_, gives_back, waits⟩
    rw [released_eq, log_eq, List.append_assoc]

/-- A connection that is started has been **greeted on its channel**. -/
theorem Multiplexer.exists_greet_of_start {patience : Nat} {signer : Signer} {options : Options}
    {s : σ} {m : Multiplexer σ η} (started : start patience signer options s = some (.ok m)) :
    ∃ greeted : Greeted η, greet patience signer options s = some (.ok greeted, m.channel) := by
  unfold start at started
  split at started
  · cases started
  · cases started
  · rename_i greeted s' greets
    cases started
    exact ⟨greeted, greets⟩

/-! ## Calls that wait -/

namespace Blocking

variable {b b₁ b₂ : Blocking (Logbook σ) τ} {reply : Reply} {policy : WaitPolicy}
  {request : Request reply} {timeout : Duration} {n : Nat}
  {done : List (Completion (Callback (Option τ)))} {waits : List SourceCall} {call : SourceCall}

omit [Channel σ] [Pollable σ] in
/-- **The calls to the source** so far. -/
def log (b : Blocking (Logbook σ) τ) : List SourceCall := b.inner.service.channel.log

/-- The connection **minds its source**. -/
def Minds (b : Blocking (Logbook σ) τ) : Prop := b.waiter.Minds b.inner.service.channel

omit [Pollable σ] in
theorem log_afterRun (b : Blocking (Logbook σ) τ) : b.afterRun.log = b.log :=
  Logbook.untouched.run b.inner.service

omit [Pollable σ] in
theorem Minds.afterRun (h : b.Minds) : b.afterRun.Minds := Waiter.Minds.quiet h b.log_afterRun

omit [Channel σ] [Pollable σ] in
theorem channel_submit {σ : Type} (b : Blocking σ τ) (request : Request reply) (tag : Option τ) :
    (b.inner.submit request tag).2.2.service.channel = b.inner.service.channel := by
  unfold Connection.submit Multiplexer.submit
  simp only
  split <;> rfl

omit [Channel σ] [Pollable σ] in
theorem channel_remove {σ : Type} (b : Blocking σ τ) (key : RequestKey) :
    (b.inner.remove key).2.service.channel = b.inner.service.channel := by
  unfold Connection.remove Multiplexer.remove
  simp only
  split <;> rfl

omit [Channel σ] [Pollable σ] in
theorem Minds.submitted (h : b.Minds) (request : Request reply) : (b.submitted request).Minds := by
  have quiet : b.inner.service.channel.Quiet (b.submitted request).inner.service.channel :=
    congrArg Logbook.log (b.channel_submit request none)
  obtain ⟨disciplined, holder_eq⟩ := Waiter.Minds.quiet h quiet
  exact ⟨disciplined, holder_eq⟩

omit [Channel σ] [Pollable σ] in
theorem log_giveUp (b : Blocking (Logbook σ) τ) (key : RequestKey)
    (completions : List (Completion (Callback (Option τ)))) (status : Status) :
    (b.giveUp key completions status).connection.log = b.log :=
  congrArg Logbook.log (b.channel_remove key)

omit [Channel σ] [Pollable σ] in
theorem Minds.giveUp (h : b.Minds) (key : RequestKey)
    (completions : List (Completion (Callback (Option τ)))) (status : Status) :
    (b.giveUp key completions status).connection.Minds :=
  Waiter.Minds.quiet h (b.log_giveUp key completions status)

/-- **A wait behind a run** makes one call to the source, for what the run asks for. -/
theorem Minds.waitAfterRun (h : b.Minds) {result : Except IoError Bool}
    (waits : b.afterRun.wait (b.ran.readiness.getD .forRead) timeout = (result, b₁)) :
    b₁.Minds ∧ ∃ call : SourceCall, b₁.log = b.log ++ [call] ∧
      call.AsksFor (b.ran.readiness.getD {}) := by
  cases waits
  obtain ⟨minds, call, one, asks⟩ :=
    Waiter.Minds.wait h.afterRun (b.ran.readiness.getD .forRead) timeout
  refine ⟨minds, call, ?_, _, asks, Readiness.suits_interest b.ran.readiness⟩
  rw [← b.log_afterRun]
  exact one

omit [Pollable σ] in
/-- **A call waits behind a run**: it goes on, and has no outcome yet. -/
def WaitsBehind {σ : Type} [Channel σ] (b : Blocking σ τ) (n : Nat)
    (done : List (Completion (Callback (Option τ)))) (b₁ : Blocking σ τ) : Prop :=
  b₁.GoesOn n ∧ outcomeOf b.inner.service.nextKey (done ++ b₁.ran.completions) = none

/-- The calls to the source **follow the runs** of a call one for one: each is made directly behind
a run that the call waits behind, and asks for what that run wants. -/
def Follows (b : Blocking (Logbook σ) τ) (timeout : Duration) (request : Request reply)
    (calls : List SourceCall) : Prop :=
  ∀ n call, calls[n]? = some call → ∃ done b₁, b.CallRun timeout request n done b₁ ∧
    b.WaitsBehind n done b₁ ∧ b₁.log = b.log ++ calls.take n ∧
    call.AsksFor (b₁.ran.readiness.getD {})

/-- Behind the next run there is **one call more**. -/
theorem Follows.concat (h : b.Follows timeout request waits)
    (run : b.CallRun timeout request waits.length done b₁)
    (behind : b.WaitsBehind waits.length done b₁) (log_eq : b₁.log = b.log ++ waits)
    (asks : call.AsksFor (b₁.ran.readiness.getD {})) :
    b.Follows timeout request (waits ++ [call]) := by
  intro n other at_n
  rcases getElem?_of_concat at_n with before | ⟨rfl, rfl⟩
  · obtain ⟨inside, -⟩ := List.getElem?_eq_some_iff.mp before
    rw [List.take_append_of_le_length (Nat.le_of_lt inside)]
    exact h n other before
  · rw [List.take_left]
    exact ⟨done, b₁, run, behind, log_eq, asks⟩

/-- **Up to a run of a call**, there is one call to the source behind each run before. -/
theorem CallRun.follows (run : b.CallRun timeout request n done b₁) (minds : b.Minds) :
    b₁.Minds ∧ ∃ waits, waits.length = n ∧ b₁.log = b.log ++ waits ∧
      b.Follows timeout request waits := by
  induction run with
  | first =>
    refine ⟨minds.submitted request, [], rfl, ?_, nofun⟩
    rw [List.append_nil]
    exact congrArg Logbook.log (b.channel_submit request Option.none)
  | @next n done b₁ b₂ run alive none ready ih =>
    obtain ⟨minds, waits, rfl, log_eq, follows⟩ := ih
    obtain ⟨minds, call, one, asks⟩ := minds.waitAfterRun ready
    refine ⟨minds, waits ++ [call], List.length_append, ?_,
      follows.concat run ⟨alive, none⟩ log_eq asks⟩
    rw [one, log_eq, List.append_assoc]

/-- **No run comes behind the last one** of a call. -/
theorem CallRun.le_of_last {σ : Type} [Channel σ] [Pollable σ] {b b₁ b₂ : Blocking σ τ}
    {k : Nat} {done' : List (Completion (Callback (Option τ)))}
    (run : b.CallRun timeout request n done b₁) (other : b.CallRun timeout request k done' b₂)
    (last : ¬ b.GoesFurther timeout n done b₁) : k ≤ n :=
  Nat.not_lt.mp fun lt => last (other.goesFurther run lt)

/-- Behind the last run, a call waits **only if it gives up there**. -/
theorem CallRun.lt_of_waitsBehind {σ : Type} [Channel σ] [Pollable σ] {b b₁ b₂ : Blocking σ τ}
    {k : Nat} {done' : List (Completion (Callback (Option τ)))}
    (run : b.CallRun timeout request n done b₁) (stops : ¬ b.WaitsBehind n done b₁)
    (other : b.CallRun timeout request k done' b₂) (behind : b.WaitsBehind k done' b₂) : k < n := by
  have le := run.le_of_last other fun further => stops ⟨further.1, further.2.1⟩
  refine Nat.lt_of_le_of_ne le ?_
  rintro rfl
  obtain ⟨rfl, rfl⟩ := other.unique run
  exact stops behind

/-- **However a call ends**, there was one call to the source behind each run that it waited
behind. -/
theorem Ends.follows {awaited : Awaited (Logbook σ) τ} (h : Ends b policy request awaited)
    (minds : b.Minds) :
    awaited.connection.Minds ∧ ∃ waits, awaited.connection.log = b.log ++ waits ∧
      b.Follows policy.timeout request waits ∧
      ∀ n done b₁, b.CallRun policy.timeout request n done b₁ → b.WaitsBehind n done b₁ →
        n < waits.length := by
  cases h with
  | answered run alive found =>
    obtain ⟨minds, waits, rfl, log_eq, follows⟩ := run.follows minds
    refine ⟨minds.afterRun, waits, (log_afterRun _).trans log_eq, follows, fun _ _ _ other =>
      run.lt_of_waitsBehind (fun behind => ?_) other⟩
    cases found.symm.trans behind.2
  | gaveUp givesUp completions status =>
    cases givesUp with
    | vain run alive none ready vain =>
      obtain ⟨minds, waits, rfl, log_eq, follows⟩ := run.follows minds
      obtain ⟨minds, call, one, asks⟩ := minds.waitAfterRun ready
      refine ⟨minds.giveUp _ _ _, waits ++ [call], ?_,
        follows.concat run ⟨alive, none⟩ log_eq asks, fun _ _ _ other _ => ?_⟩
      · rw [log_giveUp, one, log_eq, List.append_assoc]
      · have le := run.le_of_last other fun further =>
          vain ((congrArg Prod.fst ready).symm.trans further.2.2)
        rw [List.length_append]
        exact Nat.lt_succ_of_le le
    | dead run dead =>
      obtain ⟨minds, waits, rfl, log_eq, follows⟩ := run.follows minds
      refine ⟨minds.afterRun.giveUp _ _ _, waits, ?_, follows, fun _ _ _ other =>
        run.lt_of_waitsBehind (fun behind => dead behind.1) other⟩
      rw [log_giveUp, log_afterRun, log_eq]

/-- **The waits of a call** and the release behind them are all that the call asks of the source.
Each wait makes one call, directly behind its run and for what that run wants. -/
structure Waited (b : Blocking (Logbook σ) τ) (policy : WaitPolicy) (request : Request reply)
    (called : Called (Logbook σ) τ reply.Result) (during last : List SourceCall) : Prop where
  log_eq : called.connection.log = b.log ++ (during ++ last)
  each : ∀ n done b₁, b.CallRun policy.timeout request n done b₁ → b.WaitsBehind n done b₁ →
    ∃ call, during[n]? = some call ∧ b₁.log = b.log ++ during.take n ∧
      call.AsksFor (b₁.ran.readiness.getD {})
  only : ∀ n < during.length, ∃ done b₁, b.CallRun policy.timeout request n done b₁ ∧
    b.WaitsBehind n done b₁
  releases : Releases last

/-- **A call that returns** has waited in order and has released the source, whatever it came to. -/
theorem exists_waited_of_callWith {patience : Nat} {called : Called (Logbook σ) τ reply.Result}
    (minds : b.Minds) (returned : b.callWith patience policy request = some called) :
    called.connection.Minds ∧ called.connection.waiter.registered = false ∧
      ∃ during last, b.Waited policy request called during last := by
  obtain ⟨awaited, ends, rfl⟩ := callWith_ends returned
  obtain ⟨minds, during, log_eq, follows, all⟩ := ends.follows minds
  obtain ⟨minds, released, last, released_eq, gives_back⟩ := Waiter.Minds.release minds
  refine ⟨minds, released, during, last, ?_, ?_, ?_, gives_back⟩
  · rw [← List.append_assoc, ← log_eq]
    exact released_eq
  · intro n done b₁ run behind
    have at_n := List.getElem?_eq_getElem (all n done b₁ run behind)
    obtain ⟨done', b₂, run', -, log_eq, asks⟩ := follows n _ at_n
    obtain ⟨rfl, rfl⟩ := run.unique run'
    exact ⟨_, at_n, log_eq, asks⟩
  · intro n inside
    obtain ⟨done, b₁, run, behind, -⟩ := follows n _ (List.getElem?_eq_getElem inside)
    exact ⟨done, b₁, run, behind⟩

/-! ## Histories -/

/-- Between two calls, a connection minds its source and **has not registered it**. -/
structure Rests (b : Blocking (Logbook σ) τ) : Prop where
  minds : b.Minds
  released : b.waiter.registered = false

omit [Channel σ] [Pollable σ] in
theorem Rests.orderly (h : b.Rests) : Orderly b.log :=
  ⟨h.minds.disciplined, h.minds.free h.released⟩

omit [Channel σ] [Pollable σ] in
/-- A connection rests **as long as nobody calls its source**. -/
theorem Rests.quiet (h : b.Rests) (waiter_eq : b₁.waiter = b.waiter) (log_eq : b₁.log = b.log) :
    b₁.Rests := by
  refine ⟨?_, waiter_eq ▸ h.released⟩
  rw [Minds, waiter_eq]
  exact Waiter.Minds.quiet h.minds log_eq

/-- **Every deed leaves a connection at rest.** -/
theorem Rests.does {deed : Deed} (h : b.Rests) (does : Does Logbook.Quiet b deed b₁) :
    b₁.Rests := by
  cases does with
  | call returned =>
    obtain ⟨minds, released, -⟩ := exists_waited_of_callWith h.minds returned
    exact ⟨minds, released⟩
  | submit request tag => exact h.quiet rfl (congrArg Logbook.log (b.channel_submit request tag))
  | run => exact h.quiet rfl b.log_afterRun
  | remove key => exact h.quiet rfl (congrArg Logbook.log (b.channel_remove key))
  | elapse allowed => exact h.quiet rfl allowed
  | configure => exact h.quiet rfl rfl

end Blocking

open Blocking in
/-- **The discipline of the waits.** Let the calls to a source succeed or fail as they like.
Whatever comes of the greeting of a connection, each wait for it has made one call to the source,
for nothing but bytes to read, and the source is free behind them. And whatever is done with the
connection later, all the calls that its waits ever made are in order, and the source is free
whenever no call is under way. Each wait of a call makes one call to the source: for room to write
exactly if the run directly before it wants that, and for bytes to read exactly if that run wants
them, or wants nothing, or has found the connection dead. -/
theorem waits_are_disciplined (patience : Nat) (signer : Signer) (options : Options) (s : σ) :
    (∀ (result : Except Failure (Greeted η)) (s' : Logbook σ),
      greet patience signer options { channel := s } = some (result, s') →
      Orderly s'.log ∧ ∃ during last, s'.log = during ++ last ∧ Releases last ∧
        GreetingWaited (Pollable.now s + options.handshakeTimeout.nanoseconds)
          (.forGreeting signer options) { registrar := .greeting } { channel := s } during) ∧
    ∀ c : Connection (Logbook σ) (Option τ),
      Connection.start patience signer options { channel := s } = some (.ok c) →
      ∀ networkTimeout deeds b, History Logbook.Quiet (.ofConnection c networkTimeout) deeds b →
      Orderly b.log ∧ ∀ (reply : Reply) policy (request : Request reply) waits called,
        b.callWith waits policy request = some called →
        Orderly called.connection.log ∧
          ∃ during last, b.Waited policy request called during last := by
  have nothing : Orderly ({ channel := s } : Logbook σ).log :=
    ⟨disciplined_nil, holder_nil⟩
  constructor
  · intro result s' greets
    obtain ⟨orderly, during, last, log_eq, gives_back, waits⟩ := orderly_of_greet nothing greets
    exact ⟨orderly, during, last, log_eq.trans (List.nil_append _), gives_back, waits⟩
  · intro c started networkTimeout deeds b history
    obtain ⟨greeted, greets⟩ :=
      Multiplexer.exists_greet_of_start (Connection.service_of_start started)
    have opened := (orderly_of_greet nothing greets).1
    have rests : b.Rests := history.invariant
      ⟨.of_free opened.disciplined opened.free rfl, rfl⟩ fun rests does => rests.does does
    refine ⟨rests.orderly, fun reply policy request waits called returned => ?_⟩
    obtain ⟨minds, released, waited⟩ := exists_waited_of_callWith rests.minds returned
    exact ⟨(Rests.mk minds released).orderly, waited⟩

/-! ## A registration that cannot be changed -/

section Stubborn

open Simulation (Drive)

/-- A drive that greets its client only after a while and answers nothing. It takes the first bytes
of a request and then, for a moment, no more. Its source can be registered, but **no registration
can be changed**. -/
def stubbornDrive : Drive where
  key := [1]
  queue := [.block, .bytes hello]
  writes := [.upTo 5, .block]
  source := some { behaviour := .failReregister }

open Blocking in
/-- The first wait of a call asks for room to write the rest of the request. The second one would
wait for the answer, but cannot change the registration. The call gives up, and **takes the
registration back** all the same. -/
theorem waits_are_disciplined_stubborn :
    ∃ (c : Connection (Logbook Drive) (Option Nat))
      (called : Called (Logbook Drive) Nat Reply.acknowledgement.Result),
      Connection.start 2 (.constant [7]) { hmacKey := [1] } { channel := stubbornDrive } =
        some (.ok c) ∧
      (ofConnection c (.seconds 1)).callWith 2 noOpPolicy Request.noOp = some called ∧
      errorIn called.result = some (.client .ioError "wait failed: reregister refused") ∧
      called.connection.log =
        [.register .greeting .readable true, .deregister .greeting true,
          .register .calls .writable true, .reregister .calls .readable false,
          .deregister .calls true] ∧
      Orderly c.service.channel.log ∧
      (∃ during last, c.service.channel.log = during ++ last ∧ Releases last ∧
        GreetingWaited (Pollable.now stubbornDrive +
            ({ hmacKey := [1] } : Options).handshakeTimeout.nanoseconds)
          (.forGreeting (.constant [7]) { hmacKey := [1] }) { registrar := .greeting }
          { channel := stubbornDrive } during) ∧
      Orderly called.connection.log ∧
      ∃ during last,
        (ofConnection c (.seconds 1)).Waited noOpPolicy Request.noOp called during last := by
  have check : ((Connection.start 2 (.constant [7]) { hmacKey := [1] }
      { channel := stubbornDrive } :
      Option (Except Failure (Connection (Logbook Drive) (Option Nat)))).any fun started =>
      started.toOption.any fun c =>
        ((ofConnection c (.seconds 1)).callWith 2 noOpPolicy Request.noOp).any fun called =>
          decide (errorIn called.result =
              some (.client .ioError "wait failed: reregister refused") ∧
            called.connection.log =
              [.register .greeting .readable true, .deregister .greeting true,
                .register .calls .writable true, .reregister .calls .readable false,
                .deregister .calls true])) = true := by
    decide +kernel
  obtain ⟨c, started, check⟩ := exists_started check
  obtain ⟨called, calls, check⟩ := (Option.any_eq_true _ _).mp check
  obtain ⟨gives_up, log_eq⟩ := of_decide_eq_true check
  have disciplined := waits_are_disciplined (η := Callback (Option Nat)) (τ := Nat) 2
    (.constant [7]) { hmacKey := [1] } stubbornDrive
  obtain ⟨greeted, greets⟩ :=
    Multiplexer.exists_greet_of_start (Connection.service_of_start started)
  obtain ⟨opened, greeting⟩ := disciplined.1 _ _ greets
  obtain ⟨-, behind⟩ := disciplined.2 c started (.seconds 1) [] _ (.nil _)
  obtain ⟨orderly, waited⟩ := behind .acknowledgement noOpPolicy Request.noOp 2 called calls
  exact ⟨c, called, started, calls, gives_up, log_eq, opened, greeting, orderly, waited⟩

end Stubborn

end DriveLink
