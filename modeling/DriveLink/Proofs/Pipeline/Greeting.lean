import DriveLink.Proofs.Channel.Opening
import DriveLink.Proofs.Pipeline.Intake
import DriveLink.Proofs.Pipeline.Names
import DriveLink.Proofs.Pipeline.Settling

/-! # Being greeted

Whoever is to be greeted listens on a channel until the greeting is settled. Whatever pieces the
bytes come in, and whatever else may happen on the channel, a connection begins exactly if the first
frame that is not passed over is a greeting, and then directly behind it.

* `Inbox.Hears`, `Inbox.hears_receiveFrom` — what one call to receive comes to;
* `Opening.Greets`, `greets_awaitGreeting` — what waiting for the greeting comes to;
* `Opening.IsGreeted`, `greeting_settled_by_first` — the same for being greeted. -/

namespace DriveLink

open ReadOutcome (PassedOver Settles lastConnectionId)

/-! ## One call to receive -/

namespace Correlator

/-- Frames that are passed over **leave the greeting out**, and complete nobody. -/
theorem afterAll_of_passedOver {c : Correlator Unit} (awaits : c.AwaitsGreeting)
    {passed : List ReadOutcome} (skipped : ∀ word ∈ passed, word.PassedOver c.signer c.hmacKey) :
    c.afterAll passed = c.learning passed ∧ Event.completions (c.told passed) = [] := by
  induction passed generalizing c with
  | nil => exact ⟨rfl, rfl⟩
  | cons word passed ih =>
    have accepted := accept_of_passedOver awaits (skipped word (List.mem_cons_self ..))
    have still : (c.learning [word]).AwaitsGreeting := awaits
    obtain ⟨after, silent⟩ := ih still fun other mem => skipped other (List.mem_cons_of_mem _ mem)
    constructor
    · rw [afterAll_cons, accepted, after, learning_learning]
      rfl
    · rw [told_cons, Event.completions_append, completions_toldOf, accepted, silent]
      rfl

end Correlator

namespace Inbox

variable {max : Nat} {c c' : Correlator Unit} {part part' : Bytes} {ends : List ReadOutcome}

/-- Between two frames, **nobody reads for nobody**. -/
theorem not_wanted_of_empty {η : Type} {c : Correlator η} (none : c.outstanding = .empty) :
    ¬(([] : Bytes) ≠ [] ∨ c.outstanding.entries ≠ []) := by
  rw [none]
  simp [Outstanding.empty]

/-- A call to receive that waits for the greeting goes through frames that it passes over, and
**perhaps a last one**, which settles the greeting. -/
theorem Through.passedOver_or_settles {σ : Type} [Channel σ] {s s' : σ}
    (awaits : c.AwaitsGreeting) (h : Through max c part s ends c' part' s') :
    (∀ word ∈ ends, word.PassedOver c.signer c.hmacKey) ∨
      ∃ passed word result, ends = passed ++ [word] ∧
        (∀ other ∈ passed, other.PassedOver c.signer c.hmacKey) ∧ word.endsFrame = true ∧
        word.Settles c.signer c.hmacKey result ∧ part' = [] := by
  induction h with
  | done => exact .inl fun _ mem => absurd mem List.not_mem_nil
  | @frame c c' part part' bytes s s₁ s' word ends wanted yields whole goesOn later ih =>
    rcases ReadOutcome.passedOver_or_settles c.signer c.hmacKey whole.endsFrame with
      skipped | ⟨result, settles⟩
    · rw [Correlator.accept_of_passedOver awaits skipped] at ih
      rcases ih awaits with all | ⟨passed, last, result, rfl, all, rest⟩
      · exact .inl (List.forall_mem_cons.mpr ⟨skipped, all⟩)
      · have both := List.forall_mem_cons.mpr ⟨skipped, all⟩
        exact .inr ⟨word :: passed, last, result, rfl, both, rest⟩
    · -- nobody waits any more, so that this was the last frame
      have nobody := (Correlator.accept_of_settles awaits settles whole.endsFrame).2.1
      cases later with
      | done =>
        exact .inr ⟨[], word, result, rfl, fun _ mem => absurd mem List.not_mem_nil,
          whole.endsFrame, settles, rfl⟩
      | frame wanted => exact absurd wanted (not_wanted_of_empty nobody)

/-- **What a call to receive comes to** that waits for the greeting on a channel, when some bytes of
a frame have been taken before. -/
inductive Hears (max : Nat) (c : Correlator Unit) (part : Bytes) (o : Opening) :
    Received Unit Opening → Prop
  /-- The greeting is settled. If it is a greeting, nothing behind it has been taken. -/
  | settled {passed later : List ReadOutcome} {word : ReadOutcome}
      {result : Except Status Command} {received : Received Unit Opening}
      (heard_eq : o.heard max part = passed ++ word :: later)
      (skipped : ∀ other ∈ passed, other.PassedOver c.signer c.hmacKey)
      (settles : word.Settles c.signer c.hmacKey result)
      (result_eq : greetingResult received.completions = some result)
      (greets : ∀ greeting, result = .ok greeting → ∃ got, o.After got received.channel ∧
        Frame.parse max (part ++ got) = (passed ++ [word], []) ∧
        received.inbox = {
          correlator := { c.learning (passed ++ [word]) with outstanding := .empty }
          reader := ⟨max, .idle⟩ }) : Hears max c part o received
  /-- The channel has no more. -/
  | waits {passed : List ReadOutcome} {rest got : Bytes} {state : ReaderState}
      {received : Received Unit Opening} (after : o.After got received.channel)
      (parsed : Frame.parse max (part ++ got) = (passed, rest))
      (skipped : ∀ other ∈ passed, other.PassedOver c.signer c.hmacKey)
      (stands : state.Stands max rest) (short : 0 < state.missing)
      (less : received.channel.schedule.arrivals.length < o.schedule.arrivals.length ∨
        ¬received.channel.Coming)
      (silent : received.completions = []) (activity_eq : received.activity = .waiting)
      (inbox_eq : received.inbox = { correlator := c.learning passed, reader := ⟨max, state⟩ }) :
      Hears max c part o received

/-- A call that passes over some frames goes on **as if it had begun behind them**. -/
theorem Hears.behind {o o₁ : Opening} {got : Bytes} {received : Received Unit Opening}
    (awaits : c.AwaitsGreeting) (skipped : ∀ word ∈ ends, word.PassedOver c.signer c.hmacKey)
    (after : o.After got o₁)
    (parsed : ∀ more, Frame.parse max (part ++ got ++ more) =
      (ends ++ (Frame.parse max (part' ++ more)).1, (Frame.parse max (part' ++ more)).2))
    (h : Hears max (c.learning ends) part' o₁ received) :
    Hears max c part o { received with events := c.told ends ++ received.events } := by
  have silent := (Correlator.afterAll_of_passedOver awaits skipped).2
  have completions_eq : Event.completions (c.told ends ++ received.events) =
      received.completions := by
    rw [Event.completions_append, silent]
    rfl
  cases h with
  | @settled passed later word result _ heard_eq skipped' settles result_eq greets =>
    have behind := Opening.heard_of_after after fun more => congrArg Prod.fst (parsed more)
    rw [heard_eq, ← List.append_assoc] at behind
    have all := List.forall_mem_append.mpr ⟨skipped, skipped'⟩
    refine .settled behind all settles ?_ fun greeting greeted => ?_
    · rw [← result_eq]
      exact congrArg greetingResult completions_eq
    · obtain ⟨got', after', parsed', inbox_eq⟩ := greets greeting greeted
      refine ⟨got ++ got', after.trans after', ?_, ?_⟩
      · rw [← List.append_assoc, parsed, parsed', List.append_assoc]
      · rw [List.append_assoc, ← Correlator.learning_learning]
        exact inbox_eq
  | @waits passed rest got' state _ after' parsed' skipped' stands short less silent' activity_eq
      inbox_eq =>
    have all := List.forall_mem_append.mpr ⟨skipped, skipped'⟩
    refine .waits (after.trans after') ?_ all stands short ?_ ?_ activity_eq ?_
    · rw [← List.append_assoc, parsed, parsed']
    · exact less.imp_left fun less => Nat.lt_of_lt_of_le less after.fewer
    · exact completions_eq.trans silent'
    · rw [← Correlator.learning_learning]
      exact inbox_eq

/-- A call to receive that **halts at once** while the greeting is out. -/
theorem Halts.hears {o : Opening} {received : Received Unit Opening} (awaits : c.AwaitsGreeting)
    (h : Halts max c part o received) : Hears max c part o received := by
  have nobody : ∀ word ∈ ([] : List ReadOutcome), word.PassedOver c.signer c.hmacKey :=
    fun _ mem => absurd mem List.not_mem_nil
  cases h with
  | nothing between none =>
    -- somebody waits, so that there is something to read for
    rw [awaits] at none
    cases none
  | @stops bytes o' word wanted yields whole stop =>
    rcases ReadOutcome.passedOver_or_settles c.signer c.hmacKey whole.endsFrame with
      skipped | ⟨result, settles⟩
    · rw [Correlator.accept_of_passedOver awaits skipped] at stop
      cases stop
    · obtain ⟨result_eq, -, greeted⟩ :=
        Correlator.accept_of_settles awaits settles whole.endsFrame
      have after := Opening.after_of_yields yields
      have alone := Frame.parse_whole whole
      have first (more : Bytes) : (Frame.parse max (part ++ bytes ++ more)).1 =
          [word] ++ (Frame.parse max ([] ++ more)).1 := congrArg Prod.fst (alone more)
      have heard_eq : o.heard max part = [] ++ word :: o'.heard max [] :=
        Opening.heard_of_after after first
      refine .settled heard_eq nobody settles ?_ fun greeting greets => ?_
      · rw [← result_eq]
        exact congrArg greetingResult (c.completions_toldOf word)
      · have parsed := alone []
        rw [List.append_nil, Frame.parse_nil] at parsed
        refine ⟨bytes, after, parsed, ?_⟩
        show Inbox.mk (c.accept word).correlator _ _ = _
        rw [greeted greeting greets]
        rfl
  | @waits state bytes o₁ o' wanted yields vain stands short =>
    obtain ⟨after', less⟩ := Opening.fewer_of_vain vain
    have after := Opening.after_of_yields yields
    have all := after.trans after'
    rw [List.append_nil] at all
    have parsed := Frame.parse_of_none (Frame.parseOne_stands stands short)
    refine .waits all parsed nobody stands short ?_ rfl rfl rfl
    exact less.imp_left fun less => Nat.lt_of_lt_of_le less after.fewer
  | @fails error o' wanted reads =>
    obtain ⟨behind, heard_eq⟩ := Opening.exists_heard_of_failed reads
    refine .settled (heard_eq.trans (List.nil_append _).symm) nobody (.fails error) ?_
      fun greeting same => ?_
    · rw [Received.completions, awaits]
      rfl
    · cases same

/-- A call to receive **ends with the frame** that settles the greeting. -/
theorem Through.hears {o o₁ : Opening} {passed : List ReadOutcome} {word : ReadOutcome}
    {result : Except Status Command} {last : Received Unit Opening} (awaits : c.AwaitsGreeting)
    (h : Through max c part o (passed ++ [word]) c' [] o₁) (halts : Halts max c' [] o₁ last)
    (skipped : ∀ other ∈ passed, other.PassedOver c.signer c.hmacKey)
    (ends : word.endsFrame = true) (settles : word.Settles c.signer c.hmacKey result) :
    Hears max c part o { last with events := c.told (passed ++ [word]) ++ last.events } := by
  have still : (c.learning passed).AwaitsGreeting := awaits
  obtain ⟨afterAll_eq, silent⟩ := Correlator.afterAll_of_passedOver awaits skipped
  obtain ⟨result_eq, none, greeted⟩ := Correlator.accept_of_settles still settles ends
  obtain rfl := h.correlator_eq
  rw [Correlator.afterAll_append, afterAll_eq, Correlator.afterAll_cons,
    Correlator.afterAll_nil] at halts
  have told_eq : Event.completions (c.told (passed ++ [word])) =
      ((c.learning passed).accept word).completions := by
    rw [Correlator.told_append, Event.completions_append, silent, afterAll_eq,
      Correlator.told_cons, Correlator.told_nil, List.append_nil, Correlator.completions_toldOf]
    rfl
  obtain ⟨got, yields, parsed⟩ := h.exists_parse
  have after := Opening.after_of_yields yields
  have alone := parsed []
  rw [List.append_nil, List.append_nil, Frame.parse_nil, List.append_nil] at alone
  have heard_eq := Opening.heard_of_after after fun more => congrArg Prod.fst (parsed more)
  rw [List.append_assoc] at heard_eq
  -- nobody waits behind the frame that settles the greeting, and so the call is over
  cases halts with
  | nothing between nobody =>
    refine .settled heard_eq skipped settles ?_ fun greeting greets => ?_
    · rw [← result_eq, ← told_eq, Received.completions, List.append_nil]
    · refine ⟨got, after, alone, ?_⟩
      rw [greeted greeting greets, Correlator.learning_learning]
  | stops wanted => exact absurd wanted (not_wanted_of_empty none)
  | waits wanted => exact absurd wanted (not_wanted_of_empty none)
  | fails wanted => exact absurd wanted (not_wanted_of_empty none)

/-- **Every call to receive** while the greeting is out. -/
theorem hears_receiveFrom (awaits : c.AwaitsGreeting) {state : ReaderState}
    (stands : state.Stands max part) (o : Opening) :
    Hears max c part o (receiveFrom c ⟨max, state⟩ o) := by
  have receives := receives_receiveFrom c ⟨max, state⟩ o part stands
  generalize receiveFrom c ⟨max, state⟩ o = received at receives ⊢
  cases receives with
  | @intro ends c' part' o₁ last through halts =>
    rcases through.passedOver_or_settles awaits with
      skipped | ⟨passed, word, result, rfl, skipped, ends, settles, rfl⟩
    · have still : (c.learning ends).AwaitsGreeting := awaits
      obtain ⟨got, yields, parsed⟩ := through.exists_parse
      rw [through.correlator_eq, (Correlator.afterAll_of_passedOver awaits skipped).1] at halts
      exact (halts.hears still).behind awaits skipped (Opening.after_of_yields yields) parsed
    · exact through.hears awaits halts skipped ends settles

end Inbox

/-! ## Waiting for the greeting -/

/-- The status of a greeting that **does not come in time**. -/
def lateStatus (timeout : Duration) : Status :=
  .client .networkTimeout ("no handshake from drive within " ++ timeout.text)

/-- **What waiting for the greeting comes to** on a channel, when some bytes of a frame have been
taken before. -/
inductive Opening.Greets (max : Nat) (timeout : Duration) (c : Correlator Unit) (part : Bytes)
    (o : Opening) : Option (GreetingStep Opening) → Prop
  /-- The greeting comes, and no byte behind it has been taken. -/
  | greeted {passed later : List ReadOutcome} {word : ReadOutcome} {greeting : Command}
      {got : Bytes} {waiter : Waiter} {left : Opening}
      (heard_eq : o.heard max part = passed ++ word :: later)
      (skipped : ∀ other ∈ passed, other.PassedOver c.signer c.hmacKey)
      (settles : word.Settles c.signer c.hmacKey (.ok greeting)) (after : o.After got left)
      (parsed : Frame.parse max (part ++ got) = (passed ++ [word], [])) :
      Greets max timeout c part o (some ⟨.ok ({
          correlator := { c.learning (passed ++ [word]) with outstanding := .empty }
          reader := ⟨max, .idle⟩ }, greeting), waiter, left⟩)
  /-- There is no greeting. -/
  | refused {passed later : List ReadOutcome} {word : ReadOutcome} {status : Status}
      {waiter : Waiter} {left : Opening} (heard_eq : o.heard max part = passed ++ word :: later)
      (skipped : ∀ other ∈ passed, other.PassedOver c.signer c.hmacKey)
      (settles : word.Settles c.signer c.hmacKey (.error status)) :
      Greets max timeout c part o (some ⟨.error (.handshake status), waiter, left⟩)
  /-- Nothing that is heard settles the greeting, until the time is up. -/
  | late {waiter : Waiter} {left : Opening}
      (skipped : ∀ word ∈ o.heard max part, word.PassedOver c.signer c.hmacKey) :
      Greets max timeout c part o
        (some ⟨.error (.handshake (lateStatus timeout)), waiter, left⟩)
  /-- Nothing that is heard settles the greeting, until patience is at its end. -/
  | weary (skipped : ∀ word ∈ o.heard max part, word.PassedOver c.signer c.hmacKey) :
      Greets max timeout c part o none

variable {max : Nat} {timeout : Duration} {c : Correlator Unit} {part rest got : Bytes}
  {o o₁ : Opening} {passed : List ReadOutcome}

/-- Frames that are passed over **make no difference** to what is heard behind them. -/
theorem Opening.Greets.behind {answer : Option (GreetingStep Opening)}
    (skipped : ∀ word ∈ passed, word.PassedOver c.signer c.hmacKey) (after : o.After got o₁)
    (parsed : Frame.parse max (part ++ got) = (passed, rest))
    (h : Greets max timeout (c.learning passed) rest o₁ answer) :
    Greets max timeout c part o answer := by
  have further := Frame.parse_append parsed fun word mem => (skipped word mem).endsFrame
  have heard_eq := Opening.heard_of_after after fun more => congrArg Prod.fst (further more)
  cases h with
  | @greeted passed' later word greeting got' waiter left heard_eq' skipped' settles after'
      parsed' =>
    rw [heard_eq', ← List.append_assoc] at heard_eq
    rw [Correlator.learning_learning, ← List.append_assoc]
    have all := List.forall_mem_append.mpr ⟨skipped, skipped'⟩
    refine .greeted heard_eq all settles (after.trans after') ?_
    rw [← List.append_assoc, further, parsed', List.append_assoc]
  | refused heard_eq' skipped' settles =>
    rw [heard_eq', ← List.append_assoc] at heard_eq
    exact .refused heard_eq (List.forall_mem_append.mpr ⟨skipped, skipped'⟩) settles
  | late skipped' =>
    refine .late ?_
    rw [heard_eq]
    exact List.forall_mem_append.mpr ⟨skipped, skipped'⟩
  | weary skipped' =>
    refine .weary ?_
    rw [heard_eq]
    exact List.forall_mem_append.mpr ⟨skipped, skipped'⟩

/-- **Every wait for the greeting**, if everything that comes comes in time. -/
theorem greets_awaitGreeting {deadline patience : Nat} {state : ReaderState}
    (awaits : c.AwaitsGreeting) (stands : state.Stands max part) (short : 0 < state.missing)
    (in_time : ∀ {taken later}, o.After taken later → later.Coming →
      Pollable.now later < deadline)
    (patient : o.schedule.arrivals.length < patience ∨ ¬o.Coming) (waiter : Waiter) :
    o.Greets max timeout c part (awaitGreeting timeout deadline patience
      { correlator := c, reader := ⟨max, state⟩ } waiter o) := by
  -- on the patience that is left: each round uses up a piece, or nothing is to come any more
  induction patience generalizing c part state o waiter with
  | zero =>
    -- without a piece to come, the frame that has been begun is never heard
    have silent : ¬o.Coming := patient.resolve_left (Nat.not_lt_zero _)
    refine .weary fun word mem => ?_
    rw [Opening.heard_of_not_coming silent (Frame.parseOne_stands stands short)] at mem
    exact absurd mem List.not_mem_nil
  | succ patience ih =>
    have hears := Inbox.hears_receiveFrom awaits stands o
    have receive_eq : Inbox.receive { correlator := c, reader := ⟨max, state⟩ } o =
        Inbox.receiveFrom c ⟨max, state⟩ o := rfl
    unfold awaitGreeting
    rw [receive_eq]
    generalize Inbox.receiveFrom c ⟨max, state⟩ o = received at hears ⊢
    cases hears with
    | @settled passed later word result _ heard_eq skipped settles result_eq greets =>
      simp only [result_eq]
      cases result with
      | ok greeting =>
        obtain ⟨got, after, parsed, inbox_eq⟩ := greets greeting rfl
        simp only [inbox_eq]
        exact .greeted heard_eq skipped settles after parsed
      | error status => exact .refused heard_eq skipped settles
    | @waits passed rest got state' _ after parsed skipped stands' short' less silent activity_eq
        inbox_eq =>
      have unsettled : greetingResult received.completions = none := by
        rw [silent]
        rfl
      simp only [unsettled, activity_eq]
      rw [if_neg (by decide)]
      split
      · rename_i late
        -- it is only too late when nothing is to come any more
        have gone : ¬received.channel.Coming := fun coming =>
          absurd (in_time after coming) (Nat.not_lt.mpr late)
        have nothing := Opening.heard_of_not_coming gone (Frame.parseOne_stands stands' short')
        refine Opening.Greets.behind skipped after parsed (.late fun word mem => ?_)
        rw [nothing] at mem
        exact absurd mem List.not_mem_nil
      · obtain ⟨ready, waiter', o', wait_eq, after', same⟩ := Opening.exists_wait waiter .forRead
          ⟨deadline - Pollable.now received.channel⟩ received.channel
        rw [wait_eq, inbox_eq]
        have all := after.trans after'
        rw [List.append_nil] at all
        have still : (c.learning passed).AwaitsGreeting := awaits
        refine Opening.Greets.behind skipped all parsed (ih still stands' short'
          (fun later coming => in_time (all.trans later) coming) ?_ waiter')
        -- a piece has been used up, unless none was left
        have coming_iff : o'.Coming ↔ received.channel.Coming := by
          rw [Opening.Coming, Opening.Coming, same, after'.fate_eq]
        rw [coming_iff, same]
        rcases less with less | gone
        · rcases patient with enough | gone
          · exact .inl (by omega)
          · rw [Opening.Coming, not_or, not_not] at gone
            rw [gone.1] at less
            exact absurd less (Nat.not_lt_zero _)
        · exact .inr gone

/-! ## Being greeted -/

/-- **The first element that does not satisfy a condition** stands in one place. -/
theorem first_eq {α : Type} {p : α → Prop} {before before' after after' : List α} {a a' : α}
    (before_all : ∀ b ∈ before, p b) (before_all' : ∀ b ∈ before', p b) (not_a : ¬p a)
    (not_a' : ¬p a') (same : before ++ a :: after = before' ++ a' :: after') :
    before = before' ∧ a = a' ∧ after = after' := by
  induction before generalizing before' with
  | nil =>
    cases before' with
    | nil => exact ⟨rfl, List.cons_eq_cons.mp same⟩
    | cons b before' =>
      obtain ⟨rfl, -⟩ := List.cons_eq_cons.mp same
      exact absurd (before_all' _ (List.mem_cons_self ..)) not_a
  | cons b before ih =>
    cases before' with
    | nil =>
      obtain ⟨rfl, -⟩ := List.cons_eq_cons.mp same
      exact absurd (before_all _ (List.mem_cons_self ..)) not_a'
    | cons b' before' =>
      obtain ⟨rfl, rest⟩ := List.cons_eq_cons.mp same
      obtain ⟨rfl, here⟩ := ih (List.forall_mem_cons.mp before_all).2
        (List.forall_mem_cons.mp before_all').2 rest
      exact ⟨rfl, here⟩

/-- An inbox **between two frames**, for which nobody waits. -/
def Inbox.atRest {η : Type} (signer : Signer) (hmacKey : Bytes) (max : Nat)
    (connectionId : Option Int64) : Inbox η :=
  { correlator := { signer, hmacKey, outstanding := .empty, connectionId }
    reader := { maxFrameSize := max } }

/-- The status of a connection that fails before the drive has said anything. -/
def unheardStatus : Status := .client .ioError "connection failed during handshake"

/-- Whatever settles the greeting has **a reason of its own**. -/
theorem ReadOutcome.Settles.status_ne {signer : Signer} {hmacKey : Bytes} {word : ReadOutcome}
    {status : Status} (h : word.Settles signer hmacKey (.error status)) :
    status ≠ unheardStatus := by
  have head {text : String} (same : text = "connection failed during handshake") :
      text.toList.head? = some 'c' := by
    rw [same]
    rfl
  have malformed (error : DecodeError) :
      .client .ioError ("malformed response: " ++ error.message) ≠ unheardStatus := fun same => by
    have first := head (congrArg Status.text same)
    simp [Status.client] at first
  cases h with
  | refuses => exact fun same => Status.code_ofResponse_ne _ _ (congrArg Status.code same)
  | faulty faulty =>
    cases faulty with
    | malformed => exact malformed _
    | malformedCommand => exact malformed _
    | badDigest => exact fun same => by cases congrArg Status.code same
    | unacknowledged => exact fun same => by cases congrArg Status.code same
  | tooLarge => exact fun same => by cases congrArg Status.code same
  | fails error =>
    intro same
    have first := head (congrArg Status.text same)
    simp [Status.client] at first

/-- **What being greeted comes to** on a channel, by the first thing heard there that is not a
response to something else. -/
structure Opening.IsGreeted {η : Type} (patience : Nat) (signer : Signer) (options : Options)
    (o : Opening) (answer : Option (Except Failure (Greeted η) × Opening)) : Prop where
  /-- A connection begins just if that is a fitting frame that greets with success. -/
  succeeds_iff : (∃ greeted left, answer = some (.ok greeted, left)) ↔
    ∃ passed frame later greeting,
      o.heard options.maxFrameSize [] = passed ++ .frame frame :: later ∧
      (∀ word ∈ passed, word.PassedOver signer options.hmacKey) ∧
      frame.Answers signer options.hmacKey greetingSequence greeting ∧ greeting.isSuccess = true
  /-- Then exactly the bytes of the frames up to the greeting have been taken, and the inbox is
  between two frames. Nobody waits even before the inbox is handed over to its owner. -/
  succeeded : ∀ {inbox greeting left}, answer = some (.ok ⟨inbox, greeting⟩, left) →
    ∃ taken passed frame waiter, o.After taken left ∧
      Frame.parse options.maxFrameSize taken = (passed ++ [.frame frame], []) ∧
      (∀ word ∈ passed, word.PassedOver signer options.hmacKey) ∧
      frame.Answers signer options.hmacKey greetingSequence greeting ∧ greeting.isSuccess = true ∧
      inbox = .atRest signer options.hmacKey options.maxFrameSize
        (lastConnectionId (passed ++ [.frame frame])) ∧
      awaitGreeting options.handshakeTimeout
        (Pollable.now o + options.handshakeTimeout.nanoseconds) patience
        (.forGreeting signer options) { registrar := .greeting } o =
          some ⟨.ok (.atRest signer options.hmacKey options.maxFrameSize
            (lastConnectionId (passed ++ [.frame frame])), greeting), waiter, left⟩
  /-- Whatever else it is has a status, which is the reason why there is no connection. -/
  refused : ∀ {passed later word}, o.heard options.maxFrameSize [] = passed ++ word :: later →
    (∀ other ∈ passed, other.PassedOver signer options.hmacKey) →
    ¬word.PassedOver signer options.hmacKey →
    (∀ greeting, ¬word.Settles signer options.hmacKey (.ok greeting)) →
    ∃ status left, word.Settles signer options.hmacKey (.error status) ∧
      answer = some (.error (.handshake status), left)
  /-- If there is no such thing, the wait goes on until the time is up, or patience is at its
  end. -/
  late : (∀ word ∈ o.heard options.maxFrameSize [], word.PassedOver signer options.hmacKey) →
    answer = none ∨
      ∃ left, answer = some (.error (.handshake (lateStatus options.handshakeTimeout)), left)
  /-- A connection never fails without one of these reasons. -/
  reasons : ∀ left, answer ≠ some (.error (.handshake unheardStatus), left)

/-- An inbox that has been greeted is **handed over** to its owner, with nothing out. -/
def Greeted.handOver {η : Type} (awaited : Inbox Unit × Command) : Greeted η where
  inbox := { awaited.1 with correlator := { awaited.1.correlator with outstanding := .empty } }
  greeting := awaited.2

/-- Being greeted is **waiting for the greeting**, since a registration is taken back without a
trace. -/
theorem greet_eq {η : Type} (patience : Nat) (signer : Signer) (options : Options) (o : Opening) :
    greet (η := η) patience signer options o =
      (awaitGreeting options.handshakeTimeout
        (Pollable.now o + options.handshakeTimeout.nanoseconds) patience
        (.forGreeting signer options) { registrar := .greeting } o).map fun step =>
          (step.result.map .handOver, step.channel) := by
  unfold greet
  simp only
  split
  · rename_i weary
    rw [weary]
    rfl
  · rename_i step awaited
    obtain ⟨result, waiter, channel⟩ := step
    rw [awaited, Opening.release_eq]
    cases result <;> rfl

section Cases

variable {η : Type} {patience : Nat} {signer : Signer} {options : Options} {o left : Opening}
  {passed later : List ReadOutcome}

theorem isGreeted_of_greeted {frame : Frame} {greeting : Command} {got : Bytes} {waiter : Waiter}
    (heard_eq : o.heard options.maxFrameSize [] = passed ++ .frame frame :: later)
    (skipped : ∀ other ∈ passed, other.PassedOver signer options.hmacKey)
    (answers : frame.Answers signer options.hmacKey greetingSequence greeting)
    (success : greeting.isSuccess = true) (after : o.After got left)
    (parsed : Frame.parse options.maxFrameSize got = (passed ++ [.frame frame], []))
    (awaited : awaitGreeting options.handshakeTimeout
      (Pollable.now o + options.handshakeTimeout.nanoseconds) patience
      (.forGreeting signer options) { registrar := .greeting } o =
        some ⟨.ok (.atRest signer options.hmacKey options.maxFrameSize
          (lastConnectionId (passed ++ [.frame frame])), greeting), waiter, left⟩) :
    o.IsGreeted patience signer options (some (.ok (⟨.atRest signer options.hmacKey
      options.maxFrameSize (lastConnectionId (passed ++ [.frame frame])), greeting⟩ : Greeted η),
      left)) := by
  have settles : Settles signer options.hmacKey (.frame frame) (.ok greeting) :=
    .greets answers success
  have stop : ¬PassedOver signer options.hmacKey (.frame frame) := fun skipped' =>
    skipped'.not_settles settles
  constructor
  · exact ⟨fun _ => ⟨passed, frame, later, greeting, heard_eq, skipped, answers, success⟩,
      fun _ => ⟨_, left, rfl⟩⟩
  · rintro inbox greeting' left' same
    cases same
    exact ⟨got, passed, frame, waiter, after, parsed, skipped, answers, success, rfl, awaited⟩
  · intro passed' later' word' heard_eq' skipped' stop' unsettled
    -- there is one first thing that is not passed over, and it greets
    obtain ⟨-, rfl, -⟩ := first_eq skipped skipped' stop stop' (heard_eq.symm.trans heard_eq')
    exact absurd settles (unsettled greeting)
  · intro all
    rw [heard_eq] at all
    exact absurd (all _ (List.mem_append_right _ (List.mem_cons_self ..))) stop
  · intro left' same
    cases same

theorem isGreeted_of_refused {word : ReadOutcome} {status : Status}
    (heard_eq : o.heard options.maxFrameSize [] = passed ++ word :: later)
    (skipped : ∀ other ∈ passed, other.PassedOver signer options.hmacKey)
    (settles : word.Settles signer options.hmacKey (.error status)) :
    o.IsGreeted (η := η) patience signer options (some (.error (.handshake status), left)) := by
  have stop : ¬word.PassedOver signer options.hmacKey := fun skipped' =>
    skipped'.not_settles settles
  constructor
  · constructor
    · rintro ⟨greeted, left', same⟩
      cases same
    · rintro ⟨passed', frame, later', greeting, heard_eq', skipped', answers, success⟩
      have greets : Settles signer options.hmacKey (.frame frame) (.ok greeting) :=
        .greets answers success
      have stop' : ¬PassedOver signer options.hmacKey (.frame frame) := fun skipped'' =>
        skipped''.not_settles greets
      obtain ⟨-, rfl, -⟩ := first_eq skipped skipped' stop stop' (heard_eq.symm.trans heard_eq')
      cases settles.unique greets
  · rintro inbox greeting left' same
    cases same
  · intro passed' later' word' heard_eq' skipped' stop' unsettled
    obtain ⟨-, rfl, -⟩ := first_eq skipped skipped' stop stop' (heard_eq.symm.trans heard_eq')
    exact ⟨status, left, settles, rfl⟩
  · intro all
    rw [heard_eq] at all
    exact absurd (all _ (List.mem_append_right _ (List.mem_cons_self ..))) stop
  · intro left' same
    cases same
    exact settles.status_ne rfl

theorem isGreeted_of_late {answer : Option (Except Failure (Greeted η) × Opening)}
    (skipped : ∀ word ∈ o.heard options.maxFrameSize [], word.PassedOver signer options.hmacKey)
    (late : answer = none ∨
      ∃ left, answer = some (.error (.handshake (lateStatus options.handshakeTimeout)), left)) :
    o.IsGreeted patience signer options answer := by
  have nothing {passed' later' : List ReadOutcome} {word' : ReadOutcome}
      (heard_eq' : o.heard options.maxFrameSize [] = passed' ++ word' :: later') :
      word'.PassedOver signer options.hmacKey := by
    refine skipped word' ?_
    rw [heard_eq']
    exact List.mem_append_right _ (List.mem_cons_self ..)
  constructor
  · constructor
    · rintro ⟨greeted, left', rfl⟩
      rcases late with late | ⟨left, late⟩ <;> cases late
    · rintro ⟨passed', frame, later', greeting, heard_eq', skipped', answers, success⟩
      exact absurd (.greets answers success) (nothing heard_eq').not_settles
  · rintro inbox greeting left' rfl
    rcases late with late | ⟨left, late⟩ <;> cases late
  · intro passed' later' word' heard_eq' skipped' stop' unsettled
    exact absurd (nothing heard_eq') stop'
  · exact fun _ => late
  · rintro left' rfl
    rcases late with late | ⟨left, late⟩ <;> cases late

end Cases

/-- **The first thing that is not a response to something else settles the greeting.** Take any
channel on which everything that comes comes in time, in whatever pieces. A connection begins just
if that first thing is a fitting frame that greets with success, and then nothing behind it has been
taken. Whatever else comes first, be it a failure of the channel, is the reason why there is no
connection. -/
theorem greeting_settled_by_first {η : Type} {patience : Nat} (signer : Signer)
    {options : Options} {o : Opening} (available : o.Available options.handshakeTimeout)
    (patient : o.schedule.arrivals.length < patience) :
    o.IsGreeted patience signer options (greet (η := η) patience signer options o) := by
  let c : Correlator Unit :=
    ⟨signer, options.hmacKey, ⟨[⟨greetingSequence, greetingKey, ()⟩]⟩, none⟩
  have awaits : c.AwaitsGreeting := rfl
  have stands : ReaderState.idle.Stands options.maxFrameSize [] := .idle
  have greets : o.Greets options.maxFrameSize options.handshakeTimeout c []
      (awaitGreeting options.handshakeTimeout
        (Pollable.now o + options.handshakeTimeout.nanoseconds) patience
        (.forGreeting signer options) { registrar := .greeting } o) :=
    greets_awaitGreeting awaits stands Nat.one_pos available (.inl patient) _
  rw [greet_eq]
  generalize awaited : awaitGreeting options.handshakeTimeout
    (Pollable.now o + options.handshakeTimeout.nanoseconds) patience
    (.forGreeting signer options) { registrar := .greeting } o = step at greets ⊢
  cases greets with
  | @greeted passed later word greeting got waiter left heard_eq skipped settles after parsed =>
    cases settles with
    | greets answers success =>
      rw [Correlator.learning, Option.or_none] at awaited ⊢
      exact isGreeted_of_greeted heard_eq skipped answers success after parsed awaited
  | refused heard_eq skipped settles => exact isGreeted_of_refused heard_eq skipped settles
  | late skipped => exact isGreeted_of_late skipped (.inr ⟨_, rfl⟩)
  | weary skipped => exact isGreeted_of_late skipped (.inl rfl)

section Punctual

/-- A response to a request that nobody has made, with a number of the connection. -/
def strayFrame : Frame :=
  ⟨{ auth := .pin
     command := Command.encode
      { header := { ackSequence := some 5, connectionId := some 7 }
        status := some { code := .success } } : Envelope }.encode, []⟩

/-- A greeting **with a number of the connection**. -/
def welcomeFrame : Frame :=
  ⟨{ Envelope.unsolicited with
      command := Command.encode
        { header := { connectionId := some 42 }, status := some { code := .success } } }.encode, []⟩

/-- A stray response and a greeting, in pieces, and a byte behind them. It is **too late** as soon
as they are there. -/
def punctual : Opening where
  schedule := ⟨[.bytes (strayFrame.encode.take 5), .block,
    .bytes (strayFrame.encode.drop 5 ++ welcomeFrame.encode ++ [70])]⟩
  clock left _ := if left.arrivals = [] then 60000000000 else 0

/-- A greeting that comes in time is **taken up to its last byte**. -/
theorem greeting_settled_by_first_punctual :
    punctual.Available { hmacKey := [1] : Options }.handshakeTimeout ∧
      punctual.schedule.arrivals.length < 4 ∧
      ∃ (greeted : Greeted Nat) (left : Opening) (taken : Bytes) (passed : List ReadOutcome)
        (frame : Frame),
        greet 4 (.constant [7]) { hmacKey := [1] } punctual = some (.ok greeted, left) ∧
        greeted.inbox.connectionId = some 42 ∧ left.schedule.stream = [70] ∧
        punctual.schedule.stream = taken ++ [70] ∧
        Frame.parse defaultMaxFrameSize taken = (passed ++ [.frame frame], []) ∧
        (∀ word ∈ passed, word.PassedOver (.constant [7]) [1]) ∧
        frame.Answers (.constant [7]) [1] greetingSequence greeted.greeting := by
  have available : punctual.Available { hmacKey := [1] : Options }.handshakeTimeout := by
    intro taken later after coming
    have some : later.schedule.arrivals ≠ [] :=
      coming.resolve_right fun fails => fails after.fate_eq
    show later.clock later.schedule later.waits < _
    rw [after.clock_eq, show punctual.clock later.schedule later.waits = 0 from if_neg some]
    decide
  have patient : punctual.schedule.arrivals.length < 4 := by decide
  have greeted := greeting_settled_by_first (η := Nat) (.constant [7]) available patient
  have check : ((greet 4 (.constant [7]) { hmacKey := [1] } punctual :
      Option (Except Failure (Greeted Nat) × Opening)).any fun answer =>
        answer.1.toOption.any fun greeted => decide
          (greeted.inbox.connectionId = some 42 ∧ answer.2.schedule.stream = [70])) = true := by
    decide +kernel
  obtain ⟨⟨answer, left⟩, greets, check⟩ := (Option.any_eq_true _ _).mp check
  obtain ⟨⟨inbox, greeting⟩, ok, check⟩ := (Option.any_eq_true _ _).mp check
  obtain ⟨known, behind⟩ := of_decide_eq_true check
  obtain rfl := eq_ok_of_toOption ok
  obtain ⟨taken, passed, frame, waiter, after, parsed, skipped, answers, -⟩ :=
    greeted.succeeded greets
  have stream_eq := after.stream_eq
  rw [behind] at stream_eq
  exact ⟨available, patient, _, left, taken, passed, frame, greets, known, behind, stream_eq,
    parsed, skipped, answers⟩

end Punctual

end DriveLink
