import DriveLink.Proofs.Channel.Tape
import DriveLink.Proofs.Frame.Schedule
import DriveLink.Proofs.Pipeline.Intake
import DriveLink.Proofs.Pipeline.Shipping

/-! # The number that a connection has learned

A drive gives a connection its number in the header of whatever response it likes, and may give it
another one later. Which number a connection knows at some moment is told by the bytes that it has
read by then, and by nothing else: it is that of the last response in them that has one, of all that
fit and can be opened.

* `Frame.response?`, `ReadOutcome.learned?` — the response in a frame, and the number that it gives;
* `ReadOutcome.lastLearned` — the last number that some frames give;
* `Inbox.Informed` — an inbox that knows what the bytes on the tape say;
* `Multiplexer.informed_of_start`, `Multiplexer.informed_live` — every connection does, as long as
  it is alive. -/

namespace DriveLink

variable {σ η : Type}

open FrameReader (Reached)

/-! ## What frames give -/

/-- The **response in a frame**, if its envelope can be trusted and both of them decode. -/
def Frame.response? (signer : Signer) (hmacKey : Bytes) (frame : Frame) : Option Command :=
  match Envelope.decode frame.command with
  | .error _ => none
  | .ok envelope =>
    if envelope.auth = .hmac && !signer.verifies hmacKey envelope then none
    else envelope.inner.toOption

namespace ReadOutcome

/-- The **number of the connection** that a frame gives. One that is too large gives none. -/
def learned? (signer : Signer) (hmacKey : Bytes) : ReadOutcome → Option Int64
  | frame content => (content.response? signer hmacKey).bind (·.header.connectionId)
  | pending | tooLarge .. | failed _ => none

/-- The **last** number of the connection that some frames give. -/
def lastLearned (signer : Signer) (hmacKey : Bytes) (ends : List ReadOutcome) : Option Int64 :=
  (ends.filterMap (learned? signer hmacKey)).getLast?

variable {signer : Signer} {hmacKey : Bytes}

theorem lastLearned_append (ends later : List ReadOutcome) :
    lastLearned signer hmacKey (ends ++ later) =
      (lastLearned signer hmacKey later).or (lastLearned signer hmacKey ends) := by
  rw [lastLearned, List.filterMap_append, List.getLast?_append]
  rfl

theorem lastLearned_singleton (outcome : ReadOutcome) :
    lastLearned signer hmacKey [outcome] = outcome.learned? signer hmacKey := by
  rw [lastLearned, List.filterMap_cons]
  cases outcome.learned? signer hmacKey <;> rfl

end ReadOutcome

open ReadOutcome (lastLearned lastLearned_append lastLearned_singleton)

namespace Correlator

/-- An inbox opens **the response in a frame**, if there is one. -/
theorem toOption_openResponse (c : Correlator η) (frame : Frame) :
    (c.openResponse frame.command).toOption.map Prod.snd =
      frame.response? c.signer c.hmacKey := by
  rw [openResponse, Frame.response?]
  cases Envelope.decode frame.command with
  | error error => rfl
  | ok envelope =>
    simp only
    split
    · rfl
    · cases envelope.inner <;> rfl

/-- A response **says the number of the connection**, or leaves it as it was. -/
theorem connectionId_learn (c : Correlator η) (response : Command) :
    (c.learn response).connectionId = response.header.connectionId.or c.connectionId := by
  rw [learn]
  cases response.header.connectionId <;> rfl

/-- What is known of the number **after the end of a frame**. -/
theorem connectionId_accept (c : Correlator η) (outcome : ReadOutcome) :
    (c.accept outcome).correlator.connectionId =
      (outcome.learned? c.signer c.hmacKey).or c.connectionId := by
  cases outcome with
  | pending => rfl
  | failed error => rfl
  | tooLarge bytes commandLength valueLength =>
    -- whoever is failed, no response is looked at but for its sequence
    rw [accept, dispatchTooLarge, ReadOutcome.learned?, Option.none_or]
    split
    · rfl
    · split <;> rfl
  | frame content =>
    have opens := c.toOption_openResponse content
    rw [accept, dispatch, ReadOutcome.learned?, ← opens]
    cases c.openResponse content.command with
    | error fault => rfl
    | ok opened =>
      obtain ⟨envelope, response⟩ := opened
      show _ = response.header.connectionId.or c.connectionId
      rw [← c.connectionId_learn response]
      simp only
      split
      · rfl
      · split <;> rfl

end Correlator

/-! ## Receiving -/

/-- **An inbox that knows what it has read**: its reader stands where the bytes on the tape lead,
and the number of the connection is the last that the frames in them give. -/
structure Inbox.Informed (signer : Signer) (hmacKey : Bytes) (max : Nat) (past : Bytes)
    (inbox : Inbox η) : Prop where
  signer_eq : inbox.correlator.signer = signer
  key_eq : inbox.correlator.hmacKey = hmacKey
  max_eq : inbox.reader.maxFrameSize = max
  reached : ∃ done part, Reached max past done part inbox.reader.state ∧
    inbox.correlator.connectionId = lastLearned signer hmacKey done

namespace Inbox

variable {signer : Signer} {hmacKey : Bytes} {max : Nat}

/-- **The number that an informed inbox knows** is the last in the bytes on the tape. -/
theorem Informed.connectionId_eq {past : Bytes} {inbox : Inbox η}
    (h : inbox.Informed signer hmacKey max past) :
    inbox.connectionId = lastLearned signer hmacKey (Frame.parse max past).1 := by
  obtain ⟨done, part, reached, known⟩ := h.reached
  rw [reached.parsed]
  exact known

/-- A change of who waits **is no news**. -/
theorem Informed.of_outstanding {past : Bytes} {inbox : Inbox η}
    (h : inbox.Informed signer hmacKey max past) (outstanding : Outstanding η) :
    ({ inbox with correlator := { inbox.correlator with outstanding } } : Inbox η).Informed
      signer hmacKey max past := ⟨h.signer_eq, h.key_eq, h.max_eq, h.reached⟩

variable [Channel σ] [Pollable σ] [Taped σ]

open Taped (tape)

/-- **The frames that a call goes through** are news, each of them. -/
theorem Through.informed {c c' : Correlator η} {taken taken' : Bytes} {s s' : σ}
    {ends : List ReadOutcome} (h : Through max c taken s ends c' taken' s')
    (signer_eq : c.signer = signer) (key_eq : c.hmacKey = hmacKey) {done : List ReadOutcome}
    {state : ReaderState} (reached : Reached max (tape s) done taken state)
    (known : c.connectionId = lastLearned signer hmacKey done) :
    c'.signer = signer ∧ c'.hmacKey = hmacKey ∧ ∃ done' state',
      Reached max (tape s') done' taken' state' ∧
        c'.connectionId = lastLearned signer hmacKey done' := by
  induction h generalizing done state with
  | done => exact ⟨signer_eq, key_eq, done, state, reached, known⟩
  | @frame c c' taken taken' bytes s s₁ s' outcome ends wanted yields whole goesOn later ih =>
    have same := (c.accepts_accept whole.endsFrame).sameKey
    have reached' := reached.whole whole
    rw [← yields.tape_eq] at reached'
    refine ih (same.signer.trans signer_eq) (same.hmacKey.trans key_eq) reached' ?_
    rw [c.connectionId_accept, signer_eq, key_eq, known, lastLearned_append,
      lastLearned_singleton]

/-- **A call to receive** leaves an informed inbox informed, unless the inbox dies. -/
theorem Informed.receive {inbox : Inbox η} {s : σ}
    (h : inbox.failed = false → inbox.Informed signer hmacKey max (tape s))
    (alive : (inbox.receive s).inbox.failed = false) :
    (inbox.receive s).inbox.Informed signer hmacKey max (tape (inbox.receive s).channel) := by
  have working : inbox.failed = false := by
    by_contra dead
    rw [Inbox.receive, if_pos (Bool.eq_true_of_not_eq_false dead)] at alive
    exact dead alive
  obtain ⟨signer_eq, key_eq, rfl, done, part, reached, known⟩ := h working
  have receives := receives_receiveFrom inbox.correlator inbox.reader s part reached.stands
  rw [receive_of_working working] at alive ⊢
  generalize receiveFrom inbox.correlator inbox.reader s = received at receives alive ⊢
  cases receives with
  | @intro ends c' taken' s₁ last through halts =>
    obtain ⟨signer_eq', key_eq', done', state', reached', known'⟩ :=
      through.informed signer_eq key_eq reached known
    cases halts with
    | nothing between nobody =>
      -- whoever has taken nothing stands between two frames
      subst between
      exact ⟨signer_eq', key_eq', rfl, done', [],
        ⟨reached'.parsed, reached'.ended, .idle, Nat.one_pos⟩, known'⟩
    | @stops bytes s' outcome wanted yields whole stop =>
      have same := (c'.accepts_accept whole.endsFrame).sameKey
      have further := reached'.whole whole
      rw [← yields.tape_eq] at further
      refine ⟨same.signer.trans signer_eq', same.hmacKey.trans key_eq', rfl, _, [], further, ?_⟩
      show (c'.accept outcome).correlator.connectionId = _
      rw [c'.connectionId_accept, signer_eq', key_eq', known', lastLearned_append,
        lastLearned_singleton]
    | @waits state bytes s₂ s' wanted yields vain stands short =>
      have further := reached'.pending stands short
      rw [← yields.tape_eq, ← List.append_nil (tape s₂), ← vain.yields.tape_eq] at further
      exact ⟨signer_eq', key_eq', rfl, done', _, further, known'⟩
    | fails wanted reads => cases alive

end Inbox

/-! ## From the greeting on -/

section

variable [Channel σ] [Pollable σ] [Taped σ] {signer : Signer} {hmacKey : Bytes} {max : Nat}

open Taped (tape)

namespace Multiplexer

/-- **A connection that is started is informed**, if nothing had been read before. -/
theorem informed_of_start {patience : Nat} {options : Options} {s : σ} {m : Multiplexer σ η}
    (started : start patience signer options s = some (.ok m)) (blank : tape s = []) :
    m.inbox.Informed signer options.hmacKey options.maxFrameSize (tape m.channel) := by
  have alive : m.inbox.failed = false :=
    (coherent_of_start started).inbox (outbox_of_start started).1
  have begins : (Inbox.forGreeting signer options).Informed signer options.hmacKey
      options.maxFrameSize (tape s) := by
    rw [blank]
    exact ⟨rfl, rfl, rfl, [], [], FrameReader.reached_idle _, rfl⟩
  -- each round of the wait leaves the inbox informed, and waiting is no news
  obtain ⟨inbox, s₁, kept, correlator_eq, reader_eq, failed_eq, -, waiter, channel_eq⟩ :=
    exists_receive_of_start
      (fun inbox s => inbox.failed = false →
        inbox.Informed signer options.hmacKey options.maxFrameSize (tape s))
      (fun _ _ kept _ _ => Inbox.Informed.receive kept)
      (fun _ waiter limit s kept => (waiter.tape_wait .forRead limit s).symm ▸ kept)
      (fun _ => begins) started
  obtain ⟨signer_eq, key_eq, max_eq, reached⟩ := Inbox.Informed.receive kept (failed_eq ▸ alive)
  rw [channel_eq, waiter.tape_release]
  refine ⟨?_, ?_, ?_, ?_⟩
  · rw [correlator_eq, ← signer_eq]
  · rw [correlator_eq, ← key_eq]
  · rw [reader_eq, max_eq]
  · rw [reader_eq, correlator_eq]
    exact reached

/-! ## In a life -/

omit [Pollable σ] [Taped σ] in
/-- **A run that leaves a connection alive** has written and read without a failure. -/
theorem run_of_alive {m : Multiplexer σ η} (alive : m.run.service.failed = false) :
    let sent := m.outbox.send m.inbox m.channel
    let received := sent.inbox.receive sent.channel
    m.failed = false ∧ sent.activity ≠ .failed ∧ m.run.service.inbox = received.inbox ∧
      m.run.service.channel = received.channel := by
  unfold run at alive ⊢
  split at alive
  · rename_i dead
    rw [dead] at alive
    cases alive
  · rename_i working
    rw [if_neg working]
    simp only at alive ⊢
    split at alive
    · cases alive
    · rename_i sends
      rw [if_neg sends]
      split at alive
      · cases alive
      · rename_i receives
        rw [if_neg receives]
        exact ⟨Bool.eq_false_iff.mpr working, sends, rfl, rfl⟩

/-- **A run** leaves a connection informed, unless it dies. -/
theorem informed_run {m : Multiplexer σ η} (coherent : m.Coherent)
    (h : m.failed = false → m.inbox.Informed signer hmacKey max (tape m.channel))
    (alive : m.run.service.failed = false) :
    m.run.service.inbox.Informed signer hmacKey max (tape m.run.service.channel) := by
  have still := coherent.run.inbox alive
  obtain ⟨working, sends, inbox_eq, channel_eq⟩ := run_of_alive alive
  rw [inbox_eq] at still
  rw [inbox_eq, channel_eq]
  refine Inbox.Informed.receive (fun _ => ?_) still
  -- sending lets others wait, and reads nothing
  obtain ⟨outstanding, sent_eq⟩ := Outbox.exists_outstanding_of_send m.outbox m.inbox m.channel
  rw [(Outbox.pushes_send (coherent.outbox working) sends).1.tape_eq, sent_eq]
  exact (h working).of_outstanding outstanding

omit [Pollable σ] [Taped σ] in
/-- A turn in which nothing is written or read changes **at most who waits**. -/
theorem exists_outstanding_of_turn (m : Multiplexer σ η) {turn : Turn σ η} (other : turn ≠ .run) :
    ∃ outstanding, (m.turn turn).service.inbox =
      { m.inbox with correlator := { m.inbox.correlator with outstanding } } := by
  cases turn with
  | run => exact absurd rfl other
  | elapse channel => exact ⟨_, rfl⟩
  | submit envelope command value handler =>
    cases alive : m.failed with
    | true =>
      rw [turn_submit_of_failed alive]
      exact ⟨_, rfl⟩
    | false =>
      cases prepared :
          m.outbox.prepare envelope command value handler m.nextKey m.connectionId with
      | error status =>
        rw [turn_submit_of_error alive prepared]
        exact ⟨_, rfl⟩
      | ok request =>
        rw [turn_submit_of_ok alive prepared]
        exact ⟨_, rfl⟩
  | remove key =>
    cases found : m.outbox.queue.find? (·.key = key) with
    | some request =>
      rw [turn_remove_of_queued found]
      exact ⟨_, rfl⟩
    | none =>
      cases tracked : m.inbox.correlator.outstanding.entries.find? (·.key = key) with
      | some request =>
        rw [turn_remove_of_outstanding found tracked]
        exact ⟨_, rfl⟩
      | none =>
        rw [turn_remove_of_absent found tracked]
        exact ⟨_, rfl⟩

/-- **Every turn** leaves a connection informed, unless it dies in it. -/
theorem informed_turn {m : Multiplexer σ η} (coherent : m.Coherent)
    (h : m.failed = false → m.inbox.Informed signer hmacKey max (tape m.channel))
    {turn : Turn σ η} (calm : ∀ channel, turn = .elapse channel → tape channel = tape m.channel)
    (alive : (m.turn turn).service.failed = false) :
    (m.turn turn).service.inbox.Informed signer hmacKey max
      (tape (m.turn turn).service.channel) := by
  rcases m.turn_cases turn with rfl | ⟨channel, rfl⟩ | still
  · exact informed_run coherent h alive
  · have same : tape (m.turn (.elapse channel)).service.channel = tape m.channel := calm channel rfl
    rw [same]
    exact h alive
  · by_cases runs : turn = .run
    · subst runs
      exact informed_run coherent h alive
    · obtain ⟨outstanding, inbox_eq⟩ := m.exists_outstanding_of_turn runs
      rw [still.channel, inbox_eq]
      exact (h (still.failed ▸ alive)).of_outstanding outstanding

/-- **A connection is informed at every moment**, as long as it is alive. -/
theorem informed_live {m : Multiplexer σ η} (coherent : m.Coherent)
    (h : m.failed = false → m.inbox.Informed signer hmacKey max (tape m.channel))
    {turns : List (Turn σ η)} (calm : m.Elapses (fun s s' => tape s' = tape s) turns)
    (alive : (m.live turns).service.failed = false) :
    (m.live turns).service.inbox.Informed signer hmacKey max
      (tape (m.live turns).service.channel) := by
  induction turns generalizing m with
  | nil => exact h alive
  | cons turn turns ih =>
    obtain ⟨first, later⟩ := calm.of_cons
    exact ih (coherent.turn turn) (informed_turn coherent h first) later alive

end Multiplexer

end

end DriveLink
