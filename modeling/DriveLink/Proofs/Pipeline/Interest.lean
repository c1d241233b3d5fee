import DriveLink.Proofs.Frame.Reading
import DriveLink.Proofs.Pipeline.Transit

/-! # What a run asks for

Behind each run its owner waits for what the run asks for. A run that asks for too little is never
made up for by another one, and one that asks for too much is made again and again. So a run asks
for room just if there is something left to write, and for bytes just if there is something left to
read: a request that waits for its answer, or the rest of a frame.

* `FrameReader.StopsWithin`, `inProgress_of_pending` — who has begun a frame stays within it;
* `Outbox.exists_out_of_send` — what a call to send leaves to write;
* `Outbox.send_asks` — what a call to send says of the outbox that it leaves;
* `Inbox.receive_asks` — what a call to receive says of the inbox that it leaves;
* `Multiplexer.asks_of_run` — what a run says of the connection that it leaves. -/

namespace DriveLink

variable {σ η : Type} [Channel σ]

/-! ## Stopping within a frame -/

namespace FrameReader

/-- A step that stops for want of bytes leaves the reader **within a frame**. -/
structure StopsWithin (step : ReadStep σ) : Prop where
  begun : step.outcome = .pending → step.state.inProgress = true

omit [Channel σ] in
theorem stopsWithin_finish {outcome : ReadOutcome} (ends : outcome.endsFrame = true) (s : σ) :
    StopsWithin (finish outcome s) := by
  constructor
  rintro rfl
  cases ends

omit [Channel σ] in
theorem stopsWithin_suspend {state : ReaderState} (begun : state.inProgress = true) (s : σ) :
    StopsWithin (suspend state s) := ⟨fun _ => begun⟩

omit [Channel σ] in
theorem stopsWithin_fail (error : IoError) (s : σ) : StopsWithin (fail error s) := by
  constructor
  rintro ⟨⟩

theorem stopsWithin_readSkipped (remaining : Nat) (command : Option Bytes)
    (commandLength valueLength : UInt32) (s : σ) :
    StopsWithin (readSkipped remaining command commandLength valueLength s) := by
  unfold readSkipped
  split
  · exact stopsWithin_finish rfl _
  · exact stopsWithin_suspend rfl _
  · exact stopsWithin_fail _ _

theorem stopsWithin_readValue (command : Bytes) (buffer : Buffer) (s : σ) :
    StopsWithin (readValue command buffer s) := by
  unfold readValue
  split
  · exact stopsWithin_finish rfl _
  · exact stopsWithin_suspend rfl _
  · exact stopsWithin_fail _ _

theorem stopsWithin_readCommand (buffer : Buffer) (valueLength : UInt32) (skipValue : Bool)
    (s : σ) : StopsWithin (readCommand buffer valueLength skipValue s) := by
  unfold readCommand
  split
  · split
    · exact stopsWithin_readSkipped ..
    · exact stopsWithin_readValue ..
  · exact stopsWithin_suspend rfl _
  · exact stopsWithin_fail _ _

theorem stopsWithin_readBody (max : Nat) (commandLength valueLength : UInt32) (s : σ) :
    StopsWithin (readBody max commandLength valueLength s) := by
  unfold readBody
  simp only
  split
  · exact stopsWithin_readCommand ..
  · split
    · exact stopsWithin_readCommand ..
    · exact stopsWithin_readSkipped ..

theorem stopsWithin_readValueLength (max : Nat) (commandLength : UInt32) (buffer : Buffer)
    (s : σ) : StopsWithin (readValueLength max commandLength buffer s) := by
  unfold readValueLength
  split
  · exact stopsWithin_readBody ..
  · exact stopsWithin_suspend rfl _
  · exact stopsWithin_fail _ _

theorem stopsWithin_readCommandLength (max : Nat) (buffer : Buffer) (s : σ) :
    StopsWithin (readCommandLength max buffer s) := by
  unfold readCommandLength
  split
  · exact stopsWithin_readValueLength ..
  · exact stopsWithin_suspend rfl _
  · exact stopsWithin_fail _ _

/-- **Who has begun a frame** and stops for want of bytes is still within it. -/
theorem inProgress_of_pending {reader : FrameReader} {s : σ} (begun : reader.inProgress = true)
    (pending : (reader.read s).1 = .pending) : (reader.read s).2.1.inProgress = true := by
  have within : StopsWithin (resume reader.maxFrameSize reader.state s) := by
    cases state : reader.state with
    | idle =>
      rw [inProgress, state] at begun
      cases begun
    | commandLength => exact stopsWithin_readCommandLength ..
    | valueLength => exact stopsWithin_readValueLength ..
    | command => exact stopsWithin_readCommand ..
    | value => exact stopsWithin_readValue ..
    | skip => exact stopsWithin_readSkipped ..
  exact within.begun pending

end FrameReader

/-! ## What is left to write -/

namespace Outbox

/-- Writing that comes to an end **leaves nothing**. -/
theorem nothing_of_sendFrom {request : InFlight η} {queue : List (QueuedRequest η)}
    {inbox : Inbox η} {s : σ} (idle : (sendFrom request queue inbox s).activity = .idle) :
    (sendFrom request queue inbox s).current = none ∧
      (sendFrom request queue inbox s).queue = [] := by
  fun_induction sendFrom request queue inbox s with
  | case1 queue request inbox s writer s' took write => cases idle
  | case2 queue request inbox s writer s' took error status failed write => cases idle
  | case3 request inbox s writer s' took released inbox' release events write => exact ⟨rfl, rfl⟩
  | case4 request inbox s writer s' took released inbox' release events next queue later write ih =>
    exact ih idle

/-- Writing that has to wait **stops within a request**. -/
theorem current_of_sendFrom {request : InFlight η} {queue : List (QueuedRequest η)}
    {inbox : Inbox η} {s : σ} (waits : (sendFrom request queue inbox s).activity = .waiting) :
    (sendFrom request queue inbox s).current.isSome = true := by
  fun_induction sendFrom request queue inbox s with
  | case1 queue request inbox s writer s' took write => rfl
  | case2 queue request inbox s writer s' took error status failed write => cases waits
  | case3 request inbox s writer s' took released inbox' release events write => cases waits
  | case4 request inbox s writer s' took released inbox' release events next queue later write ih =>
    exact ih waits

/-- A call to send that comes to an end **leaves nothing**. -/
theorem nothing_of_send {outbox : Outbox η} {inbox : Inbox η} {s : σ}
    (idle : (outbox.send inbox s).activity = .idle) :
    (outbox.send inbox s).outbox.failed = false ∧ (outbox.send inbox s).outbox.current = none ∧
      (outbox.send inbox s).outbox.queue = [] := by
  have working : (outbox.send inbox s).outbox.failed = false := by
    rw [← Bool.not_eq_true, failed_send_iff, idle]
    decide
  refine ⟨working, ?_⟩
  unfold send at idle ⊢
  cases dead : outbox.failed with
  | true =>
    rw [dead] at idle
    cases idle
  | false =>
    rw [dead] at idle
    cases current : outbox.current with
    | some request =>
      rw [current] at idle
      exact nothing_of_sendFrom idle
    | none =>
      rw [current] at idle
      cases queue : outbox.queue with
      | nil => exact ⟨rfl, rfl⟩
      | cons next queue =>
        rw [queue] at idle
        exact nothing_of_sendFrom idle

/-- A call to send that has to wait **stops within a request**. -/
theorem current_of_send {outbox : Outbox η} {inbox : Inbox η} {s : σ}
    (waits : (outbox.send inbox s).activity = .waiting) :
    (outbox.send inbox s).outbox.current.isSome = true := by
  unfold send at waits ⊢
  cases dead : outbox.failed with
  | true =>
    rw [dead] at waits
    cases waits
  | false =>
    rw [dead] at waits
    cases current : outbox.current with
    | some request =>
      rw [current] at waits
      exact current_of_sendFrom waits
    | none =>
      rw [current] at waits
      cases queue : outbox.queue with
      | nil =>
        rw [queue] at waits
        cases waits
      | cons next queue =>
        rw [queue] at waits
        exact current_of_sendFrom waits

/-- **A call to send that does not fail** has to wait just if something is left to write. -/
theorem send_asks {outbox : Outbox η} {inbox : Inbox η} {s : σ}
    (works : (outbox.send inbox s).activity ≠ .failed) :
    (outbox.send inbox s).activity = .waiting ↔ 0 < (outbox.send inbox s).outbox.pending := by
  cases activity : (outbox.send inbox s).activity with
  | idle =>
    obtain ⟨-, free, drained⟩ := nothing_of_send activity
    simp [pending, free, drained]
  | waiting =>
    have busy := current_of_send activity
    simp [pending, busy]
  | failed => exact absurd activity works

/-- Whoever is not entirely written when writing stops were **the last** of those before. -/
theorem exists_out_of_sendFrom (request : InFlight η) (queue : List (QueuedRequest η))
    (inbox : Inbox η) (s : σ) :
    ∃ out, request.ticket :: queue.map QueuedRequest.ticket = out ++
      ((sendFrom request queue inbox s).current.toList.map InFlight.ticket ++
        (sendFrom request queue inbox s).queue.map QueuedRequest.ticket) := by
  fun_induction sendFrom request queue inbox s with
  | case1 queue request inbox s writer s' took write => exact ⟨[], rfl⟩
  | case2 queue request inbox s writer s' took error status failed write =>
    exact ⟨_, (List.append_nil _).symm⟩
  | case3 request inbox s writer s' took released inbox' release events write =>
    exact ⟨[request.ticket], rfl⟩
  | case4 request inbox s writer s' took released inbox' release events next queue later write ih =>
    obtain ⟨out, out_eq⟩ := ih
    refine ⟨request.ticket :: out, ?_⟩
    rw [List.cons_append, ← out_eq]
    rfl

/-- **Sending takes requests from the front**: whoever is not entirely written behind it were the
last of those before. -/
theorem exists_out_of_send (outbox : Outbox η) (inbox : Inbox η) (s : σ) :
    ∃ out, outbox.unsent = out ++ (outbox.send inbox s).outbox.unsent := by
  obtain ⟨signer, identity, hmacKey, queue, current, nextSequence, failed⟩ := outbox
  cases failed with
  | true => exact ⟨[], rfl⟩
  | false =>
    cases current with
    | some request => exact exists_out_of_sendFrom request queue inbox s
    | none =>
      cases queue with
      | nil => exact ⟨[], rfl⟩
      | cons next queue => exact exists_out_of_sendFrom next.begin queue inbox s

end Outbox

/-! ## What is left to read -/

/-- A frame that says to stop **leaves nobody waiting**. -/
theorem Correlator.Accepts.nobody_of_stop {c : Correlator η} {outcome : ReadOutcome}
    {accepted : Accepted η} (h : Accepts c outcome accepted) (stop : accepted.stop = true) :
    accepted.correlator.outstanding.entries = [] := by
  cases h with
  | giveUp status connectionId stop => rfl
  | passOver connectionId => cases stop
  | answer opened answers entries_eq connectionId => cases stop
  | tooLarge acknowledged entries_eq => cases stop

namespace Inbox

/-- Whether there is **something to read for**: a request that waits for its answer, or the rest of
a frame. -/
def Expects (inbox : Inbox η) : Prop :=
  0 < inbox.outstanding ∨ inbox.reader.inProgress = true

omit [Channel σ] in
/-- Between two frames there is nothing to read for if **nobody waits**. -/
theorem not_expects {inbox : Inbox η} (between : inbox.reader.inProgress = false)
    (nobody : inbox.correlator.outstanding.entries = []) : ¬ inbox.Expects := by
  rintro (some | begun)
  · rw [outstanding, Outstanding.size, nobody] at some
    cases some
  · rw [between] at begun
    cases begun

theorem receiveFrom_asks (c : Correlator η) (reader : FrameReader) (s : σ)
    (works : (receiveFrom c reader s).activity ≠ .failed) :
    (receiveFrom c reader s).activity = .waiting ↔ (receiveFrom c reader s).inbox.Expects := by
  fun_induction receiveFrom c reader s with
  | case1 c reader s nothing =>
    rw [Bool.and_eq_true, Bool.not_eq_true', Outstanding.isEmpty, List.isEmpty_iff] at nothing
    exact iff_of_false Activity.noConfusion (not_expects nothing.1 nothing.2)
  | case2 c reader s some read ends accepted events stop =>
    exact iff_of_false Activity.noConfusion (not_expects (FrameReader.inProgress_read ends)
      ((c.accepts_accept ends).nobody_of_stop stop))
  | case3 c reader s some read ends accepted events more later ih => exact ih works
  | case4 c reader s some read open' error failure failed c' all => exact absurd rfl works
  | case5 c reader s some read open' fine =>
    refine iff_of_true rfl ?_
    have pending : read.1 = .pending := by
      rcases outcome : read.1 with _ | _ | _ | error
      · rfl
      · exact absurd (by rw [outcome]; rfl) open'
      · exact absurd (by rw [outcome]; rfl) open'
      · exact (fine error outcome).elim
    -- whatever it was read for before is still there
    rw [Bool.and_eq_true, not_and_or, Bool.not_eq_true', Bool.not_eq_false, Outstanding.isEmpty,
      List.isEmpty_iff] at some
    rcases some with begun | waits
    · exact .inr (FrameReader.inProgress_of_pending begun pending)
    · exact .inl (List.length_pos_iff.mpr waits)

/-- **A call to receive that does not fail** has to wait just if there is something to read for. -/
theorem receive_asks {inbox : Inbox η} {s : σ} (works : (inbox.receive s).activity ≠ .failed) :
    (inbox.receive s).activity = .waiting ↔ (inbox.receive s).inbox.Expects := by
  unfold receive at works ⊢
  split
  · rename_i dead
    rw [if_pos dead] at works
    exact absurd rfl works
  · rename_i alive
    rw [if_neg alive] at works
    exact receiveFrom_asks _ _ _ works

end Inbox

/-! ## What is left to do -/

namespace Multiplexer

omit [Channel σ] in
/-- A connection on which **nothing is left to do**: no request waits for its turn, is being written
or waits for its answer, and no frame is partly read. -/
structure AtRest (m : Multiplexer σ η) : Prop where
  queue : m.outbox.queue = []
  current : m.outbox.current = none
  outstanding : m.inbox.correlator.outstanding.entries = []
  between : m.inbox.reader.inProgress = false

omit [Channel σ] in
/-- Nothing is left to do if **nothing is left to write and nothing to read for**. -/
theorem atRest_iff {m : Multiplexer σ η} :
    m.AtRest ↔ ¬ 0 < m.pendingWrites ∧ ¬ m.inbox.Expects := by
  constructor
  · rintro ⟨drained, free, nobody, between⟩
    refine ⟨?_, Inbox.not_expects between nobody⟩
    simp [pendingWrites, Outbox.pending, drained, free]
  · rintro ⟨nothing, vain⟩
    obtain ⟨nobody, between⟩ := not_or.mp vain
    rw [pendingWrites, Outbox.pending] at nothing
    refine ⟨List.eq_nil_of_length_eq_zero (by omega), ?_,
      List.eq_nil_of_length_eq_zero (Nat.eq_zero_of_not_pos nobody), Bool.eq_false_iff.mpr between⟩
    cases current : m.outbox.current with
    | none => rfl
    | some request => simp [current] at nothing

/-- **What a run asks for** is what is left to do on the connection that it leaves. -/
theorem asks_of_run {m : Multiplexer σ η} {readiness : Readiness}
    (asks : m.run.readiness = some readiness) :
    (readiness.write = true ↔ 0 < m.run.service.pendingWrites) ∧
      (readiness.read = true ↔ m.run.service.inbox.Expects) := by
  unfold run at asks ⊢
  split at asks
  · cases asks
  · rename_i alive
    rw [if_neg alive]
    simp only at asks ⊢
    split at asks
    · cases asks
    · rename_i sends
      rw [if_neg sends]
      split at asks
      · cases asks
      · rename_i receives
        rw [if_neg receives]
        cases asks
        simp only [decide_eq_true_eq]
        exact ⟨Outbox.send_asks sends, Inbox.receive_asks receives⟩

omit [Channel σ] in
/-- Where nothing is left to do, **no request is on its way**. -/
theorem AtRest.tickets {m : Multiplexer σ η} (h : m.AtRest) : m.transit.tickets = [] := by
  rw [Transit.tickets, transit, Outstanding.tickets, Outbox.unsent, h.outstanding, h.current,
    h.queue]
  rfl

/-- A run asks for nothing just if **nothing is left to do**. -/
theorem isEmpty_iff_atRest {m : Multiplexer σ η} {readiness : Readiness}
    (asks : m.run.readiness = some readiness) :
    readiness.isEmpty = true ↔ m.run.service.AtRest := by
  obtain ⟨write, read⟩ := asks_of_run asks
  rw [atRest_iff, ← write, ← read, Readiness.isEmpty]
  cases readiness.read <;> cases readiness.write <;> decide

end Multiplexer

end DriveLink
