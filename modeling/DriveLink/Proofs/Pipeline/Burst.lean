import DriveLink.Proofs.Pipeline.Fault

/-! # A burst of bad frames

A frame that is no response fails whoever waits when it is read, and the run that reads it stops
behind it. What else has come in by then stays in stock, and no run reads without somebody who
waits. So a burst of such frames is read one frame a run, and each of them fails those who wait at
that moment, however late they came. Once the burst is read, it does no harm any more: every
response that lies ready reaches its request.

* `Multiplexer.Reads`, `Multiplexer.readings` — the runs that come to read;
* `Multiplexer.Faces`, `Multiplexer.Fed` — frames that lie ready, and a stock that only grows;
* `run_of_faulty`, `run_of_not_reads` — what one run does to a burst;
* `burst_live` — what the turns of the owner do to it;
* `burst_spares_later_requests` — whom a burst fails, and whom it does not. -/

namespace DriveLink

variable {σ η : Type} [Channel σ]

open Stocked (stock)

/-! ## Runs that read -/

namespace Event

/-- What a read came to, if one came to the end of a frame or failed. -/
def outcome? : Event η → Option ReadOutcome
  | received outcome => some outcome
  | _ => none

/-- What the **reads** came to in some events, in order. -/
def outcomes (events : List (Event η)) : List ReadOutcome := events.filterMap outcome?

theorem outcomes_append (events later : List (Event η)) :
    outcomes (events ++ later) = outcomes events ++ outcomes later :=
  List.filterMap_append

omit [Channel σ] in
/-- Behind the end of a frame, completions read nothing more. -/
theorem outcomes_received (outcome : ReadOutcome) (done : List (Completion η)) :
    outcomes (.received outcome :: done.map completed) = [outcome] := by
  have nothing : outcomes (done.map completed) = [] := filterMap_completed (fun _ => rfl) done
  rw [← List.singleton_append, outcomes_append, nothing]
  rfl

/-- **Sending reads nothing.** -/
theorem outcomes_send (outbox : Outbox η) (inbox : Inbox η) (s : σ) :
    outcomes (outbox.send inbox s).events = [] := by
  refine List.filterMap_eq_nil_iff.mpr fun event mem => ?_
  cases inSend_send outbox inbox s event mem <;> rfl

end Event

namespace Multiplexer

/-- What the next run **writes**, before it comes to read. -/
def writes (m : Multiplexer σ η) : Sent η σ := m.outbox.send m.inbox m.channel

/-- Who **waits** for an answer when the next run comes to read. -/
def waiters (m : Multiplexer σ η) : List (OutstandingRequest η) :=
  m.writes.inbox.correlator.outstanding.entries

/-- Whether the next run **comes to read**: the connection is alive, writing does not fail, and
there is something to read for. -/
def Reads (m : Multiplexer σ η) : Prop :=
  m.failed = false ∧ m.writes.activity ≠ .failed ∧
    (m.inbox.reader.inProgress = true ∨ m.waiters ≠ [])

instance (m : Multiplexer σ η) : Decidable m.Reads := inferInstanceAs (Decidable (_ ∧ _ ∧ _))

/-- Whether a turn comes to read, as a number. -/
def reading (m : Multiplexer σ η) : Turn σ η → Nat
  | .run => if m.Reads then 1 else 0
  | _ => 0

/-- **How many runs come to read** in some turns. -/
def readings (m : Multiplexer σ η) : List (Turn σ η) → Nat
  | [] => 0
  | turn :: turns => m.reading turn + (m.turn turn).service.readings turns

theorem readings_append (m : Multiplexer σ η) (turns later : List (Turn σ η)) :
    m.readings (turns ++ later) =
      m.readings turns + (m.live turns).service.readings later := by
  induction turns generalizing m with
  | nil => exact (Nat.zero_add _).symm
  | cons turn turns ih =>
    rw [List.cons_append, readings, readings, ih, live_cons, Nat.add_assoc]

/-- What is written before a run comes to read leaves **the reader** where it stands. -/
theorem reader_writes (m : Multiplexer σ η) : m.writes.inbox.reader = m.inbox.reader := by
  obtain ⟨outstanding, inbox_eq⟩ := Outbox.exists_outstanding_of_send m.outbox m.inbox m.channel
  rw [writes, inbox_eq]

theorem sameKey_writes (m : Multiplexer σ η) :
    Correlator.SameKey m.inbox.correlator m.writes.inbox.correlator := by
  obtain ⟨outstanding, inbox_eq⟩ := Outbox.exists_outstanding_of_send m.outbox m.inbox m.channel
  rw [writes, inbox_eq]
  exact ⟨rfl, rfl⟩

/-- On a connection that is alive, a run reads **from where the reader stands**, with those who
wait. -/
theorem receive_writes {m : Multiplexer σ η} (coherent : m.Coherent) (alive : m.failed = false) :
    m.writes.inbox.receive m.writes.channel =
      Inbox.receiveFrom m.writes.inbox.correlator m.inbox.reader m.writes.channel := by
  have working : m.writes.inbox.failed = false := by
    obtain ⟨outstanding, inbox_eq⟩ := Outbox.exists_outstanding_of_send m.outbox m.inbox m.channel
    rw [writes, inbox_eq]
    exact coherent.inbox alive
  rw [Inbox.receive_of_working working, reader_writes]

/-- No two requests that wait when a run comes to read have **one sequence**. -/
theorem nodup_waiters {m : Multiplexer σ η} (fresh : m.Fresh) (turns : List (Turn σ η)) :
    ((m.live turns).service.waiters.map OutstandingRequest.sequence).Nodup := by
  have path := (path_live m turns).trans (path_send (m.live turns).service)
  have nodup := path.nodup_awaiting fresh
  have waits_eq : ((m.live turns).service.withSent (m.live turns).service.writes).transit.awaiting =
      (m.live turns).service.waiters.map OutstandingRequest.ticket := rfl
  rw [← writes, waits_eq, List.map_map] at nodup
  exact nodup

/-- A run that comes to read **reads with those who wait** then. -/
theorem run_of_reads {m : Multiplexer σ η} (coherent : m.Coherent) (reads : m.Reads) :
    ∃ received, received = Inbox.receiveFrom m.writes.inbox.correlator m.inbox.reader
        m.writes.channel ∧
      m.run.events = m.writes.events ++ received.events ∧
      (received.activity ≠ .failed → m.run.service =
        { m with outbox := m.writes.outbox, inbox := received.inbox
                 channel := received.channel }) := by
  obtain ⟨alive, sends, -⟩ := reads
  have receives := receive_writes coherent alive
  unfold writes at sends receives ⊢
  refine ⟨_, rfl, ?_⟩
  rw [← receives]
  unfold Multiplexer.run
  rw [if_neg (Bool.eq_false_iff.mp alive)]
  simp only
  rw [if_neg sends]
  split
  · rename_i fails
    exact ⟨rfl, fun works => absurd fails works⟩
  · exact ⟨rfl, fun _ => rfl⟩

variable [Stocked σ]

/-- A run that does **not come to read** takes nothing off the stock, and leaves the reader where it
stands. -/
theorem run_of_not_reads {m : Multiplexer σ η} (coherent : m.Coherent) (quiet : ¬ m.Reads) :
    Event.outcomes m.run.events = [] ∧ m.run.service.inbox.reader = m.inbox.reader ∧
      stock m.channel <+: stock m.run.service.channel := by
  have nothing := Event.outcomes_send m.outbox m.inbox m.channel
  have grows := Outbox.stock_send m.outbox m.inbox m.channel
  cases alive : m.failed with
  | true =>
    rw [Multiplexer.run, if_pos alive]
    exact ⟨rfl, rfl, List.prefix_refl _⟩
  | false =>
    rw [Multiplexer.run, if_neg (Bool.eq_false_iff.mp alive)]
    simp only
    split
    · exact ⟨nothing, m.reader_writes, grows⟩
    · rename_i sends
      -- there is nothing to read for
      obtain ⟨between, none⟩ := not_or.mp fun some => quiet ⟨alive, sends, some⟩
      have idle := receive_writes coherent alive
      rw [Inbox.receiveFrom_of_nothing (Bool.eq_false_iff.mpr between)
        (Classical.not_not.mp none)] at idle
      unfold writes at idle
      rw [idle]
      refine ⟨?_, rfl, grows⟩
      rw [List.append_nil]
      exact nothing

/-! ## What runs do to a burst -/

/-- **Frames lie ready** for a connection. -/
def Faces (m : Multiplexer σ η) (frames : List Frame) : Prop :=
  m.inbox.reader.Faces m.channel frames

/-- **Between the calls of its owner** nothing is taken off the stock of a connection. More may come
in. -/
def Fed (m : Multiplexer σ η) (turns : List (Turn σ η)) : Prop :=
  m.Elapses (fun s s' => stock s <+: stock s') turns

/-- A run that comes to read while **a frame that is no response** lies ready reads this frame
alone. It fails whoever waits then, and the connection stays alive. -/
theorem run_of_faulty {m : Multiplexer σ η} (coherent : m.Coherent) (reads : m.Reads)
    {frame : Frame} {frames : List Frame} (faces : m.Faces (frame :: frames)) {status : Status}
    (faulty : frame.Faulty m.inbox.correlator.signer m.inbox.correlator.hmacKey status) :
    m.run.events = m.writes.events ++ .received (.frame frame) ::
        (OutstandingRequest.failures m.waiters status).map .completed ∧
      m.run.service.failed = false ∧
      m.run.service.inbox.correlator.outstanding.entries = [] ∧
      m.run.service.Faces frames := by
  obtain ⟨received, received_eq, events_eq, service_eq⟩ := run_of_reads coherent reads
  have faces : m.inbox.reader.Faces m.writes.channel (frame :: frames) :=
    faces.mono (Outbox.stock_send m.outbox m.inbox m.channel)
  have rest := faces.read.2
  rw [← m.sameKey_writes.signer, ← m.sameKey_writes.hmacKey] at faulty
  obtain ⟨connectionId, taken⟩ := Inbox.receiveFrom_of_faulty reads.2.2 faces faulty
  rw [taken] at received_eq
  rw [received_eq] at events_eq service_eq
  have service_eq := service_eq nofun
  rw [service_eq]
  exact ⟨events_eq, reads.1, rfl, rest⟩

/-- A turn that does **not come to read** leaves a burst as it is. -/
theorem turn_of_quiet {m : Multiplexer σ η} (coherent : m.Coherent) {turn : Turn σ η}
    (quiet : m.reading turn = 0)
    (fed : ∀ channel, turn = .elapse channel → stock m.channel <+: stock channel) :
    Event.outcomes (m.turn turn).events = [] ∧
      (m.turn turn).service.inbox.reader = m.inbox.reader ∧
      stock m.channel <+: stock (m.turn turn).service.channel := by
  rcases m.turn_cases turn with rfl | ⟨channel, rfl⟩ | still
  · refine run_of_not_reads coherent fun reads => ?_
    rw [reading, if_pos reads] at quiet
    exact absurd quiet Nat.one_ne_zero
  · exact ⟨rfl, rfl, fed channel rfl⟩
  · refine ⟨?_, still.reader, ?_⟩
    · refine List.filterMap_eq_nil_iff.mpr fun event mem => ?_
      cases still.events event mem <;> rfl
    · exact still.channel.symm ▸ List.prefix_refl _

/-- **A turn takes as many frames** off a burst as it comes to read: one, or none. -/
theorem burst_turn {m : Multiplexer σ η} (coherent : m.Coherent) {burst behind : List Frame}
    (faces : m.Faces (burst ++ behind))
    (faulty : ∀ bad ∈ burst, ∃ status,
      bad.Faulty m.inbox.correlator.signer m.inbox.correlator.hmacKey status)
    {turn : Turn σ η}
    (fed : ∀ channel, turn = .elapse channel → stock m.channel <+: stock channel)
    (few : m.reading turn ≤ burst.length) :
    Event.outcomes (m.turn turn).events = (burst.take (m.reading turn)).map .frame ∧
      (m.turn turn).service.Faces (burst.drop (m.reading turn) ++ behind) := by
  by_cases quiet : m.reading turn = 0
  · obtain ⟨silent, reader_eq, grows⟩ := turn_of_quiet coherent quiet fed
    rw [quiet, silent]
    refine ⟨rfl, ?_⟩
    rw [Faces, reader_eq]
    exact faces.mono grows
  · cases turn with
    | run =>
      have reads : m.Reads := by
        by_contra none
        exact quiet (if_neg none)
      have one : m.reading .run = 1 := if_pos reads
      rw [one] at few ⊢
      cases burst with
      | nil => exact absurd few (Nat.not_succ_le_zero 0)
      | cons bad burst =>
        obtain ⟨status, faulty⟩ := faulty bad (List.mem_cons_self ..)
        obtain ⟨events_eq, -, -, rest⟩ := run_of_faulty coherent reads faces faulty
        refine ⟨?_, rest⟩
        show Event.outcomes m.run.events = [.frame bad]
        rw [events_eq, Event.outcomes_append, writes, Event.outcomes_send,
          Event.outcomes_received]
        rfl
    | _ => exact absurd rfl quiet

/-- **Turns take as many frames** off a burst as there are runs among them that come to read, until
the burst is used up. -/
theorem burst_live {m : Multiplexer σ η} (coherent : m.Coherent) {burst behind : List Frame}
    (faces : m.Faces (burst ++ behind))
    (faulty : ∀ bad ∈ burst, ∃ status,
      bad.Faulty m.inbox.correlator.signer m.inbox.correlator.hmacKey status)
    {turns : List (Turn σ η)} (fed : m.Fed turns) (few : m.readings turns ≤ burst.length) :
    Event.outcomes (m.live turns).events = (burst.take (m.readings turns)).map .frame ∧
      (m.live turns).service.Faces (burst.drop (m.readings turns) ++ behind) := by
  induction turns generalizing m burst with
  | nil => exact ⟨rfl, faces⟩
  | cons turn turns ih =>
    obtain ⟨first, later⟩ := fed.of_cons
    rw [readings] at few ⊢
    obtain ⟨read, ready⟩ := burst_turn coherent faces faulty first (by omega)
    have same := (path_turn m turn).sameKey
    obtain ⟨read', ready'⟩ := ih (coherent.turn turn) ready
      (fun bad mem => by
        rw [same.signer, same.hmacKey]
        exact faulty bad (List.mem_of_mem_drop mem))
      later (by rw [List.length_drop]; omega)
    rw [live_cons]
    refine ⟨?_, ?_⟩
    · rw [Event.outcomes_append, read, read', List.take_add, List.map_append]
    · rw [List.drop_drop] at ready'
      exact ready'

/-! ## Whom a burst fails, and whom it does not -/

/-- A connection **weathers a burst** of frames that are no responses, in some turns. -/
structure Weathers (m : Multiplexer σ η) (signer : Signer) (hmacKey : Bytes)
    (burst behind : List Frame) (turns : List (Turn σ η)) : Prop where
  /-- Each run that comes to read takes one frame of it, and nothing else is read. -/
  read : Event.outcomes (m.live turns).events = (burst.take (m.readings turns)).map .frame
  /-- The other frames go on lying ready. -/
  ready : (m.live turns).service.Faces (burst.drop (m.readings turns) ++ behind)
  /-- The frame fails those who wait when it is read, and nobody else, and the connection stays
  alive. -/
  fails : ∀ sooner later now, turns = sooner ++ .run :: later → now = (m.live sooner).service →
    now.Reads → ∃ bad status,
      burst[m.readings sooner]? = some bad ∧ bad.Faulty signer hmacKey status ∧
      now.run.events = now.writes.events ++ .received (.frame bad) ::
        (OutstandingRequest.failures now.waiters status).map .completed ∧
      now.run.service.failed = false ∧
      now.run.service.inbox.correlator.outstanding.entries = []
  /-- Once the burst is read, a run that comes to read calls every handler that waits then with the
  response to its request, if the response reports success and lies ready with nothing before it but
  responses to others. -/
  spares : m.readings turns = burst.length → ∀ later now,
    now = (m.live (turns ++ later)).service → now.Reads →
    ∀ others answer more request response,
      now.inbox.reader.Faces now.writes.channel (others ++ answer :: more) →
      request ∈ now.waiters →
      (∀ other ∈ others, ∃ sequence response,
        other.Answers signer hmacKey sequence response ∧ request.sequence ≠ sequence) →
      answer.Answers signer hmacKey request.sequence response → response.isSuccess = true →
      ∃ before after, now.run.events = before ++ .received (.frame answer) ::
        .completed ⟨request.key, request.handler, .answered response answer.value⟩ :: after

/-- A run that comes to read **hands over every response** that lies ready. -/
theorem run_of_answers {m : Multiplexer σ η} (coherent : m.Coherent) (reads : m.Reads)
    (nodup : (m.waiters.map OutstandingRequest.sequence).Nodup)
    {others more : List Frame} {answer : Frame}
    (faces : m.inbox.reader.Faces m.writes.channel (others ++ answer :: more))
    {request : OutstandingRequest η} (waits : request ∈ m.waiters)
    (apart : ∀ other ∈ others, ∃ sequence response,
      other.Answers m.inbox.correlator.signer m.inbox.correlator.hmacKey sequence response ∧
        request.sequence ≠ sequence)
    {response : Command}
    (answers : answer.Answers m.inbox.correlator.signer m.inbox.correlator.hmacKey
      request.sequence response) :
    ∃ before after, m.run.events = before ++ .received (.frame answer) ::
      .completed (.answer request.key request.handler response answer.value) :: after := by
  obtain ⟨received, rfl, events_eq, -⟩ := run_of_reads coherent reads
  rw [← m.sameKey_writes.signer, ← m.sameKey_writes.hmacKey] at apart answers
  obtain ⟨before, after, received_eq⟩ :=
    Inbox.receiveFrom_of_answers faces nodup waits apart answers
  rw [events_eq, received_eq, ← List.append_assoc]
  exact ⟨_, after, rfl⟩

end Multiplexer

variable [Stocked σ] [Pollable σ]

open Multiplexer in
/-- **A burst of bad frames spares the requests that come after it.** On a connection that was
started, let frames that are no responses lie ready, whatever its owner does and whatever comes in
behind them. Then each run that comes to read takes one of them, which fails those who wait at that
moment. Once they are read, every request gets the response that lies ready for it. -/
theorem burst_spares_later_requests {patience : Nat} {signer : Signer} {options : Options} {s : σ}
    {m : Multiplexer σ η}
    (started : Multiplexer.start patience signer options s = some (.ok m)) (past : List (Turn σ η))
    {burst behind : List Frame} (faces : (m.live past).service.Faces (burst ++ behind))
    (faulty : ∀ bad ∈ burst, ∃ status, bad.Faulty signer options.hmacKey status)
    {turns : List (Turn σ η)} (fed : (m.live past).service.Fed turns)
    (few : (m.live past).service.readings turns ≤ burst.length) :
    (m.live past).service.Weathers signer options.hmacKey burst behind turns := by
  have coherent := (coherent_of_start started).live past
  have keyed (turns : List (Turn σ η)) :=
    ((path_live m past).trans (path_live (m.live past).service turns)).correlator_of_start started
  have faulty_now : ∀ bad ∈ burst, ∃ status,
      bad.Faulty (m.live past).service.inbox.correlator.signer
        (m.live past).service.inbox.correlator.hmacKey status := by
    obtain ⟨signer_eq, key_eq⟩ := keyed []
    rw [← signer_eq, ← key_eq] at faulty
    exact faulty
  obtain ⟨read, ready⟩ := burst_live coherent faces faulty_now fed few
  refine ⟨read, ready, ?_, ?_⟩
  · rintro sooner later now rfl rfl reads
    have more : (m.live past).service.readings sooner < burst.length := by
      rw [readings_append, readings, reading, if_pos reads] at few
      omega
    -- what is left of the burst before that run begins with the frame that it takes
    obtain ⟨-, left⟩ := burst_live coherent faces faulty_now fed.of_append more.le
    rw [List.drop_eq_getElem_cons more] at left
    obtain ⟨status, faulty⟩ := faulty _ (List.getElem_mem more)
    have faulty_then := faulty
    obtain ⟨signer_eq, key_eq⟩ := keyed sooner
    rw [← signer_eq, ← key_eq] at faulty_then
    obtain ⟨events_eq, alive, none, -⟩ :=
      run_of_faulty (coherent.live sooner) reads left faulty_then
    exact ⟨_, status, List.getElem?_eq_getElem more, faulty, events_eq, alive, none⟩
  · rintro whole later now rfl reads others answer more request response faces waits apart answers
      success
    obtain ⟨signer_eq, key_eq⟩ := keyed (turns ++ later)
    rw [← signer_eq, ← key_eq] at apart answers
    have nodup := nodup_waiters (fresh_of_start started) (past ++ (turns ++ later))
    rw [live_append] at nodup
    have handed :=
      run_of_answers (coherent.live (turns ++ later)) reads nodup faces waits apart answers
    rw [Completion.eq_answer, if_pos success] at handed
    exact handed

/-! ## A drive with two bad frames in stock -/

/-- Whether a frame is a **response that reports success** to the request with the sequence. -/
def Frame.succeeds (signer : Signer) (hmacKey : Bytes) (sequence : Int64) (frame : Frame) : Bool :=
  (Envelope.decode frame.command).toOption.any fun envelope =>
    envelope.inner.toOption.any fun response =>
      response.isSuccess && (envelope.auth ≠ .hmac || signer.verifies hmacKey envelope) &&
        Correlator.answeredSequence envelope response = some sequence

theorem Frame.exists_answers {signer : Signer} {hmacKey : Bytes} {sequence : Int64} {frame : Frame}
    (h : frame.succeeds signer hmacKey sequence = true) :
    ∃ response, frame.Answers signer hmacKey sequence response ∧ response.isSuccess = true := by
  obtain ⟨envelope, decodes, h⟩ := (Option.any_eq_true _ _).mp h
  obtain ⟨response, holds, h⟩ := (Option.any_eq_true _ _).mp h
  simp only [Bool.and_eq_true, Bool.or_eq_true, decide_eq_true_eq] at h
  obtain ⟨⟨success, signed⟩, answers⟩ := h
  have opens : frame.Opens signer hmacKey envelope :=
    ⟨eq_ok_of_toOption decodes, fun hmac => signed.resolve_left (absurd hmac)⟩
  exact ⟨response, ⟨opens, eq_ok_of_toOption holds, answers⟩, success⟩

section Stale

open Simulation (Drive)

/-- A response that reports success and carries some digest. -/
def signedResponse (digest : Bytes) (sequence : Int64) : Frame :=
  let response : Command :=
    { header := { ackSequence := some sequence }, status := some { code := .success } }
  ⟨{ Envelope.hmac with signed := some ⟨1, digest⟩, command := response.encode }.encode, []⟩

/-- A response with a **wrong digest**. -/
def staleFrame : Frame := signedResponse [8] 0

/-- A drive that answers the first request with two responses whose digests are wrong, though not at
once, and every later one **as it should**. -/
def staleDrive : Drive where
  key := [1]
  queue := [.bytes hello]
  replies := [[.block, .bytes staleFrame.encode, .bytes staleFrame.encode],
    [.bytes (signedResponse [7] 1).encode], [.bytes (signedResponse [7] 2).encode]]

/-- One request, which is out when the bad responses come in. -/
def stalePast : List (Turn Drive Nat) := [.submit (.withPin [1]) {} [] (some 10), .run]

/-- A run reads the first bad response. Then a second request is submitted, and a run reads the
other one. Then comes a third request. -/
def staleTurns : List (Turn Drive Nat) :=
  [.run, .submit (.withPin [1]) {} [] (some 20), .run, .submit (.withPin [1]) {} [] (some 30)]

theorem faulty_staleFrame :
    staleFrame.Faulty (.constant [7]) [1]
      (.client .badDigest "response HMAC did not verify") := by
  have check : ((Envelope.decode staleFrame.command).toOption.any fun envelope =>
      decide (envelope.auth = .hmac ∧ (Signer.constant [7]).verifies [1] envelope = false)) =
        true := by
    decide +kernel
  obtain ⟨envelope, decodes, check⟩ := (Option.any_eq_true _ _).mp check
  obtain ⟨hmac, wrong⟩ := of_decide_eq_true check
  exact .badDigest (eq_ok_of_toOption decodes) hmac wrong

/-- Once the bad frames are read, the third request **gets its response**. -/
theorem burst_spares_later_requests_stale :
    ∃ (m : Multiplexer Drive Nat) (before after : List (Event Nat)) (response : Command),
      Multiplexer.start 2 (.constant [7]) { hmacKey := [1] } staleDrive = some (.ok m) ∧
      (m.live stalePast).service.Faces [staleFrame, staleFrame] ∧
      (m.live stalePast).service.readings staleTurns = 2 ∧ response.isSuccess = true ∧
      ((m.live stalePast).service.live staleTurns).service.run.events =
        before ++ .received (.frame (signedResponse [7] 2)) ::
          .completed ⟨2, 30, .answered response []⟩ :: after := by
  have check : ((Multiplexer.start 2 (.constant [7]) { hmacKey := [1] } staleDrive :
      Option (Except Failure (Multiplexer Drive Nat))).any fun started =>
      started.toOption.any fun m =>
        let now := (m.live stalePast).service
        let later := (now.live staleTurns).service
        decide (now.inbox.reader.inProgress = false ∧
          (∀ frame ∈ [staleFrame, staleFrame], frame.Fits now.inbox.reader.maxFrameSize) ∧
          [staleFrame, staleFrame].flatMap Frame.encode <+: stock now.channel ∧
          now.readings staleTurns = 2 ∧ later.Reads ∧ later.inbox.reader.inProgress = false ∧
          (∀ frame ∈ [signedResponse [7] 1, signedResponse [7] 2],
            frame.Fits later.inbox.reader.maxFrameSize) ∧
          [signedResponse [7] 1, signedResponse [7] 2].flatMap Frame.encode <+:
            stock later.writes.channel ∧
          later.waiters.map (fun request => (request.sequence, request.key, request.handler)) =
            [(2, 2, 30)])) = true := by
    decide +kernel
  obtain ⟨m, started, check⟩ := exists_started check
  obtain ⟨between, fits, front, whole, reads, between', fits', front', waits⟩ :=
    of_decide_eq_true check
  have faces : (m.live stalePast).service.Faces [staleFrame, staleFrame] :=
    .of_between between fits front
  have fed : (m.live stalePast).service.Fed staleTurns :=
    .of_none fun channel => by simp [staleTurns]
  have faulty : ∀ bad ∈ [staleFrame, staleFrame], ∃ status,
      bad.Faulty (.constant [7]) [1] status := by
    intro bad mem
    rw [List.mem_pair.mp mem |>.elim id id]
    exact ⟨_, faulty_staleFrame⟩
  have weathers : (m.live stalePast).service.Weathers (.constant [7]) [1] [staleFrame, staleFrame]
      [] staleTurns :=
    burst_spares_later_requests started stalePast faces faulty fed (by rw [whole]; decide)
  obtain ⟨other, others_answer, -⟩ := Frame.exists_answers
    (show (signedResponse [7] 1).succeeds (.constant [7]) [1] 1 = true by decide +kernel)
  obtain ⟨response, answers, success⟩ := Frame.exists_answers
    (show (signedResponse [7] 2).succeeds (.constant [7]) [1] 2 = true by decide +kernel)
  obtain ⟨⟨sequence, key, handler⟩, waiters_eq, same⟩ := List.map_eq_singleton_iff.mp waits
  cases same
  have waits : (⟨2, 2, 30⟩ : OutstandingRequest Nat) ∈
      ((m.live stalePast).service.live staleTurns).service.waiters := by
    rw [waiters_eq]
    exact List.mem_singleton_self _
  have apart : ∀ frame ∈ [signedResponse [7] 1], ∃ sequence response,
      frame.Answers (.constant [7]) [1] sequence response ∧ (2 : Int64) ≠ sequence := by
    intro frame mem
    rw [List.mem_singleton.mp mem]
    exact ⟨1, other, others_answer, by decide⟩
  obtain ⟨before, after, events_eq⟩ := weathers.spares whole [] _ rfl reads
    [signedResponse [7] 1] _ [] _ response (.of_between between' fits' front') waits apart answers
    success
  exact ⟨m, before, after, response, started, faces, whole, success, events_eq⟩

/-- The first bad frame fails the first request and the connection stays alive. But the second bad
frame **fails the second request**, which was submitted after that, although a good response to it
lies ready behind this frame. -/
theorem stale_frame_fails_later_request :
    ∃ (m now later : Multiplexer Drive Nat) (response : Command) (before sooner : List (Event Nat)),
      Multiplexer.start 2 (.constant [7]) { hmacKey := [1] } staleDrive = some (.ok m) ∧
      now = (m.live stalePast).service ∧ now.failed = false ∧
      now.inbox.correlator.outstanding.entries = [⟨0, 0, 10⟩] ∧
      now.Faces [staleFrame, staleFrame] ∧
      staleFrame.Faulty (.constant [7]) [1]
        (.client .badDigest "response HMAC did not verify") ∧
      now.run.events = before ++ [.received (.frame staleFrame),
        .completed ⟨0, 10, .failed (.client .badDigest "response HMAC did not verify") none⟩] ∧
      later = (now.live [.run, .submit (.withPin [1]) {} [] (some 20)]).service ∧
      later.failed = false ∧ later.waiters = [⟨1, 1, 20⟩] ∧
      later.inbox.reader.Faces later.writes.channel [staleFrame, signedResponse [7] 1] ∧
      (signedResponse [7] 1).Answers (.constant [7]) [1] 1 response ∧
      response.isSuccess = true ∧
      later.run.events = sooner ++ [.received (.frame staleFrame),
        .completed ⟨1, 20, .failed (.client .badDigest "response HMAC did not verify") none⟩] := by
  have check : ((Multiplexer.start 2 (.constant [7]) { hmacKey := [1] } staleDrive :
      Option (Except Failure (Multiplexer Drive Nat))).any fun started =>
      started.toOption.any fun m =>
        let now := (m.live stalePast).service
        let later := (now.live [.run, .submit (.withPin [1]) {} [] (some 20)]).service
        let numbers (request : OutstandingRequest Nat) :=
          (request.sequence, request.key, request.handler)
        decide (now.Reads ∧ now.inbox.correlator.outstanding.entries.map numbers = [(0, 0, 10)] ∧
          now.waiters.map numbers = [(0, 0, 10)] ∧ now.inbox.reader.inProgress = false ∧
          (∀ frame ∈ [staleFrame, staleFrame], frame.Fits now.inbox.reader.maxFrameSize) ∧
          [staleFrame, staleFrame].flatMap Frame.encode <+: stock now.channel ∧
          later.Reads ∧ later.waiters.map numbers = [(1, 1, 20)] ∧
          later.inbox.reader.inProgress = false ∧
          (∀ frame ∈ [staleFrame, signedResponse [7] 1],
            frame.Fits later.inbox.reader.maxFrameSize) ∧
          [staleFrame].flatMap Frame.encode <+: stock later.channel ∧
          [staleFrame, signedResponse [7] 1].flatMap Frame.encode <+:
            stock later.writes.channel)) = true := by
    decide +kernel
  obtain ⟨m, started, check⟩ := exists_started check
  have path := path_live m stalePast
  have coherent := (Multiplexer.coherent_of_start started).live stalePast
  generalize now_eq : (m.live stalePast).service = now at check path coherent
  obtain ⟨reads, out, waits, between, fits, front, reads', waits', between', fits', front',
    behind⟩ := of_decide_eq_true check
  have path' := path.trans (path_live now [.run, .submit (.withPin [1]) {} [] (some 20)])
  have coherent' := coherent.live [.run, .submit (.withPin [1]) {} [] (some 20)]
  generalize later_eq : (now.live [.run, .submit (.withPin [1]) {} [] (some 20)]).service = later
    at reads' waits' between' fits' front' behind path' coherent'
  have alone {requests : List (OutstandingRequest Nat)} {sequence : Int64} {key : RequestKey}
      {handler : Nat} (h : requests.map (fun request =>
        (request.sequence, request.key, request.handler)) = [(sequence, key, handler)]) :
      requests = [⟨sequence, key, handler⟩] := by
    obtain ⟨request, rfl, same⟩ := List.map_eq_singleton_iff.mp h
    cases same
    rfl
  -- each of the two runs reads one bad frame, and fails whoever waits then
  have faulty := faulty_staleFrame
  obtain ⟨signer_eq, key_eq⟩ := path.correlator_of_start started
  obtain ⟨signer_eq', key_eq'⟩ := path'.correlator_of_start started
  have faces : now.Faces [staleFrame, staleFrame] := .of_between between fits front
  obtain ⟨events_eq, -⟩ := Multiplexer.run_of_faulty coherent reads faces
    (by rw [signer_eq, key_eq]; exact faulty)
  have faces' : later.Faces [staleFrame] :=
    .of_between between' (fun frame mem => fits' frame (List.mem_cons.mpr (.inl
      (List.mem_singleton.mp mem)))) front'
  obtain ⟨events_eq', -⟩ := Multiplexer.run_of_faulty coherent' reads' faces'
    (by rw [signer_eq', key_eq']; exact faulty)
  rw [alone waits] at events_eq
  rw [alone waits'] at events_eq'
  obtain ⟨response, answers, success⟩ := Frame.exists_answers
    (show (signedResponse [7] 1).succeeds (.constant [7]) [1] 1 = true by decide +kernel)
  exact ⟨m, now, later, response, _, _, started, now_eq.symm, reads.1, alone out, faces, faulty,
    events_eq, later_eq.symm, reads'.1, alone waits', .of_between between' fits' behind, answers,
    success, events_eq'⟩

end Stale

end DriveLink
