import DriveLink.Proofs.Pipeline.Burst
import DriveLink.Proofs.Pipeline.Intake
import DriveLink.Proofs.Pipeline.Shipping

/-! # Whom a failure hits

A run may come to grief in three ways, and each of them has its own victims. If a call to write or
to flush fails, those requests fail that are not entirely written by then, in their order, and the
run makes no read. If a read fails, or a frame does not begin as one, those fail that wait for their
answers by then, and none that is not entirely written. If a frame is no response, those who wait
for their answers fail as well, but the connection lives on, and nothing behind that frame is read.

* `Inbox.pulls_receiveFrom`, `Inbox.pulled_receiveFrom` — reads that work, and one that fails;
* `Multiplexer.BreaksOut`, `Multiplexer.BreaksIn`, `Multiplexer.GivesUp` — what each failure does;
* `Multiplexer.Blames`, `failures_hit_their_requests` — every run of a connection that is alive. -/

namespace DriveLink

variable {σ η : Type}

open Channel (Yields Pulls Pushes Pulled Pushed)

/-! ## What was read, and who was told -/

/-- A read is among the outcomes just if it **was received**. -/
theorem Event.mem_outcomes {events : List (Event η)} {outcome : ReadOutcome} :
    outcome ∈ Event.outcomes events ↔ .received outcome ∈ events :=
  mem_filterMap_iff fun other => by cases other <;> simp [outcome?]

namespace Correlator

/-- The end of some frames **is about these frames**. -/
theorem outcomes_told (c : Correlator η) (ends : List ReadOutcome) :
    Event.outcomes (c.told ends) = ends := by
  induction ends generalizing c with
  | nil => rfl
  | cons outcome ends ih =>
    rw [told_cons, Event.outcomes_append, toldOf, Event.outcomes_received, ih]
    rfl

end Correlator

namespace Inbox

variable [Channel σ]

/-- Reading to the **end of a frame** makes only reads that work. -/
theorem pulls_of_endsFrame {reader : FrameReader} {s : σ}
    (ends : (reader.read s).1.endsFrame = true) : Pulls s (reader.read s).2.2 := by
  have pulled := reader.pulled_read s
  have works : (reader.read s).1.error? = none := by
    cases outcome : (reader.read s).1 with
    | failed error =>
      rw [outcome] at ends
      cases ends
    | _ => rfl
  rw [works] at pulled
  exact pulled.pulls

/-- **Receiving that does not fail** makes only reads that work. -/
theorem pulls_receiveFrom (c : Correlator η) (reader : FrameReader) (s : σ)
    (works : (receiveFrom c reader s).activity ≠ .failed) :
    Pulls s (receiveFrom c reader s).channel := by
  fun_induction receiveFrom c reader s with
  | case1 c reader s nothing => exact .refl
  | case2 c reader s some read ends accepted events stop => exact pulls_of_endsFrame ends
  | case3 c reader s some read ends accepted events more later ih =>
    exact (pulls_of_endsFrame ends).trans (ih works)
  | case4 c reader s some read open' error failure failed c' all => exact absurd rfl works
  | case5 c reader s some read open' fine =>
    have pulled := reader.pulled_read s
    have works : (reader.read s).1.error? = none := by
      cases outcome : (reader.read s).1 with
      | failed error => exact (fine error outcome).elim
      | _ => rfl
    rw [works] at pulled
    exact pulled.pulls

/-- **Receiving that fails** makes reads that work, and perhaps a last one that fails. -/
theorem pulled_receiveFrom (c : Correlator η) (reader : FrameReader) (s : σ) {error : FrameError}
    (fails : .received (.failed error) ∈ (receiveFrom c reader s).events) :
    Pulled s (ReadOutcome.failed error).error? (receiveFrom c reader s).channel := by
  have told {outcome : ReadOutcome} {done : List (Completion η)}
      (mem : .received (.failed error) ∈ Event.received outcome :: done.map .completed) :
      outcome = .failed error := by
    have inside := Event.mem_outcomes.mpr mem
    rw [Event.outcomes_received] at inside
    exact (List.mem_singleton.mp inside).symm
  fun_induction receiveFrom c reader s with
  | case1 c reader s nothing => exact absurd fails List.not_mem_nil
  | case2 c reader s some read ends accepted events stop =>
    rw [told fails] at ends
    cases ends
  | case3 c reader s some read ends accepted events more later ih =>
    rcases List.mem_append.mp fails with now | fails
    · rw [told now] at ends
      cases ends
    · exact (ih fails).after (pulls_of_endsFrame ends)
  | case4 c reader s some read open' cause failure failed c' all =>
    have pulled := reader.pulled_read s
    have same : (reader.read s).1 = .failed error := told fails
    rwa [same] at pulled
  | case5 c reader s some read open' fine => exact absurd fails List.not_mem_nil

/-- Receiving fails **because a read does**, or because a frame does not begin as one. -/
theorem exists_failed_of_activity (c : Correlator η) (reader : FrameReader) (s : σ)
    (fails : (receiveFrom c reader s).activity = .failed) :
    ∃ error, .received (.failed error) ∈ (receiveFrom c reader s).events := by
  fun_induction receiveFrom c reader s with
  | case3 c reader s some read ends accepted events more later ih =>
    obtain ⟨error, received⟩ := ih fails
    exact ⟨error, List.mem_append_right _ received⟩
  | case4 c reader s some read open' error failure failed c' all =>
    rw [failure]
    exact ⟨error, List.mem_cons_self ..⟩
  | _ => cases fails

/-- Receiving completes **only requests that wait**. -/
theorem waits_of_receiveFrom (c : Correlator η) (reader : FrameReader) (s : σ) :
    ∀ completion ∈ (receiveFrom c reader s).completions,
      ∃ request ∈ c.outstanding.entries, completion.key = request.key := by
  unfold Received.completions
  fun_induction receiveFrom c reader s with
  | case1 c reader s nothing => exact fun _ mem => absurd mem List.not_mem_nil
  | case2 c reader s some read ends accepted events stop =>
    rw [show events = c.toldOf read.1 from rfl, Correlator.completions_toldOf]
    exact (c.accepts_accept ends).waits.2
  | case3 c reader s some read ends accepted events more later ih =>
    obtain ⟨fewer, told⟩ := (c.accepts_accept ends).waits
    rw [Event.completions_append, show events = c.toldOf read.1 from rfl,
      Correlator.completions_toldOf]
    intro completion mem
    rcases List.mem_append.mp mem with now | later
    · exact told completion now
    · obtain ⟨request, inside, same⟩ := ih completion later
      exact ⟨request, fewer.subset inside, same⟩
  | case4 c reader s some read open' error failure failed c' all =>
    cases all
    rw [← List.singleton_append, Event.completions_append, Event.completions_map_completed]
    intro completion mem
    obtain ⟨request, inside, rfl⟩ := List.mem_map.mp mem
    exact ⟨request, inside, rfl⟩
  | case5 c reader s some read open' fine => exact fun _ mem => absurd mem List.not_mem_nil

/-- **Receiving that fails** has told some frames before, and then fails whoever waits. -/
theorem exists_told_of_failed {c : Correlator η} {reader : FrameReader} (sound : reader.Sound)
    {s : σ} {error : FrameError}
    (fails : .received (.failed error) ∈ (receiveFrom c reader s).events) :
    ∃ ends, (∀ outcome ∈ ends, outcome.endsFrame = true) ∧
      (receiveFrom c reader s).events = c.told ends ++ .received (.failed error) ::
        (OutstandingRequest.failures (c.afterAll ends).outstanding.entries
          (.client .ioError ("I/O read error: " ++ error.message))).map .completed ∧
      (receiveFrom c reader s).activity = .failed ∧
      (receiveFrom c reader s).inbox.correlator.outstanding.entries = [] := by
  obtain ⟨taken, stands, -⟩ := sound
  have receives := receives_receiveFrom c reader s taken stands
  generalize receiveFrom c reader s = received at fails receives ⊢
  cases receives with
  | @intro ends c' taken' s₁ last through halts =>
    obtain rfl := through.correlator_eq
    have whole := through.endsFrame
    have mem := Event.mem_outcomes.mpr fails
    rw [Event.outcomes_append, Correlator.outcomes_told, List.mem_append] at mem
    -- a frame that was read to its end is no failure
    have inside := mem.resolve_left fun sooner => by cases whole _ sooner
    cases halts with
    | nothing => exact absurd inside List.not_mem_nil
    | @stops bytes s' outcome wanted yields ended stop =>
      rw [Correlator.toldOf, Event.outcomes_received, List.mem_singleton] at inside
      subst inside
      cases ended.endsFrame
    | waits => exact absurd inside List.not_mem_nil
    | @fails cause s' wanted reads =>
      rw [Event.outcomes_received, List.mem_singleton] at inside
      cases inside
      exact ⟨ends, whole, rfl, rfl, rfl⟩

/-- **Receiving that comes to a frame which is no response** stops there: it fails whoever waits,
and has taken the bytes of the frames so far, and no others. -/
theorem exists_told_of_faulty {c : Correlator η} {reader : FrameReader} {taken : Bytes}
    (stands : reader.state.Stands reader.maxFrameSize taken) {s : σ} {frame : Frame}
    {status : Status} (received : .received (.frame frame) ∈ (receiveFrom c reader s).events)
    (faulty : frame.Faulty c.signer c.hmacKey status) :
    ∃ ends got, (∀ outcome ∈ ends, outcome.endsFrame = true) ∧
      (receiveFrom c reader s).events = c.told ends ++ .received (.frame frame) ::
        (OutstandingRequest.failures (c.afterAll ends).outstanding.entries status).map .completed ∧
      (receiveFrom c reader s).activity = .idle ∧
      (receiveFrom c reader s).inbox.correlator.outstanding.entries = [] ∧
      Yields s got (receiveFrom c reader s).channel ∧
      Frame.parse reader.maxFrameSize (taken ++ got) = (ends ++ [.frame frame], []) := by
  have receives := receives_receiveFrom c reader s taken stands
  generalize receiveFrom c reader s = call at received receives ⊢
  cases receives with
  | @intro ends c' taken' s₁ last through halts =>
    obtain rfl := through.correlator_eq
    have whole := through.endsFrame
    have mem := Event.mem_outcomes.mpr received
    rw [Event.outcomes_append, Correlator.outcomes_told, List.mem_append] at mem
    have accepted {sooner : List ReadOutcome}
        (within : ∀ outcome ∈ sooner, outcome.endsFrame = true) :
        ∃ connectionId, (c.afterAll sooner).accept (.frame frame) =
          ⟨{ c.afterAll sooner with outstanding := .empty, connectionId },
            OutstandingRequest.failures (c.afterAll sooner).outstanding.entries status, true⟩ := by
      have same := c.sameKey_afterAll within
      rw [← same.signer, ← same.hmacKey] at faulty
      exact Correlator.accept_of_faulty faulty
    -- no frame behind which reading went on says to stop
    have inside := mem.resolve_left fun sooner => by
      obtain ⟨before, after, ends_eq⟩ := List.append_of_mem sooner
      obtain ⟨connectionId, stops⟩ := accepted fun outcome mem =>
        whole outcome (ends_eq ▸ List.mem_append_left _ mem)
      have goesOn := through.goesOn ends_eq
      rw [stops] at goesOn
      cases goesOn
    cases halts with
    | nothing => exact absurd inside List.not_mem_nil
    | @stops bytes s' outcome wanted yields ended stop =>
      rw [Correlator.toldOf, Event.outcomes_received, List.mem_singleton] at inside
      subst inside
      obtain ⟨got, yields', parsed⟩ := through.exists_parse
      obtain ⟨connectionId, stops⟩ := accepted whole
      have alone := Frame.parse_whole ended []
      rw [List.append_nil, Frame.parse_nil] at alone
      refine ⟨ends, got ++ bytes, whole, ?_, rfl, ?_, yields'.trans yields, ?_⟩
      · rw [Correlator.toldOf, stops]
      · rw [stops]
        rfl
      · rw [← List.append_assoc, parsed, alone]
    | waits => exact absurd inside List.not_mem_nil
    | @fails cause s' wanted reads =>
      rw [Event.outcomes_received, List.mem_singleton] at inside
      cases inside

end Inbox

/-! ## The three failures -/

namespace Multiplexer

variable [Channel σ]

/-- **What a run does in which a write or a flush fails**, if by then the requests `out` are
out and the requests `failing` are not. -/
structure BreaksOut (m : Multiplexer σ η) (few : Prop) (error : IoError)
    (out failing : List (Ticket η)) : Prop where
  /-- The run calls the channel to write and to flush only, up to the call that fails. -/
  calls : Pushed m.channel (some error) m.run.service.channel
  /-- Whoever was not entirely written before the run is out now, or fails. -/
  unsent : m.transit.unsent = out ++ failing
  /-- First some requests come to be out, which completes nobody. Then all others fail, in their
  order, and this is the end of the run. -/
  events : ∃ before ticket bytes, failing.head? = some ticket ∧
    m.run.events = before ++ .took ticket.sequence bytes ::
      (failing.flatMap (Ticket.fail · (.client .ioError
        ("I/O write error: " ++ (FrameError.channel error).message)))).map .completed ∧
    Event.outgoing before = out.map Ticket.sequence ∧ (few → Event.completions before = [])
  /-- Whoever waited for an answer goes on waiting, and so does whoever is out now and has a
  handler. Nothing else changes in the inbox. -/
  awaiting : ∃ added,
    m.run.service.inbox = { m.inbox with correlator := { m.inbox.correlator with
      outstanding := ⟨m.inbox.correlator.outstanding.entries ++ added⟩ } } ∧
    (few → added.map OutstandingRequest.ticket = out.filter (·.handler.isSome))
  /-- Nothing is left to write, and the connection is dead. -/
  dead : m.run.service.transit.unsent = [] ∧ m.run.readiness = none ∧ m.run.service.failed = true

/-- **No request that is not entirely written** is completed in a run, or changed by what is read in
it. -/
structure SparesUnsent (m : Multiplexer σ η) (few : Prop) : Prop where
  outbox : m.run.service.outbox = m.writes.outbox
  nextKey : m.run.service.nextKey = m.nextKey
  quiet : few → Event.completions m.writes.events = [] ∧
    ∀ completion ∈ Event.completions m.run.events, ∀ ticket ∈ m.run.service.transit.unsent,
      completion.key ≠ ticket.key

/-- **What a run does in which a read fails**, or a frame does not begin as one. -/
structure BreaksIn (m : Multiplexer σ η) (few : Prop) (error : FrameError) : Prop where
  /-- Up to there, all calls to the channel work. -/
  calls : Pushes m.channel m.writes.channel ∧
    Pulled m.writes.channel (ReadOutcome.failed error).error? m.run.service.channel
  /-- Some frames may have been read before. Those who wait then fail, each of them once, and nobody
  else. -/
  events : ∃ ends, let waiting := (m.writes.inbox.correlator.afterAll ends).outstanding.entries
    m.run.events = m.writes.events ++ (m.writes.inbox.correlator.told ends ++
      .received (.failed error) :: (OutstandingRequest.failures waiting
        (.client .ioError ("I/O read error: " ++ error.message))).map .completed) ∧
    (waiting.map OutstandingRequest.sequence).Nodup
  spares : m.SparesUnsent few
  /-- Nobody waits any more, and the connection is dead. -/
  dead : m.run.service.transit.awaiting = [] ∧ m.run.readiness = none ∧ m.run.service.failed = true

/-- **What a run does that reads a frame which is no response.** -/
structure GivesUp (m : Multiplexer σ η) (few : Prop) (frame : Frame) (status : Status) : Prop where
  /-- Some frames may have been read before. Those who wait then fail, each of them once and without
  a response, and nobody else. The frame is the last one that is read. -/
  events : ∃ ends, let waiting := (m.writes.inbox.correlator.afterAll ends).outstanding.entries
    m.run.events = m.writes.events ++ (m.writes.inbox.correlator.told ends ++
      .received (.frame frame) :: (OutstandingRequest.failures waiting status).map .completed) ∧
    (waiting.map OutstandingRequest.sequence).Nodup
  /-- With the bytes that had been taken of the first frame, the run has taken those of the frames
  that it read, and no byte behind them. -/
  taken : ∀ taken, m.inbox.reader.state.Stands m.inbox.reader.maxFrameSize taken →
    ∃ got, Yields m.writes.channel got m.run.service.channel ∧
      Frame.parse m.inbox.reader.maxFrameSize (taken ++ got) = (Event.outcomes m.run.events, [])
  spares : m.SparesUnsent few
  /-- Nobody waits any more, so that there is nothing to wait for, and the connection lives on. -/
  idle : m.run.service.transit.awaiting = [] ∧
    (m.writes.inbox.receive m.writes.channel).activity = .idle ∧
    m.run.readiness = some { read := false, write := m.writes.activity = .waiting } ∧
    m.run.service.failed = false

/-- **Each failure hits its own requests**, in the next run of a connection. What only holds as long
as its numbers have not run out is said under the condition `few`. -/
structure Blames (m : Multiplexer σ η) (signer : Signer) (hmacKey : Bytes) (few : Prop) :
    Prop where
  /-- If the outbox does not fail, no write and no flush does. -/
  writesWork : m.writes.activity ≠ .failed → Pushes m.channel m.writes.channel
  writeFails : m.writes.activity = .failed → ∃ error out failing, m.BreaksOut few error out failing
  /-- If nothing is received that failed either, no read does, and the connection lives on. -/
  readsWork : m.writes.activity ≠ .failed → (∀ error, .received (.failed error) ∉ m.run.events) →
    Pulls m.writes.channel m.run.service.channel ∧ m.run.service.failed = false
  readFails : ∀ error, .received (.failed error) ∈ m.run.events → m.BreaksIn few error
  noResponse : ∀ frame status, .received (.frame frame) ∈ m.run.events →
    frame.Faulty signer hmacKey status → m.GivesUp few frame status

/-! ## Every run -/

/-- What the next run **reads**, once it has written. -/
def reads (m : Multiplexer σ η) : Received η σ :=
  Inbox.receiveFrom m.writes.inbox.correlator m.inbox.reader m.writes.channel

variable {m : Multiplexer σ η}

/-- **A run that fails to write** ends there. -/
theorem run_of_writeFails (alive : m.failed = false) (fails : m.writes.activity = .failed) :
    m.run = ⟨none, m.writes.events,
      { m with
        outbox := m.writes.outbox, inbox := m.writes.inbox, channel := m.writes.channel
        failed := true }⟩ := by
  unfold writes at fails ⊢
  rw [run, if_neg (Bool.eq_false_iff.mp alive)]
  exact if_pos fails

/-- **A run that does not fail to write** reads, and what that comes to is the end of it. -/
theorem run_of_writesWork (coherent : m.Coherent) (alive : m.failed = false)
    (works : m.writes.activity ≠ .failed) :
    m.run = ⟨if m.reads.activity = .failed then none else
          some { read := m.reads.activity = .waiting, write := m.writes.activity = .waiting },
      m.writes.events ++ m.reads.events,
      { m with
        outbox := m.writes.outbox, inbox := m.reads.inbox, channel := m.reads.channel
        failed := m.reads.activity = .failed }⟩ := by
  have receives := receive_writes coherent alive
  rw [← reads] at receives
  unfold writes at works receives ⊢
  rw [run, if_neg (Bool.eq_false_iff.mp alive)]
  simp only
  rw [if_neg works, receives]
  by_cases fails : m.reads.activity = .failed
  · simp only [fails, if_true, decide_true]
  · simp only [fails, if_false, decide_false, alive]

variable {m₀ : Multiplexer σ η} {past : List (Turn σ η)}

/-- What is written submits **nothing**. -/
theorem length_submissions_writes (m₀ : Multiplexer σ η) (past : List (Turn σ η)) :
    (Event.submissions ((m₀.live past).events ++ (m₀.live past).service.writes.events)).length =
      (Turn.submitted past).length := by
  have nothing : Event.submissions (m₀.live past).service.writes.events = [] := by
    refine List.filterMap_eq_nil_iff.mpr fun event mem => ?_
    cases inSend_send _ _ _ event mem <;> rfl
  rw [Event.submissions_append, nothing, List.append_nil, length_submissions_live]

/-- In a life with few submissions, getting frames out **completes nobody**. -/
theorem completions_writes_eq_nil (fresh : m₀.Fresh) (past : List (Turn σ η))
    (few : (Turn.submitted past).length < 2 ^ 63) {events later : List (Event η)}
    (events_eq : (m₀.live past).service.writes.events = events ++ later)
    (untold : Event.Untold events) : Event.completions events = [] := by
  have path := (path_live m₀ past).trans (path_send (m₀.live past).service)
  rw [← length_submissions_writes m₀ past, events_eq] at few
  rw [← writes, events_eq] at path
  exact path.completions_eq_nil fresh few untold

/-- **A run that fails to write** fails whoever is not entirely written, and nobody else. -/
theorem breaksOut_of_writeFails (fresh : m₀.Fresh)
    (coherent : (m₀.live past).service.Coherent) (alive : (m₀.live past).service.failed = false)
    (fails : (m₀.live past).service.writes.activity = .failed) :
    ∃ error out failing, (m₀.live past).service.BreaksOut
      ((Turn.submitted past).length < 2 ^ 63) error out failing := by
  have quiet := completions_writes_eq_nil fresh past
  have run_eq := run_of_writeFails alive fails
  have working := coherent.outbox alive
  generalize (m₀.live past).service = m at *
  by_cases nothing : m.outbox.unsent = []
  · rw [writes, Outbox.send_of_nothing working nothing] at fails
    cases fails
  · obtain ⟨w, tickets_eq, inbox_eq, channel_eq, writes_eq⟩ :=
      Outbox.exists_writing working nothing m.inbox m.channel
    rw [← writes] at writes_eq
    rw [writes_eq] at fails run_eq quiet
    -- some requests come to be out, and the call fails at the next one
    obtain ⟨out, before, w', error, bytes, ships, pushed, kept, free, empty, events_eq⟩ :=
      Outbox.exists_ships_of_failed w fails
    obtain ⟨added, added_eq, waiting⟩ := ships.inbox_eq
    have silent := fun few => quiet few events_eq ships.untold
    refine ⟨error, out, w'.tickets, ?_, ?_, ?_, ?_, ?_⟩
    · rw [run_eq, ← channel_eq]
      exact pushed
    · show m.outbox.unsent = out ++ w'.tickets
      rw [← tickets_eq, ships.tickets_eq]
    · refine ⟨before, w'.request.ticket, bytes, rfl, ?_, ships.outgoing_eq, silent⟩
      rw [run_eq]
      exact events_eq
    · refine ⟨added, ?_, fun few => waiting (silent few)⟩
      rw [run_eq, ← inbox_eq, ← added_eq]
      exact kept
    · rw [run_eq]
      refine ⟨?_, rfl, rfl⟩
      show w.send.current.toList.map _ ++ w.send.queue.map _ = []
      rw [free, empty]
      rfl

/-- **A run that does not fail to write** spares whoever is not entirely written. -/
theorem sparesUnsent_of_writesWork (fresh : m₀.Fresh)
    (coherent : (m₀.live past).service.Coherent) (alive : (m₀.live past).service.failed = false)
    (works : (m₀.live past).service.writes.activity ≠ .failed) :
    (m₀.live past).service.SparesUnsent ((Turn.submitted past).length < 2 ^ 63) := by
  have run_eq := run_of_writesWork coherent alive works
  constructor
  · rw [run_eq]
  · rw [run_eq]
  · intro few
    have untold := (Outbox.pushes_send (coherent.outbox alive) works).2
    have none := completions_writes_eq_nil fresh past few (List.append_nil _).symm untold
    have path := (path_live m₀ past).trans (path_send (m₀.live past).service)
    rw [← length_submissions_writes m₀ past] at few
    have keys := (path.inOrder fresh few).keys_nodup
    rw [Transit.tickets, List.map_append, List.nodup_append] at keys
    refine ⟨none, fun completion mem ticket unsent same => ?_⟩
    -- whoever is completed waited for an answer, and so has another key
    rw [run_eq, Event.completions_append, none, List.nil_append] at mem
    obtain ⟨request, waits, key_eq⟩ := Inbox.waits_of_receiveFrom _ _ _ completion mem
    rw [run_eq] at unsent
    refine keys.2.2 _ (List.mem_map_of_mem (List.mem_map_of_mem waits)) _
      (List.mem_map_of_mem unsent) ?_
    exact key_eq.symm.trans same

/-- **A run in which a read fails** fails whoever waits for an answer, and nobody else. -/
theorem breaksIn_of_received (fresh : m₀.Fresh)
    (coherent : (m₀.live past).service.Coherent) (alive : (m₀.live past).service.failed = false)
    (works : (m₀.live past).service.writes.activity ≠ .failed) {error : FrameError}
    (fails : .received (.failed error) ∈ (m₀.live past).service.reads.events) :
    (m₀.live past).service.BreaksIn ((Turn.submitted past).length < 2 ^ 63) error := by
  have run_eq := run_of_writesWork coherent alive works
  have nodup := nodup_waiters fresh past
  have spares := sparesUnsent_of_writesWork fresh coherent alive works
  obtain ⟨ends, whole, events_eq, activity_eq, nobody⟩ :=
    Inbox.exists_told_of_failed coherent.sound fails
  have fewer := (m₀.live past).service.writes.inbox.correlator.afterAll_sublist whole
  constructor
  · rw [run_eq]
    exact ⟨(Outbox.pushes_send (coherent.outbox alive) works).1,
      Inbox.pulled_receiveFrom _ _ _ fails⟩
  · refine ⟨ends, ?_, nodup.sublist (fewer.map _)⟩
    rw [run_eq, ← events_eq]
    rfl
  · exact spares
  · have dead : (m₀.live past).service.reads.activity = .failed := activity_eq
    rw [run_eq, dead]
    refine ⟨?_, rfl, rfl⟩
    exact congrArg (List.map OutstandingRequest.ticket) nobody

/-- **A run that reads a frame which is no response** fails whoever waits for an answer, and the
connection lives on. -/
theorem givesUp_of_received (fresh : m₀.Fresh)
    (coherent : (m₀.live past).service.Coherent) (alive : (m₀.live past).service.failed = false)
    (works : (m₀.live past).service.writes.activity ≠ .failed) {frame : Frame} {status : Status}
    (received : .received (.frame frame) ∈ (m₀.live past).service.reads.events)
    (faulty : frame.Faulty (m₀.live past).service.inbox.correlator.signer
      (m₀.live past).service.inbox.correlator.hmacKey status) :
    (m₀.live past).service.GivesUp ((Turn.submitted past).length < 2 ^ 63) frame status := by
  have run_eq := run_of_writesWork coherent alive works
  have nodup := nodup_waiters fresh past
  have spares := sparesUnsent_of_writesWork fresh coherent alive works
  have receives := receive_writes coherent alive
  have silent := Event.outcomes_send (m₀.live past).service.outbox (m₀.live past).service.inbox
    (m₀.live past).service.channel
  obtain ⟨from_taken, stands, -⟩ := coherent.sound
  generalize (m₀.live past).service = m at *
  rw [← m.sameKey_writes.signer, ← m.sameKey_writes.hmacKey] at faulty
  have told {taken : Bytes}
      (stands : m.inbox.reader.state.Stands m.inbox.reader.maxFrameSize taken) :=
    Inbox.exists_told_of_faulty stands received faulty
  obtain ⟨ends, -, whole, events_eq, activity_eq, nobody, -, -⟩ := told stands
  have fewer := m.writes.inbox.correlator.afterAll_sublist whole
  constructor
  · refine ⟨ends, ?_, nodup.sublist (fewer.map _)⟩
    rw [run_eq, ← events_eq]
    rfl
  · intro taken stands'
    obtain ⟨ends, got, -, events_eq, -, -, yields, parsed⟩ := told stands'
    refine ⟨got, ?_, ?_⟩
    · rw [run_eq]
      exact yields
    · rw [parsed, run_eq, Event.outcomes_append, writes, silent, reads, events_eq,
        Event.outcomes_append, Correlator.outcomes_told, Event.outcomes_received]
      rfl
  · exact spares
  · have idle : m.reads.activity = .idle := activity_eq
    rw [run_eq, idle]
    refine ⟨?_, ?_, rfl, rfl⟩
    · exact congrArg (List.map OutstandingRequest.ticket) nobody
    · rw [receives]
      exact activity_eq

end Multiplexer

open Multiplexer in
/-- **Each failure hits its own requests.** Take any moment in the life of a connection that was
started and is alive then, and its next run. If a write or a flush fails, those requests fail that
are not entirely written by then, in their order, no read is made, and whoever waits for an answer
goes on waiting. If a read fails, or a frame does not begin as one, those fail who wait for their
answers by then, and nobody who is not entirely written. If a frame is no response, those fail who
wait by then, each of them once, and the connection lives on: nothing is changed of what is to be
written, and no byte behind the frame is taken. -/
theorem failures_hit_their_requests [Channel σ] [Pollable σ] {patience : Nat} {signer : Signer}
    {options : Options} {s : σ} {m : Multiplexer σ η}
    (started : Multiplexer.start patience signer options s = some (.ok m)) (past : List (Turn σ η))
    (alive : (m.live past).service.failed = false) :
    (m.live past).service.Blames signer options.hmacKey
      ((Turn.submitted past).length < 2 ^ 63) := by
  have fresh := fresh_of_start started
  have coherent := (coherent_of_start started).live past
  obtain ⟨signer_eq, key_eq⟩ := (path_live m past).correlator_of_start started
  have silent := Event.outcomes_send (m.live past).service.outbox (m.live past).service.inbox
    (m.live past).service.channel
  -- whatever is received in the run is received in what it reads, once it has written
  have reads_of_received {outcome : ReadOutcome}
      (received : .received outcome ∈ (m.live past).service.run.events) :
      (m.live past).service.writes.activity ≠ .failed ∧
        .received outcome ∈ (m.live past).service.reads.events := by
    rw [← Event.mem_outcomes] at received
    by_cases fails : (m.live past).service.writes.activity = .failed
    · rw [run_of_writeFails alive fails, writes, silent] at received
      exact absurd received List.not_mem_nil
    · rw [run_of_writesWork coherent alive fails, Event.outcomes_append, writes, silent,
        List.nil_append] at received
      exact ⟨fails, Event.mem_outcomes.mp received⟩
  constructor
  · intro works
    exact (Outbox.pushes_send (coherent.outbox alive) works).1
  · exact breaksOut_of_writeFails fresh coherent alive
  · intro works fine
    rw [run_of_writesWork coherent alive works] at fine ⊢
    have lives : (m.live past).service.reads.activity ≠ .failed := by
      intro fails
      obtain ⟨error, received⟩ := Inbox.exists_failed_of_activity _ _ _ fails
      exact fine error (List.mem_append_right _ received)
    exact ⟨Inbox.pulls_receiveFrom _ _ _ lives, decide_eq_false lives⟩
  · intro error received
    obtain ⟨works, fails⟩ := reads_of_received received
    exact breaksIn_of_received fresh coherent alive works fails
  · intro frame status received faulty
    obtain ⟨works, received⟩ := reads_of_received received
    rw [← signer_eq, ← key_eq] at faulty
    exact givesUp_of_received fresh coherent alive works received faulty

section Woeful

open Simulation (Drive)

/-- Three requests. The channel takes the first and **fails to take** the second. -/
def refusedPast : List (Turn Drive Nat) :=
  [.submit (.withPin [1]) {} [] (some 10), .submit (.withPin [1]) {} [] (some 20),
    .submit (.withPin [1]) {} [] (some 30),
    .elapse { key := [1], writes := [.upTo 1000, .fail "gone"] }]

/-- Two requests, of which one waits for its answer when the channel **fails to be read** and takes
nothing of the other. -/
def brokenPast : List (Turn Drive Nat) :=
  [.submit (.withPin [1]) {} [] (some 10), .run, .submit (.withPin [1]) {} [] (some 20),
    .elapse { key := [1], writes := [.block], failReads := some "gone" }]

/-- Two requests, of which one waits for its answer when a **wrong digest** comes, and the channel
takes nothing of the other. -/
def spoiltPast : List (Turn Drive Nat) :=
  [.submit (.withPin [1]) {} [] (some 10), .run, .submit (.withPin [1]) {} [] (some 20),
    .elapse { key := [1], writes := [.block], queue := [.bytes (staleFrame.encode ++ [70, 0])] }]

/-- A refused write fails the second and the third request, a read that fails **the first one**, and
so does a frame with a wrong digest. -/
theorem failures_hit_their_requests_woeful :
    ∃ m : Multiplexer Drive Nat,
      Multiplexer.start 2 (.constant [7]) { hmacKey := [1] } quietDrive = some (.ok m) ∧
      (∀ past ∈ [refusedPast, brokenPast, spoiltPast], (m.live past).service.failed = false ∧
        (Turn.submitted past).length < 2 ^ 63) ∧
      (∃ error out failing, failing.map Ticket.key = [1, 2] ∧
        (m.live refusedPast).service.BreaksOut ((Turn.submitted refusedPast).length < 2 ^ 63) error
          out failing) ∧
      (m.live brokenPast).service.inbox.correlator.outstanding.entries.map (·.key) = [0] ∧
      (m.live brokenPast).service.BreaksIn ((Turn.submitted brokenPast).length < 2 ^ 63)
        (.channel (.told "gone")) ∧
      (m.live spoiltPast).service.inbox.correlator.outstanding.entries.map (·.key) = [0] ∧
      (m.live spoiltPast).service.GivesUp ((Turn.submitted spoiltPast).length < 2 ^ 63) staleFrame
        (.client .badDigest "response HMAC did not verify") := by
  have check : ((Multiplexer.start 2 (.constant [7]) { hmacKey := [1] } quietDrive :
      Option (Except Failure (Multiplexer Drive Nat))).any fun started =>
      started.toOption.any fun m =>
        decide ((∀ past ∈ [refusedPast, brokenPast, spoiltPast],
            (m.live past).service.failed = false ∧ (Turn.submitted past).length < 2 ^ 63) ∧
          (m.live refusedPast).service.writes.activity = .failed ∧
          (m.live refusedPast).service.transit.unsent.map Ticket.key = [0, 1, 2] ∧
          Event.outgoing (m.live refusedPast).service.run.events = [0] ∧
          (m.live brokenPast).service.inbox.correlator.outstanding.entries.map (·.key) = [0] ∧
          .failed (.channel (.told "gone")) ∈
            Event.outcomes (m.live brokenPast).service.run.events ∧
          (m.live spoiltPast).service.inbox.correlator.outstanding.entries.map (·.key) = [0] ∧
          .frame staleFrame ∈ Event.outcomes (m.live spoiltPast).service.run.events)) = true := by
    decide +kernel
  obtain ⟨m, started, check⟩ := exists_started check
  obtain ⟨lives, refused, unsent, out_once, waits, broken, waits', spoilt⟩ :=
    of_decide_eq_true check
  have blames (past : List (Turn Drive Nat))
      (mem : past ∈ [refusedPast, brokenPast, spoiltPast]) :=
    failures_hit_their_requests started past (lives past mem).1
  refine ⟨m, started, lives, ?_, waits, ?_, waits', ?_⟩
  · obtain ⟨error, out, failing, breaks⟩ := (blames refusedPast (by simp)).writeFails refused
    obtain ⟨before, ticket, bytes, -, events_eq, out_eq, -⟩ := breaks.events
    -- one request is out, so that the others are those behind it
    rw [events_eq, Event.outgoing_append, Event.outgoing_cons_completed rfl, List.append_nil,
      out_eq] at out_once
    rw [breaks.unsent, List.map_append] at unsent
    obtain ⟨first, rfl, -⟩ := List.map_eq_singleton_iff.mp out_once
    exact ⟨error, _, failing, (List.cons_eq_cons.mp unsent).2, breaks⟩
  · exact (blames brokenPast (by simp)).readFails _ (Event.mem_outcomes.mp broken)
  · exact (blames spoiltPast (by simp)).noResponse _ _ (Event.mem_outcomes.mp spoilt)
      faulty_staleFrame

end Woeful

end DriveLink
