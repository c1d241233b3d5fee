import DriveLink.Pipeline.Multiplexer
import Mathlib.Algebra.Order.Ring.Int

/-! # What a connection can do

Whatever is done with a connection comes down to a few small steps. Each of them says under which
condition it is taken, what happens in it, and what it leaves as it was. An invariant of the
connection is shown once for each of them, and then holds after every run.

* `Move` — one step, with the events that happen in it;
* `Path`, `Path.invariant` — steps one after the other, and what they keep;
* `Path.exists_move` — the step in which something happens;
* `Outbox.Releases`, `Outbox.releases_release` — what becomes of a request whose frame is out;
* `path_send`, `path_receive`, `path_run` — the operations as paths;
* `Outbox.failed_send_iff`, `Inbox.failed_receive_iff` — a half is dead just if it says so;
* `inSend_send`, `inRun_run` — what may happen while requests are sent, and in a run. -/

namespace DriveLink

variable {σ η : Type} [Channel σ]

/-! ## Steps -/

/-- **One step** in the life of a connection, with what happens in it. -/
inductive Move : Multiplexer σ η → List (Event η) → Multiplexer σ η → Prop
  /-- The channel changes by itself. -/
  | elapse {m : Multiplexer σ η} (channel : σ) : Move m [] { m with channel }
  /-- A dead connection fails a request at once. -/
  | reject {m : Multiplexer σ η} (dead : m.failed = true) (handler : Option η) :
      Move m
        (.submitted m.nextKey handler :: (Completion.failIfAny m.nextKey handler
          (.client .shutdown "connection has failed")).map .completed)
        { m with nextKey := m.nextKey + 1 }
  /-- A request that cannot be made fails at once, and its number is used up. -/
  | misfit {m : Multiplexer σ η} {envelope : Envelope} {command : Command} {value : Bytes}
      {handler : Option η} {status : Status} (alive : m.failed = false)
      (prepared : m.outbox.prepare envelope command value handler m.nextKey m.connectionId =
        .error status) :
      Move m
        (.submitted m.nextKey handler ::
          (Completion.failIfAny m.nextKey handler status).map .completed)
        { m with
          nextKey := m.nextKey + 1
          outbox := { m.outbox with nextSequence := m.outbox.nextSequence + 1 } }
  /-- A request waits for its turn. -/
  | queue {m : Multiplexer σ η} {envelope : Envelope} {command : Command} {value : Bytes}
      {handler : Option η} {request : QueuedRequest η} (alive : m.failed = false)
      (prepared : m.outbox.prepare envelope command value handler m.nextKey m.connectionId =
        .ok request) :
      Move m [.submitted m.nextKey handler, .queued request]
        { m with
          nextKey := m.nextKey + 1
          outbox := { m.outbox with
            queue := m.outbox.queue ++ [request]
            nextSequence := m.outbox.nextSequence + 1 } }
  /-- A request is taken back that waits for its turn. -/
  | withdraw {m : Multiplexer σ η} {key : RequestKey} {request : QueuedRequest η}
      (found : m.outbox.queue.find? (·.key = key) = some request) :
      Move m [.cancelled key request.handler]
        { m with outbox := { m.outbox with queue := m.outbox.queue.eraseP (·.key = key) } }
  /-- A request is taken back that waits for its answer. -/
  | disown {m : Multiplexer σ η} {key : RequestKey} {request : OutstandingRequest η}
      (absent : m.outbox.queue.find? (·.key = key) = none)
      (found : m.inbox.correlator.outstanding.entries.find? (·.key = key) = some request) :
      Move m [.cancelled key (some request.handler)]
        { m with inbox := { m.inbox with correlator := { m.inbox.correlator with
          outstanding := ⟨m.inbox.correlator.outstanding.entries.eraseP (·.key = key)⟩ } } }
  /-- The turn of the next request comes. -/
  | begin {m : Multiplexer σ η} {next : QueuedRequest η} {queue : List (QueuedRequest η)}
      (working : m.outbox.failed = false) (free : m.outbox.current = none)
      (turn : m.outbox.queue = next :: queue) :
      Move m [] { m with outbox := { m.outbox with current := some next.begin, queue } }
  /-- Writing stops before the request is out. -/
  | stall {m : Multiplexer σ η} {request : InFlight η} {writer : FrameWriter} {channel : σ}
      (working : m.outbox.failed = false) (current : m.outbox.current = some request)
      (write : request.writer.write m.channel = (.pending, writer, channel)) :
      Move m [.took request.sequence (request.writer.taken writer)]
        { m with
          outbox := { m.outbox with current := some { request with writer } }
          channel }
  /-- The request is out. -/
  | release {m : Multiplexer σ η} {request : InFlight η} {writer : FrameWriter} {channel : σ}
      (working : m.outbox.failed = false) (current : m.outbox.current = some request)
      (write : request.writer.write m.channel = (.done, writer, channel)) :
      Move m
        (.took request.sequence (request.writer.taken writer) :: .sent request.sequence ::
          (Outbox.release request m.inbox).1)
        { m with
          outbox := { m.outbox with current := none }
          inbox := (Outbox.release request m.inbox).2
          channel }
  /-- Writing fails, and with it every request that is not out. -/
  | breakOut {m : Multiplexer σ η} {request : InFlight η} {writer : FrameWriter} {channel : σ}
      {error : FrameError} (working : m.outbox.failed = false)
      (current : m.outbox.current = some request)
      (write : request.writer.write m.channel = (.failed error, writer, channel)) :
      Move m
        (.took request.sequence (request.writer.taken writer) ::
          (Outbox.failures (some request) m.outbox.queue
            (.client .ioError ("I/O write error: " ++ error.message))).map .completed)
        { m with
          outbox := { m.outbox with current := none, queue := [], failed := true }
          channel }
  /-- Reading stops before the frame is whole. -/
  | await {m : Multiplexer σ η} {reader : FrameReader} {channel : σ}
      (working : m.inbox.failed = false)
      (read : m.inbox.reader.read m.channel = (.pending, reader, channel)) :
      Move m [] { m with inbox := { m.inbox with reader }, channel }
  /-- A frame ends. -/
  | accept {m : Multiplexer σ η} {outcome : ReadOutcome} {reader : FrameReader} {channel : σ}
      (working : m.inbox.failed = false)
      (read : m.inbox.reader.read m.channel = (outcome, reader, channel))
      (ends : outcome.endsFrame = true) :
      Move m
        (.received outcome ::
          (m.inbox.correlator.accept outcome).completions.map .completed)
        { m with
          inbox := { m.inbox with
            correlator := (m.inbox.correlator.accept outcome).correlator
            reader }
          channel }
  /-- Reading fails, and with it every request that waits for its answer. -/
  | breakIn {m : Multiplexer σ η} {error : FrameError} {reader : FrameReader} {channel : σ}
      {failed : List (Completion η)} {correlator : Correlator η}
      (working : m.inbox.failed = false)
      (read : m.inbox.reader.read m.channel = (.failed error, reader, channel))
      (all : m.inbox.correlator.failAll (.client .ioError ("I/O read error: " ++ error.message)) =
        (failed, correlator)) :
      Move m (.received (.failed error) :: failed.map .completed)
        { m with inbox := { m.inbox with correlator, reader, failed := true }, channel }
  /-- The connection dies of one of its halves. -/
  | fuse {m : Multiplexer σ η} (broken : m.outbox.failed = true ∨ m.inbox.failed = true) :
      Move m [] { m with failed := true }

/-- **Steps one after the other**, with what happens in them. -/
inductive Path : Multiplexer σ η → List (Event η) → Multiplexer σ η → Prop
  | done (m : Multiplexer σ η) : Path m [] m
  | step {m m₁ m₂ : Multiplexer σ η} {events later : List (Event η)} (move : Move m events m₁)
      (path : Path m₁ later m₂) : Path m (events ++ later) m₂

/-- A step is a path. -/
theorem Move.path {m m' : Multiplexer σ η} {events : List (Event η)} (h : Move m events m') :
    Path m events m' := by
  have path := Path.step h (.done m')
  rwa [List.append_nil] at path

/-- Paths may be put **one behind the other**. -/
theorem Path.trans {m m₁ m₂ : Multiplexer σ η} {events later : List (Event η)}
    (h : Path m events m₁) (h₁ : Path m₁ later m₂) : Path m (events ++ later) m₂ := by
  induction h with
  | done => exact h₁
  | step move _ ih =>
    rw [List.append_assoc]
    exact .step move (ih h₁)

/-- A last step in which nothing happens adds nothing to what has. -/
theorem Path.silent {m m₁ m₂ : Multiplexer σ η} {events : List (Event η)}
    (h : Path m events m₁) (move : Move m₁ [] m₂) : Path m events m₂ := by
  have path := h.trans move.path
  rwa [List.append_nil] at path

/-- What every step keeps, a path keeps, **whatever has happened before**. -/
theorem Path.invariant_after {m m' : Multiplexer σ η} {events : List (Event η)}
    (h : Path m events m') (holds : List (Event η) → Multiplexer σ η → Prop)
    (step : ∀ {past m events m'}, holds past m → Move m events m' → holds (past ++ events) m')
    {past : List (Event η)} (start : holds past m) : holds (past ++ events) m' := by
  induction h generalizing past with
  | done => rwa [List.append_nil]
  | step move _ ih =>
    rw [← List.append_assoc]
    exact ih (step start move)

/-- **What every step keeps, a path keeps.** The invariant is about the state and all that has
happened so far, and the path so far may be used to show it. -/
theorem Path.invariant {m m' : Multiplexer σ η} {events : List (Event η)} (h : Path m events m')
    (holds : List (Event η) → Multiplexer σ η → Prop) (start : holds [] m)
    (step : ∀ {past m₁ events m₂}, Path m past m₁ → holds past m₁ → Move m₁ events m₂ →
      holds (past ++ events) m₂) : holds events m' := by
  -- the path so far is carried along
  have start : Path m [] m ∧ holds [] m := ⟨.done m, start⟩
  have both := h.invariant_after (fun past m₁ => Path m past m₁ ∧ holds past m₁)
    (fun so_far move => ⟨so_far.1.trans move.path, step so_far.1 so_far.2 move⟩) start
  exact both.2

/-- **Everything happens in some step**, with what happens in it before and after. -/
theorem Path.exists_move {m m' : Multiplexer σ η} {events before after : List (Event η)}
    {event : Event η} (h : Path m events m') (events_eq : events = before ++ event :: after) :
    ∃ past m₁ sooner later m₂ rest, Path m past m₁ ∧ Move m₁ (sooner ++ event :: later) m₂ ∧
      Path m₂ rest m' ∧ before = past ++ sooner ∧ after = later ++ rest := by
  induction h generalizing before with
  | done m => exact absurd events_eq (by simp)
  | @step m m₁ m₂ events rest move path ih =>
    rcases List.append_eq_append_iff.mp events_eq with ⟨between, rfl, rest_eq⟩ | ⟨inner, rfl, same⟩
    · obtain ⟨past, m₃, sooner, later, m₄, rest, so_far, there, onward, rfl, rfl⟩ := ih rest_eq
      refine ⟨events ++ past, m₃, sooner, later, m₄, rest, .step move so_far, there, onward, ?_,
        rfl⟩
      rw [List.append_assoc]
    · cases inner with
      | nil =>
        -- the event is the first one behind this step
        have rest_eq : _ = [] ++ event :: after := same.symm
        obtain ⟨past, m₃, sooner, later, m₄, rest, so_far, there, onward, none, rfl⟩ := ih rest_eq
        obtain ⟨rfl, rfl⟩ := List.append_eq_nil_iff.mp none.symm
        refine ⟨before, m₃, [], later, m₄, rest, ?_, there, onward, (List.append_nil _).symm, rfl⟩
        have path := Path.step move so_far
        rwa [List.append_nil, List.append_nil] at path
      | cons first inner =>
        rw [List.cons_append, List.cons.injEq] at same
        obtain ⟨rfl, rfl⟩ := same
        exact ⟨[], m, before, inner, m₁, rest, .done m, move, path, rfl, rfl⟩

/-! ## What its parts do -/

namespace Outbox

/-- **A request that is made** has the next number, and what its caller gave. -/
theorem exists_frame_of_prepare {outbox : Outbox η} {envelope : Envelope} {command : Command}
    {value : Bytes} {handler : Option η} {key : RequestKey} {connectionId : Option Int64}
    {request : QueuedRequest η}
    (h : outbox.prepare envelope command value handler key connectionId = .ok request) :
    outbox.failed = false ∧ ∃ frame,
      outbox.frameOf envelope (addressed command outbox.nextSequence connectionId) value =
        .ok frame ∧ request = ⟨frame, outbox.nextSequence, key, handler⟩ := by
  unfold prepare at h
  simp only at h
  split at h
  · cases h
  · rename_i working
    split at h
    · rename_i frame framed
      cases h
      exact ⟨Bool.eq_false_iff.mpr working, frame, framed, rfl⟩
    · cases h

/-- **What becomes of a request whose frame is out.** -/
inductive Releases (request : InFlight η) (inbox : Inbox η) : List (Event η) × Inbox η → Prop
  /-- Nobody wants to know its outcome. -/
  | unasked (none : request.handler = none) : Releases request inbox ([], inbox)
  /-- It waits for its answer. -/
  | tracked {handler : η} (some : request.handler = some handler)
      (fresh : ∀ entry ∈ inbox.correlator.outstanding.entries,
        entry.sequence ≠ request.sequence ∧ entry.key ≠ request.key) :
      Releases request inbox
        ([.tracked ⟨request.sequence, request.key, handler⟩],
          { inbox with correlator := { inbox.correlator with
            outstanding := ⟨inbox.correlator.outstanding.entries ++
              [⟨request.sequence, request.key, handler⟩]⟩ } })
  /-- One of its names is taken. -/
  | refused {handler : η} (some : request.handler = some handler)
      (taken : ∃ entry ∈ inbox.correlator.outstanding.entries,
        entry.sequence = request.sequence ∨ entry.key = request.key) :
      Releases request inbox
        ([.completed (.fail request.key handler
          (.client .internalError "could not track response for request"))], inbox)

theorem releases_release (request : InFlight η) (inbox : Inbox η) :
    Releases request inbox (release request inbox) := by
  obtain ⟨writer, sequence, key, handler⟩ := request
  cases handler with
  | none => exact .unasked rfl
  | some handler =>
    unfold release Inbox.track Outstanding.insert
    by_cases taken : ∃ entry ∈ inbox.correlator.outstanding.entries,
        entry.sequence = sequence ∨ entry.key = key
    · have names : (inbox.correlator.outstanding.hasSequence sequence ||
          inbox.correlator.outstanding.hasKey key) = true := by
        obtain ⟨entry, mem, same | same⟩ := taken
        · rw [Outstanding.hasSequence, List.any_eq_true.mpr ⟨entry, mem, decide_eq_true same⟩]
          rfl
        · rw [Outstanding.hasKey, List.any_eq_true.mpr ⟨entry, mem, decide_eq_true same⟩]
          exact Bool.or_true _
      simp only [names, if_true]
      exact .refused rfl taken
    · have fresh : ∀ entry ∈ inbox.correlator.outstanding.entries,
          entry.sequence ≠ sequence ∧ entry.key ≠ key := fun entry mem =>
        ⟨fun same => taken ⟨entry, mem, .inl same⟩, fun same => taken ⟨entry, mem, .inr same⟩⟩
      have names : (inbox.correlator.outstanding.hasSequence sequence ||
          inbox.correlator.outstanding.hasKey key) = false := by
        rw [Outstanding.hasSequence, Outstanding.hasKey, Bool.or_eq_false_iff,
          List.any_eq_false, List.any_eq_false]
        exact ⟨fun entry mem same => (fresh entry mem).1 (of_decide_eq_true same),
          fun entry mem same => (fresh entry mem).2 (of_decide_eq_true same)⟩
      simp only [names, Bool.false_eq_true, if_false]
      exact .tracked rfl fresh

end Outbox

/-! ## Operations as paths -/

/-- The connection while it **writes** a request, with those behind it. -/
def Multiplexer.writing (m : Multiplexer σ η) (request : InFlight η)
    (queue : List (QueuedRequest η)) (inbox : Inbox η) (channel : σ) : Multiplexer σ η :=
  { m with
    outbox := { m.outbox with current := some request, queue, failed := false }
    inbox
    channel }

/-- The connection after some writing. -/
def Multiplexer.withStopped (m : Multiplexer σ η) (stopped : Outbox.Stopped η σ) :
    Multiplexer σ η :=
  { m with
    outbox := { m.outbox with
      current := stopped.current
      queue := stopped.queue
      failed := stopped.activity = .failed }
    inbox := stopped.inbox
    channel := stopped.channel }

/-- The connection after a call to send. -/
def Multiplexer.withSent (m : Multiplexer σ η) (sent : Sent η σ) : Multiplexer σ η :=
  { m with outbox := sent.outbox, inbox := sent.inbox, channel := sent.channel }

/-- The connection after a call to receive. -/
def Multiplexer.withReceived (m : Multiplexer σ η) (received : Received η σ) : Multiplexer σ η :=
  { m with inbox := received.inbox, channel := received.channel }

/-- **Writing is a path**, from any request on. -/
theorem path_sendFrom (m : Multiplexer σ η) (request : InFlight η)
    (queue : List (QueuedRequest η)) (inbox : Inbox η) (s : σ) :
    Path (m.writing request queue inbox s) (Outbox.sendFrom request queue inbox s).events
      (m.withStopped (Outbox.sendFrom request queue inbox s)) := by
  -- a frame that is out makes room for the next
  fun_induction Outbox.sendFrom request queue inbox s with
  | case1 queue request inbox s writer s' took write => exact (Move.stall rfl rfl write).path
  | case2 queue request inbox s writer s' took error status failed write =>
    exact (Move.breakOut rfl rfl write).path
  | case3 request inbox s writer s' took released inbox' release events write =>
    have out := Move.release (m := m.writing request [] inbox s) rfl rfl write
    have inbox_eq : (m.writing request [] inbox s).inbox = inbox := rfl
    rw [inbox_eq, release] at out
    exact out.path
  | case4 request inbox s writer s' took released inbox' release events next queue later write ih =>
    have out := Move.release (m := m.writing request (next :: queue) inbox s) rfl rfl write
    have inbox_eq : (m.writing request (next :: queue) inbox s).inbox = inbox := rfl
    rw [inbox_eq, release] at out
    exact .step out (.step (.begin rfl rfl rfl) ih)

/-- **Sending is a path.** -/
theorem path_send (m : Multiplexer σ η) :
    Path m (m.outbox.send m.inbox m.channel).events
      (m.withSent (m.outbox.send m.inbox m.channel)) := by
  have writes := path_sendFrom m
  obtain ⟨⟨signer, identity, hmacKey, queue, current, nextSequence, failed⟩, inbox, channel,
    greeting, nextKey, dead⟩ := m
  cases failed with
  | true => exact .done _
  | false =>
    cases current with
    | some request => exact writes request queue inbox channel
    | none =>
      cases queue with
      | nil => exact .done _
      | cons next queue => exact .step (.begin rfl rfl rfl) (writes next.begin queue inbox channel)

/-- A call to send leaves a **dead outbox** behind just if it says so. -/
theorem Outbox.failed_send_iff (outbox : Outbox η) (inbox : Inbox η) (s : σ) :
    (outbox.send inbox s).outbox.failed = true ↔ (outbox.send inbox s).activity = .failed := by
  unfold send
  split
  · rename_i dead
    simp [dead]
  · simp only [decide_eq_true_eq]

/-- **Reading is a path**, from any frame on. -/
theorem path_receiveFrom (m : Multiplexer σ η) (c : Correlator η) (reader : FrameReader) (s : σ) :
    Path { m with inbox := { correlator := c, reader }, channel := s }
      (Inbox.receiveFrom c reader s).events (m.withReceived (Inbox.receiveFrom c reader s)) := by
  -- reading goes on from frame to frame, and each of them is a step
  fun_induction Inbox.receiveFrom c reader s with
  | case1 c reader s nothing => exact .done _
  | case2 c reader s some read ends accepted events stop =>
    have step : reader.read s = (read.1, read.2.1, read.2.2) := rfl
    exact (Move.accept rfl step ends).path
  | case3 c reader s some read ends accepted events more later ih =>
    have step : reader.read s = (read.1, read.2.1, read.2.2) := rfl
    exact .step (.accept rfl step ends) ih
  | case4 c reader s some read open' error failure failed c' all =>
    have step : reader.read s = (.failed error, read.2.1, read.2.2) := by
      rw [← failure]
    rw [failure]
    exact (Move.breakIn rfl step all).path
  | case5 c reader s some read open' fine =>
    have pending : read.1 = .pending := by
      rcases outcome : read.1 with _ | _ | _ | error
      · rfl
      · exact absurd (by rw [outcome]; rfl) open'
      · exact absurd (by rw [outcome]; rfl) open'
      · exact (fine error outcome).elim
    have step : reader.read s = (.pending, read.2.1, read.2.2) := by
      rw [← pending]
    exact (Move.await rfl step).path

/-- **Receiving is a path.** -/
theorem path_receive (m : Multiplexer σ η) :
    Path m (m.inbox.receive m.channel).events (m.withReceived (m.inbox.receive m.channel)) := by
  have reads := path_receiveFrom m
  obtain ⟨outbox, ⟨correlator, reader, failed⟩, channel, greeting, nextKey, dead⟩ := m
  cases failed with
  | true => exact .done _
  | false => exact reads correlator reader channel

theorem Inbox.failed_receiveFrom_iff (c : Correlator η) (reader : FrameReader) (s : σ) :
    (receiveFrom c reader s).inbox.failed = true ↔
      (receiveFrom c reader s).activity = .failed := by
  fun_induction receiveFrom c reader s with
  | case3 _ _ _ _ _ _ _ _ _ _ ih => exact ih
  | _ => simp

/-- A call to receive leaves a **dead inbox** behind just if it says so. -/
theorem Inbox.failed_receive_iff (inbox : Inbox η) (s : σ) :
    (inbox.receive s).inbox.failed = true ↔ (inbox.receive s).activity = .failed := by
  unfold receive
  split
  · rename_i dead
    simp [dead]
  · exact failed_receiveFrom_iff _ _ _

/-- **A run is a path.** -/
theorem path_run (m : Multiplexer σ η) : Path m m.run.events m.run.service := by
  unfold Multiplexer.run
  split
  · exact .done m
  · have sends := path_send m
    simp only
    split
    · rename_i broken
      exact sends.silent (.fuse (.inl ((Outbox.failed_send_iff _ _ _).mpr broken)))
    · have path := sends.trans (path_receive (m.withSent (m.outbox.send m.inbox m.channel)))
      split
      · rename_i broken
        exact path.silent (.fuse (.inr ((Inbox.failed_receive_iff _ _).mpr broken)))
      · exact path

/-! ## What happens in a run -/

/-- **What may happen while requests are sent**: they are written and completed. -/
inductive Event.InSend : Event η → Prop
  | took (sequence : Int64) (bytes : Bytes) : InSend (.took sequence bytes)
  | sent (sequence : Int64) : InSend (.sent sequence)
  | tracked (request : OutstandingRequest η) : InSend (.tracked request)
  | completed (completion : Completion η) : InSend (.completed completion)

/-- **What may happen in a run**: requests are written and completed, and frames come in. -/
inductive Event.InRun : Event η → Prop
  | took (sequence : Int64) (bytes : Bytes) : InRun (.took sequence bytes)
  | sent (sequence : Int64) : InRun (.sent sequence)
  | tracked (request : OutstandingRequest η) : InRun (.tracked request)
  | received (outcome : ReadOutcome) : InRun (.received outcome)
  | completed (completion : Completion η) : InRun (.completed completion)

omit [Channel σ] in
/-- What happens while requests are sent may happen in a run. -/
theorem Event.InSend.inRun {event : Event η} (h : event.InSend) : event.InRun := by
  cases h <;> constructor

omit [Channel σ] in
/-- What holds of an event and of all completions holds of **that event with completions behind
it**. -/
theorem forall_mem_cons_completed {holds : Event η → Prop} {event : Event η} (first : holds event)
    (done : ∀ completion, holds (.completed completion)) (completions : List (Completion η)) :
    ∀ other ∈ event :: completions.map .completed, holds other := by
  intro other mem
  rcases List.mem_cons.mp mem with rfl | mem
  · exact first
  · obtain ⟨completion, -, rfl⟩ := List.mem_map.mp mem
    exact done completion

omit [Channel σ] in
theorem inSend_release (request : InFlight η) (inbox : Inbox η) (bytes : Bytes) :
    ∀ event ∈ Event.took request.sequence bytes :: .sent request.sequence ::
      (Outbox.release request inbox).1, event.InSend := by
  have releases := Outbox.releases_release request inbox
  generalize Outbox.release request inbox = released at releases ⊢
  intro event mem
  simp only [List.mem_cons] at mem
  rcases mem with rfl | rfl | mem
  · exact .took _ _
  · exact .sent _
  · cases releases with
    | unasked none => exact absurd mem List.not_mem_nil
    | tracked some fresh =>
      rw [List.mem_singleton.mp mem]
      exact .tracked _
    | refused some taken =>
      rw [List.mem_singleton.mp mem]
      exact .completed _

theorem inSend_sendFrom (request : InFlight η) (queue : List (QueuedRequest η)) (inbox : Inbox η)
    (s : σ) : ∀ event ∈ (Outbox.sendFrom request queue inbox s).events, event.InSend := by
  fun_induction Outbox.sendFrom request queue inbox s with
  | case1 queue request inbox s writer s' took write =>
    exact forall_mem_cons_completed (.took _ _) .completed []
  | case2 queue request inbox s writer s' took error status failed write =>
    exact forall_mem_cons_completed (.took _ _) .completed _
  | case3 request inbox s writer s' took released inbox' release events write =>
    have out := inSend_release request inbox (request.writer.taken writer)
    rwa [release] at out
  | case4 request inbox s writer s' took released inbox' release events next queue later write ih =>
    have out := inSend_release request inbox (request.writer.taken writer)
    rw [release] at out
    intro event mem
    rcases List.mem_append.mp mem with now | later
    · exact out event now
    · exact ih event later

/-- **Sending only writes and completes.** -/
theorem inSend_send (outbox : Outbox η) (inbox : Inbox η) (s : σ) :
    ∀ event ∈ (outbox.send inbox s).events, event.InSend := by
  have nothing : ∀ event ∈ ([] : List (Event η)), event.InSend :=
    fun _ mem => absurd mem List.not_mem_nil
  unfold Outbox.send
  split
  · exact nothing
  · simp only
    split
    · exact inSend_sendFrom _ _ _ _
    · exact inSend_sendFrom _ _ _ _
    · exact nothing

theorem inRun_receive (inbox : Inbox η) (s : σ) :
    ∀ event ∈ (inbox.receive s).events, event.InRun := by
  have nothing : ∀ event ∈ ([] : List (Event η)), event.InRun :=
    fun _ mem => absurd mem List.not_mem_nil
  unfold Inbox.receive
  split
  · exact nothing
  · fun_induction Inbox.receiveFrom inbox.correlator inbox.reader s with
    | case1 => exact nothing
    | case2 => exact forall_mem_cons_completed (.received _) .completed _
    | case3 c reader s some read ends accepted events more later ih =>
      intro event mem
      rcases List.mem_append.mp mem with now | later
      · exact forall_mem_cons_completed (.received _) .completed _ event now
      · exact ih event later
    | case4 => exact forall_mem_cons_completed (.received _) .completed _
    | case5 => exact nothing

/-- **A run only writes, reads and completes.** -/
theorem inRun_run (m : Multiplexer σ η) : ∀ event ∈ m.run.events, event.InRun := by
  intro event mem
  unfold Multiplexer.run at mem
  split at mem
  · exact absurd mem List.not_mem_nil
  · simp only at mem
    have either : ∀ event ∈ (m.outbox.send m.inbox m.channel).events ++
        ((m.outbox.send m.inbox m.channel).inbox.receive
          (m.outbox.send m.inbox m.channel).channel).events, event.InRun := by
      intro event mem
      rcases List.mem_append.mp mem with mem | mem
      · exact (inSend_send _ _ _ event mem).inRun
      · exact inRun_receive _ _ event mem
    split at mem
    · exact (inSend_send _ _ _ event mem).inRun
    · split at mem
      · exact either event mem
      · exact either event mem

end DriveLink
