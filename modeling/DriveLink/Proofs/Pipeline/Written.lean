import DriveLink.Proofs.Frame.Writing
import DriveLink.Proofs.Pipeline.Order

/-! # What the channel has taken

Requests are written one after the other. So whatever the channel has taken are the whole frames of
the requests that are out, and behind them the first bytes of the one that is being written, or was
when writing failed. A request is out only once its frame has been taken entirely.

* `Event.wire`, `Event.taken` — what the channel has taken, and what of it belongs to one request;
* `Outbox.Begun`, `Written`, `Path.written` — what that is, at every moment;
* `Fate` — what has become of a request that was queued;
* `Path.taken_of_sent` — of a request that is out, the channel has taken the frame;
* `Path.flushing_of_taken` — a request that is taken but not out waits for a flush alone. -/

namespace DriveLink

variable {σ η : Type}

/-! ## Bytes of requests -/

/-- Bytes of a request, each **under its number**. -/
def labelled (sequence : Int64) (bytes : Bytes) : List (Int64 × UInt8) := bytes.map (sequence, ·)

/-- The bytes **under one number**. -/
def labelledBy (sequence : Int64) (bytes : List (Int64 × UInt8)) : Bytes :=
  bytes.filterMap fun byte => if byte.1 = sequence then some byte.2 else none

/-- The bytes of a request, under its number. -/
def QueuedRequest.wire (request : QueuedRequest η) : List (Int64 × UInt8) :=
  labelled request.sequence request.frame

theorem labelled_append (sequence : Int64) (bytes more : Bytes) :
    labelled sequence (bytes ++ more) = labelled sequence bytes ++ labelled sequence more :=
  List.map_append

theorem labelledBy_append (sequence : Int64) (bytes more : List (Int64 × UInt8)) :
    labelledBy sequence (bytes ++ more) = labelledBy sequence bytes ++ labelledBy sequence more :=
  List.filterMap_append

theorem labelledBy_labelled (sequence : Int64) (bytes : Bytes) :
    labelledBy sequence (labelled sequence bytes) = bytes := by
  rw [labelledBy, labelled, List.filterMap_map]
  refine Eq.trans (List.filterMap_congr fun byte _ => ?_) List.filterMap_some
  exact if_pos rfl

theorem labelledBy_of_ne {sequence other : Int64} (ne : other ≠ sequence) (bytes : Bytes) :
    labelledBy sequence (labelled other bytes) = [] := by
  rw [labelledBy, labelled, List.filterMap_map]
  exact List.filterMap_eq_nil_iff.mpr fun byte _ => if_neg ne

/-- Requests with other numbers have no byte under this one. -/
theorem labelledBy_flatMap_of_ne {sequence : Int64} {requests : List (QueuedRequest η)}
    (others : ∀ request ∈ requests, request.sequence ≠ sequence) :
    labelledBy sequence (requests.flatMap QueuedRequest.wire) = [] := by
  induction requests with
  | nil => rfl
  | cons request requests ih =>
    rw [List.flatMap_cons, labelledBy_append, QueuedRequest.wire,
      labelledBy_of_ne (others request (List.mem_cons_self ..)),
      ih fun other mem => others other (List.mem_cons_of_mem _ mem)]
    rfl

/-- Of requests with different numbers, each has **its frame** under its own. -/
theorem labelledBy_flatMap {requests : List (QueuedRequest η)}
    (nodup : (requests.map QueuedRequest.sequence).Nodup) {request : QueuedRequest η}
    (mem : request ∈ requests) :
    labelledBy request.sequence (requests.flatMap QueuedRequest.wire) = request.frame := by
  obtain ⟨before, after, rfl⟩ := List.append_of_mem mem
  rw [List.map_append, List.map_cons, List.nodup_middle, List.nodup_cons, ← List.map_append]
    at nodup
  have others : ∀ other ∈ before ++ after, other.sequence ≠ request.sequence := by
    intro other inside same
    exact nodup.1 (same ▸ List.mem_map_of_mem inside)
  rw [List.flatMap_append, List.flatMap_cons, labelledBy_append, labelledBy_append,
    labelledBy_flatMap_of_ne fun other inside => others other (List.mem_append_left _ inside),
    labelledBy_flatMap_of_ne fun other inside => others other (List.mem_append_right _ inside),
    QueuedRequest.wire, labelledBy_labelled, List.nil_append, List.append_nil]

namespace Event

/-- The request that is queued, if one is. -/
def request? : Event η → Option (QueuedRequest η)
  | queued request => some request
  | _ => none

/-- The bytes that the channel takes, each under the number of its request. -/
def bytes : Event η → List (Int64 × UInt8)
  | took sequence bytes => labelled sequence bytes
  | _ => []

/-- The requests **queued** in some events, with their frames. -/
def requests (events : List (Event η)) : List (QueuedRequest η) := events.filterMap request?

/-- What the channel **takes** in some events, each byte under the number of its request. -/
def wire (events : List (Event η)) : List (Int64 × UInt8) := events.flatMap bytes

/-- What the channel takes **of one request**. -/
def taken (sequence : Int64) (events : List (Event η)) : Bytes := labelledBy sequence (wire events)

theorem requests_append (events later : List (Event η)) :
    requests (events ++ later) = requests events ++ requests later :=
  List.filterMap_append

theorem wire_append (events later : List (Event η)) :
    wire (events ++ later) = wire events ++ wire later :=
  List.flatMap_append

theorem mem_requests {events : List (Event η)} {request : QueuedRequest η} :
    request ∈ requests events ↔ .queued request ∈ events :=
  mem_filterMap_iff fun other => by cases other <;> simp [request?]

/-- The tickets of some events are those of the requests queued in them. -/
theorem tickets_eq (events : List (Event η)) :
    tickets events = (requests events).map QueuedRequest.ticket := by
  rw [tickets, requests, List.map_filterMap]
  refine List.filterMap_congr fun event _ => ?_
  cases event <;> rfl

theorem requests_cons_completed {event : Event η} (none : event.request? = none)
    (done : List (Completion η)) : requests (event :: done.map completed) = [] :=
  filterMap_cons_completed none (fun _ => rfl) done

/-- Behind an event, completions take nothing. -/
theorem wire_cons_completed (event : Event η) (done : List (Completion η)) :
    wire (event :: done.map completed) = event.bytes := by
  rw [wire, List.flatMap_cons, List.flatMap_map]
  refine (congrArg _ (List.flatMap_eq_nil_iff.mpr fun completion _ => ?_)).trans (List.append_nil _)
  rfl

/-- What becomes of a request that is out **takes nothing more** of it. -/
theorem wire_release (request : InFlight η) (inbox : Inbox η) (bytes : Bytes) :
    wire (.took request.sequence bytes :: .sent request.sequence ::
      (Outbox.release request inbox).1) = labelled request.sequence bytes := by
  have releases := Outbox.releases_release request inbox
  generalize Outbox.release request inbox = released at releases ⊢
  cases releases <;> exact List.append_nil _

theorem requests_release (request : InFlight η) (inbox : Inbox η) (bytes : Bytes) :
    requests (.took request.sequence bytes :: .sent request.sequence ::
      (Outbox.release request inbox).1) = [] := by
  have releases := Outbox.releases_release request inbox
  generalize Outbox.release request inbox = released at releases ⊢
  cases releases <;> rfl

theorem outgoing_release (request : InFlight η) (inbox : Inbox η) (bytes : Bytes) :
    outgoing (.took request.sequence bytes :: .sent request.sequence ::
      (Outbox.release request inbox).1) = [request.sequence] := by
  have releases := Outbox.releases_release request inbox
  generalize Outbox.release request inbox = released at releases ⊢
  cases releases <;> rfl

end Event

/-! ## One request after the other -/

/-- The request that an outbox **has begun to write**, and its bytes that the channel has taken. -/
inductive Outbox.Begun (outbox : Outbox η) : List (QueuedRequest η) → List (Int64 × UInt8) → Prop
  /-- Between two requests. -/
  | idle (free : outbox.current = none) : Begun outbox [] []
  /-- The request is being written. -/
  | writing (request : QueuedRequest η) {bytes left : Bytes}
      (current : outbox.current =
        some ⟨⟨left⟩, request.sequence, request.key, request.handler⟩)
      (frame_eq : bytes ++ left = request.frame) :
      Begun outbox [request] (labelled request.sequence bytes)
  /-- Writing the request has failed. -/
  | broken (request : QueuedRequest η) {bytes left : Bytes} (failed : outbox.failed = true)
      (free : outbox.current = none) (frame_eq : bytes ++ left = request.frame) :
      Begun outbox [request] (labelled request.sequence bytes)

/-- What an outbox has begun depends on what it is writing, and on whether it works. -/
theorem Outbox.Begun.congr {outbox outbox' : Outbox η} {begun : List (QueuedRequest η)}
    {rest : List (Int64 × UInt8)} (h : outbox.Begun begun rest)
    (current : outbox'.current = outbox.current) (failed : outbox'.failed = outbox.failed) :
    outbox'.Begun begun rest := by
  cases h with
  | idle free => exact .idle (current.trans free)
  | writing request writes frame_eq => exact .writing request (current.trans writes) frame_eq
  | broken request fails free frame_eq =>
    exact .broken request (failed.trans fails) (current.trans free) frame_eq

/-- **What has become of a request** that was queued. -/
inductive Fate (past : List (Event η)) (m : Multiplexer σ η) (out begun : List (QueuedRequest η))
    (request : QueuedRequest η) : Prop
  /-- It is out, or begun, or waits for its turn. -/
  | kept (mem : request ∈ out ++ begun ++ m.outbox.queue)
  /-- It has been taken back. -/
  | cancelled (mem : .cancelled request.key request.handler ∈ past)
  /-- It was behind the request with which writing failed. -/
  | dropped {first : QueuedRequest η} (failed : m.outbox.failed = true) (mem : first ∈ begun)
      (behind : [first, request].Sublist (Event.requests past))

/-- **What the channel has taken**: the frames of the requests that are out, one behind the other,
and what it has taken of the request that has been begun. -/
structure Written (past : List (Event η)) (m : Multiplexer σ η) (out begun : List (QueuedRequest η))
    (rest : List (Int64 × UInt8)) : Prop where
  wire : Event.wire past = out.flatMap QueuedRequest.wire ++ rest
  outgoing : Event.outgoing past = out.map QueuedRequest.sequence
  current : m.outbox.Begun begun rest
  order : (out ++ begun ++ m.outbox.queue).Sublist (Event.requests past)
  fate : ∀ request ∈ Event.requests past, Fate past m out begun request

/-- What has become of a request **stays so**, unless its turn comes or it is taken back. -/
theorem Fate.still {past events : List (Event η)} {m m' : Multiplexer σ η}
    {out begun : List (QueuedRequest η)} {request : QueuedRequest η}
    (h : Fate past m out begun request) (failed : m'.outbox.failed = m.outbox.failed)
    (lost : ∀ request ∈ m.outbox.queue, request ∈ m'.outbox.queue ∨
      .cancelled request.key request.handler ∈ events) :
    Fate (past ++ events) m' out begun request := by
  cases h with
  | kept mem =>
    rcases List.mem_append.mp mem with written | waits
    · exact .kept (List.mem_append_left _ written)
    · rcases lost request waits with waits | gone
      · exact .kept (List.mem_append_right _ waits)
      · exact .cancelled (List.mem_append_right _ gone)
  | cancelled mem => exact .cancelled (List.mem_append_left _ mem)
  | dropped fails mem behind =>
    refine .dropped (failed.trans fails) mem ?_
    rw [Event.requests_append]
    exact behind.trans (List.sublist_append_left _ _)

/-- What becomes of the requests of an outbox that **works**: none of them is lost in a step that
leaves all of them somewhere. -/
theorem Fate.working {past events : List (Event η)} {m m' : Multiplexer σ η}
    {out begun out' begun' : List (QueuedRequest η)} {request : QueuedRequest η}
    (h : Fate past m out begun request) (working : m.outbox.failed = false)
    (keeps : ∀ request ∈ out ++ begun ++ m.outbox.queue,
      request ∈ out' ++ begun' ++ m'.outbox.queue) :
    Fate (past ++ events) m' out' begun' request := by
  cases h with
  | kept mem => exact .kept (keeps request mem)
  | cancelled mem => exact .cancelled (List.mem_append_left _ mem)
  | dropped fails =>
    rw [working] at fails
    cases fails

/-- A step that writes nothing, and at most takes requests out of the queue, **keeps** all this. -/
theorem Written.still {past events : List (Event η)} {m m' : Multiplexer σ η}
    {out begun : List (QueuedRequest η)} {rest : List (Int64 × UInt8)}
    (h : Written past m out begun rest) (nobody : Event.requests events = [])
    (nothing : Event.wire events = []) (none : Event.outgoing events = [])
    (current : m'.outbox.current = m.outbox.current) (failed : m'.outbox.failed = m.outbox.failed)
    (queue : m'.outbox.queue.Sublist m.outbox.queue)
    (lost : ∀ request ∈ m.outbox.queue, request ∈ m'.outbox.queue ∨
      .cancelled request.key request.handler ∈ events) :
    Written (past ++ events) m' out begun rest where
  wire := by rw [Event.wire_append, nothing, List.append_nil, h.wire]
  outgoing := by rw [Event.outgoing_append, none, List.append_nil, h.outgoing]
  current := h.current.congr current failed
  order := by
    rw [Event.requests_append, nobody, List.append_nil]
    exact (queue.append_left _).trans h.order
  fate request mem := by
    rw [Event.requests_append, nobody, List.append_nil] at mem
    exact (h.fate request mem).still failed lost

/-- A step that only submits, or only fails requests, keeps all this, too. -/
theorem Written.completed {past : List (Event η)} {m m' : Multiplexer σ η}
    {out begun : List (QueuedRequest η)} {rest : List (Int64 × UInt8)}
    (h : Written past m out begun rest) {event : Event η} (done : List (Completion η))
    (nobody : event.request? = none) (nothing : event.bytes = []) (none : event.outgoing? = none)
    (current : m'.outbox.current = m.outbox.current) (failed : m'.outbox.failed = m.outbox.failed)
    (queue : m'.outbox.queue = m.outbox.queue) :
    Written (past ++ event :: done.map .completed) m' out begun rest :=
  h.still (Event.requests_cons_completed nobody done)
    ((Event.wire_cons_completed event done).trans nothing)
    (Event.outgoing_cons_completed none done) current failed (queue ▸ .refl _)
    (fun _ mem => .inl (queue ▸ mem))

/-- The request that is **being written** has been begun. -/
theorem Outbox.Begun.of_current {outbox : Outbox η} {begun : List (QueuedRequest η)}
    {rest : List (Int64 × UInt8)} (h : outbox.Begun begun rest) {request : InFlight η}
    (current : outbox.current = some request) :
    ∃ queued bytes left, begun = [queued] ∧ rest = labelled queued.sequence bytes ∧
      request = ⟨⟨left⟩, queued.sequence, queued.key, queued.handler⟩ ∧
      bytes ++ left = queued.frame := by
  cases h with
  | idle free =>
    rw [free] at current
    cases current
  | writing queued writes frame_eq =>
    rw [writes] at current
    exact ⟨queued, _, _, rfl, rfl, (Option.some.inj current).symm, frame_eq⟩
  | broken queued fails free frame_eq =>
    rw [free] at current
    cases current

/-- An outbox that works and writes nothing has begun **nothing**. -/
theorem Outbox.Begun.of_free {outbox : Outbox η} {begun : List (QueuedRequest η)}
    {rest : List (Int64 × UInt8)} (h : outbox.Begun begun rest) (working : outbox.failed = false)
    (free : outbox.current = none) : begun = [] ∧ rest = [] := by
  cases h with
  | idle _ => exact ⟨rfl, rfl⟩
  | writing queued writes frame_eq =>
    rw [writes] at free
    cases free
  | broken queued fails _ frame_eq =>
    rw [working] at fails
    cases fails

/-- A request that is **taken back** leaves the queue, and nothing else changes. -/
theorem Written.withdraw {past : List (Event η)} {m : Multiplexer σ η}
    {out begun : List (QueuedRequest η)} {rest : List (Int64 × UInt8)}
    (h : Written past m out begun rest) {key : RequestKey} {request : QueuedRequest η}
    (found : m.outbox.queue.find? (·.key = key) = some request) :
    Written (past ++ [.cancelled key request.handler])
      { m with outbox := { m.outbox with queue := m.outbox.queue.eraseP (·.key = key) } }
      out begun rest := by
  obtain ⟨before, after, queue_eq, erased, -, same⟩ := exists_split_of_find? found
  have key_eq : request.key = key := of_decide_eq_true same
  refine h.still rfl rfl rfl rfl rfl List.eraseP_sublist fun other waits => ?_
  rw [queue_eq] at waits
  simp only
  rw [erased]
  rcases List.mem_append.mp waits with sooner | waits
  · exact .inl (List.mem_append_left _ sooner)
  · rcases List.mem_cons.mp waits with rfl | later
    · rw [key_eq]
      exact .inr (List.mem_singleton_self _)
    · exact .inl (List.mem_append_right _ later)

variable [Channel σ]

/-- **Every step keeps the order** in which requests are written. -/
theorem Move.written {m m' : Multiplexer σ η} {past events : List (Event η)}
    {out begun : List (QueuedRequest η)} {rest : List (Int64 × UInt8)} (h : Move m events m')
    (so_far : Written past m out begun rest) :
    ∃ out' begun' rest', Written (past ++ events) m' out' begun' rest' := by
  cases h with
  | @queue _ _ _ handler request alive prepared =>
    refine ⟨out, begun, rest, ?_, ?_, so_far.current.congr rfl rfl, ?_, ?_⟩
    · rw [Event.wire_append, so_far.wire]
      exact List.append_nil _
    · rw [Event.outgoing_append, so_far.outgoing]
      exact List.append_nil _
    · rw [Event.requests_append, ← List.append_assoc]
      exact so_far.order.append_right _
    · intro other mem
      rw [Event.requests_append] at mem
      rcases List.mem_append.mp mem with old | new
      · exact (so_far.fate other old).still rfl fun _ waits => .inl (List.mem_append_left _ waits)
      · exact .kept (List.mem_append_right _ (List.mem_append_right _ new))
  | @begin next queue working free turn =>
    obtain ⟨rfl, rfl⟩ := so_far.current.of_free working free
    refine ⟨out, [next], labelled next.sequence [], ?_, ?_, .writing next rfl rfl, ?_, ?_⟩
    · rw [List.append_nil]
      exact so_far.wire
    · rw [List.append_nil]
      exact so_far.outgoing
    · have order := so_far.order
      rw [turn] at order
      rw [List.append_nil, List.append_assoc]
      rwa [List.append_assoc] at order
    · intro request mem
      rw [List.append_nil] at mem
      refine (so_far.fate request mem).working working fun other inside => ?_
      rw [turn] at inside
      simpa using inside
  -- what is taken now is put behind what had been taken of the frame
  | @stall request writer channel working current write =>
    obtain ⟨queued, bytes, left, rfl, rfl, rfl, frame_eq⟩ := so_far.current.of_current current
    have adds_up := FrameWriter.frame_eq_of_write frame_eq write
    refine ⟨out, [queued], _, ?_, ?_, .writing queued rfl adds_up, ?_, ?_⟩
    · rw [Event.wire_append, so_far.wire, labelled_append, ← List.append_assoc]
      exact congrArg _ (List.append_nil _)
    · rw [Event.outgoing_append, so_far.outgoing]
      exact List.append_nil _
    · rw [Event.requests_append]
      exact so_far.order.trans (List.sublist_append_left _ _)
    · intro request mem
      rcases List.mem_append.mp (Event.requests_append past _ ▸ mem) with old | new
      · exact (so_far.fate request old).working working fun _ inside => inside
      · exact absurd new List.not_mem_nil
  -- nothing is left of the frame, so that what has been taken of it is all of it
  | @release request writer channel working current write =>
    obtain ⟨queued, bytes, left, rfl, rfl, rfl, frame_eq⟩ := so_far.current.of_current current
    have whole := FrameWriter.frame_eq_of_write frame_eq write
    rw [FrameWriter.left_of_done write, List.append_nil] at whole
    refine ⟨out ++ [queued], [], [], ?_, ?_, .idle rfl, ?_, ?_⟩
    · rw [Event.wire_append, Event.wire_release, so_far.wire, List.append_assoc, ← labelled_append,
        whole, List.flatMap_append, List.flatMap_singleton, List.append_nil]
      rfl
    · rw [Event.outgoing_append, Event.outgoing_release, so_far.outgoing, List.map_append]
      rfl
    · rw [Event.requests_append, List.append_nil]
      exact so_far.order.trans (List.sublist_append_left _ _)
    · intro request mem
      rw [Event.requests_append, Event.requests_release, List.append_nil] at mem
      refine (so_far.fate request mem).working working fun other inside => ?_
      rwa [List.append_nil]
  -- the request stays begun for good, and nothing is written any more
  | @breakOut request writer channel error working current write =>
    obtain ⟨queued, bytes, left, rfl, rfl, rfl, frame_eq⟩ := so_far.current.of_current current
    have adds_up := FrameWriter.frame_eq_of_write frame_eq write
    refine ⟨out, [queued], _, ?_, ?_, .broken queued rfl rfl adds_up, ?_, ?_⟩
    · rw [Event.wire_append, Event.wire_cons_completed, so_far.wire, labelled_append,
        ← List.append_assoc]
      rfl
    · rw [Event.outgoing_append, Event.outgoing_cons_completed rfl, List.append_nil]
      exact so_far.outgoing
    · rw [Event.requests_append, List.append_nil]
      have order := (List.sublist_append_left _ m.outbox.queue).trans so_far.order
      exact order.trans (List.sublist_append_left _ _)
    · intro request mem
      rw [Event.requests_append, Event.requests_cons_completed rfl, List.append_nil] at mem
      cases so_far.fate request mem with
      | kept inside =>
        rcases List.mem_append.mp inside with written | waits
        · exact .kept (List.mem_append_left _ written)
        · refine .dropped rfl (List.mem_singleton_self _) ?_
          -- whoever waited for its turn was queued behind the request that is begun
          have order := so_far.order
          rw [List.append_assoc] at order
          have order := (List.sublist_append_right out _).trans order
          rw [Event.requests_append]
          refine List.Sublist.trans ?_ (order.trans (List.sublist_append_left _ _))
          exact (List.singleton_sublist.mpr waits).cons_cons queued
      | cancelled gone => exact .cancelled (List.mem_append_left _ gone)
      | dropped fails =>
        rw [working] at fails
        cases fails
  | withdraw found => exact ⟨out, begun, rest, so_far.withdraw found⟩
  | reject dead handler =>
    exact ⟨out, begun, rest, so_far.completed _ rfl rfl rfl rfl rfl rfl⟩
  | misfit alive prepared =>
    exact ⟨out, begun, rest, so_far.completed _ rfl rfl rfl rfl rfl rfl⟩
  | accept working read ends =>
    exact ⟨out, begun, rest, so_far.completed _ rfl rfl rfl rfl rfl rfl⟩
  | breakIn working read all =>
    exact ⟨out, begun, rest, so_far.completed _ rfl rfl rfl rfl rfl rfl⟩
  | _ => exact ⟨out, begun, rest, so_far.still rfl rfl rfl rfl rfl (.refl _) fun _ mem => .inl mem⟩

/-- **The channel takes one request after the other**, each from its first byte on. -/
theorem Path.written {m m' : Multiplexer σ η} {events : List (Event η)} (h : Path m events m')
    (fresh : m.Fresh) : ∃ out begun rest, Written events m' out begun rest := by
  refine h.invariant (fun past m₁ => ∃ out begun rest, Written past m₁ out begun rest) ?_ ?_
  · refine ⟨[], [], [], rfl, rfl, .idle fresh.current, ?_, fun _ mem => absurd mem List.not_mem_nil⟩
    rw [fresh.queue]
    exact List.Sublist.refl _
  · rintro past m₁ events m₂ - ⟨out, begun, rest, so_far⟩ move
    exact move.written so_far

/-! ## What has been taken of a request -/

omit [Channel σ] in
/-- **No two requests that are queued** have the same number. -/
theorem Numbered.nodup_requests {past : List (Event η)} {m : Multiplexer σ η}
    (h : Numbered past m) :
    ((Event.requests past).map QueuedRequest.sequence).Nodup := by
  have nodup := h.nodup_sequences
  rwa [Event.tickets_eq, List.map_map] at nodup

omit [Channel σ] in
theorem Numbered.request_eq {past : List (Event η)} {m : Multiplexer σ η} (h : Numbered past m)
    {request other : QueuedRequest η} (mem : .queued request ∈ past)
    (other_mem : other ∈ Event.requests past) (same : other.sequence = request.sequence) :
    other = request :=
  List.inj_on_of_nodup_map h.nodup_requests other_mem (Event.mem_requests.mpr mem) same

omit [Channel σ] in
/-- Requests that are out, begun, or wait for their turn have **different numbers**. -/
theorem Written.nodup {past : List (Event η)} {m : Multiplexer σ η}
    {out begun : List (QueuedRequest η)} {rest : List (Int64 × UInt8)}
    (h : Written past m out begun rest) (numbered : Numbered past m) :
    ((out ++ begun ++ m.outbox.queue).map QueuedRequest.sequence).Nodup :=
  numbered.nodup_requests.sublist (h.order.map _)

omit [Channel σ] in
/-- What an outbox has begun holds **no other number**. -/
theorem Outbox.Begun.labelledBy_of_ne {outbox : Outbox η} {begun : List (QueuedRequest η)}
    {rest : List (Int64 × UInt8)} (h : outbox.Begun begun rest) {sequence : Int64}
    (others : ∀ request ∈ begun, request.sequence ≠ sequence) : labelledBy sequence rest = [] := by
  cases h with
  | idle free => rfl
  | writing request current frame_eq =>
    exact DriveLink.labelledBy_of_ne (others request (List.mem_cons_self ..)) _
  | broken request failed free frame_eq =>
    exact DriveLink.labelledBy_of_ne (others request (List.mem_cons_self ..)) _

omit [Channel σ] in
/-- Of a request **whose turn has not come**, nothing has been taken. -/
theorem Written.taken_of_waiting {past : List (Event η)} {m : Multiplexer σ η}
    {out begun : List (QueuedRequest η)} {rest : List (Int64 × UInt8)}
    (h : Written past m out begun rest) (numbered : Numbered past m) {request : QueuedRequest η}
    (mem : request ∈ m.outbox.queue) : Event.taken request.sequence past = [] := by
  have nodup := h.nodup numbered
  rw [List.map_append, List.nodup_append] at nodup
  -- whatever has been taken belongs to requests before this one
  have others : ∀ other ∈ out ++ begun, other.sequence ≠ request.sequence := fun other inside =>
    nodup.2.2 _ (List.mem_map_of_mem inside) _ (List.mem_map_of_mem mem)
  rw [Event.taken, h.wire, labelledBy_append,
    labelledBy_flatMap_of_ne fun other inside => others other (List.mem_append_left _ inside),
    h.current.labelledBy_of_ne fun other inside => others other (List.mem_append_right _ inside)]
  rfl

omit [Channel σ] in
/-- Of a request **that is being written**, what has been taken and what is left are the frame. -/
theorem Written.taken_of_current {past : List (Event η)} {m : Multiplexer σ η}
    {out begun : List (QueuedRequest η)} {rest : List (Int64 × UInt8)}
    (h : Written past m out begun rest) (numbered : Numbered past m) {request : QueuedRequest η}
    (queued : .queued request ∈ past) {current : InFlight η}
    (writes : m.outbox.current = some current) (same : current.sequence = request.sequence) :
    Event.taken request.sequence past ++ current.writer.left = request.frame := by
  obtain ⟨other, bytes, left, rfl, rfl, rfl, frame_eq⟩ := h.current.of_current writes
  have known : other ∈ Event.requests past :=
    h.order.subset (List.mem_append_left _ (List.mem_append_right _ (List.mem_singleton_self _)))
  obtain rfl : other = request := numbered.request_eq queued known same
  have nodup := h.nodup numbered
  rw [List.append_assoc, List.map_append, List.nodup_append] at nodup
  have others : ∀ earlier ∈ out, earlier.sequence ≠ other.sequence := fun earlier inside =>
    nodup.2.2 _ (List.mem_map_of_mem inside) _ (List.mem_map_of_mem (List.mem_cons_self ..))
  rw [Event.taken, h.wire, labelledBy_append, labelledBy_flatMap_of_ne others, labelledBy_labelled]
  exact frame_eq

omit [Channel σ] in
/-- A request that is out **has been written** entirely. -/
theorem Written.mem_out_of_sent {past : List (Event η)} {m : Multiplexer σ η}
    {out begun : List (QueuedRequest η)} {rest : List (Int64 × UInt8)}
    (h : Written past m out begun rest) (numbered : Numbered past m) {request : QueuedRequest η}
    (queued : .queued request ∈ past) (sent : .sent request.sequence ∈ past) : request ∈ out := by
  rw [← Event.mem_outgoing, h.outgoing] at sent
  obtain ⟨other, mem, same⟩ := List.mem_map.mp sent
  have known : other ∈ Event.requests past :=
    h.order.subset (List.mem_append_left _ (List.mem_append_left _ mem))
  exact numbered.request_eq queued known same ▸ mem

/-- **Of a request that is out**, the channel has taken the frame. -/
theorem Path.taken_of_sent {m m' : Multiplexer σ η} {events : List (Event η)}
    (h : Path m events m') (fresh : m.Fresh) (numbered : Numbered events m')
    {request : QueuedRequest η} (queued : .queued request ∈ events)
    (sent : .sent request.sequence ∈ events) :
    Event.taken request.sequence events = request.frame := by
  obtain ⟨out, begun, rest, written⟩ := h.written fresh
  have mem := written.mem_out_of_sent numbered queued sent
  have nodup := written.nodup numbered
  rw [List.append_assoc, List.map_append, List.nodup_append] at nodup
  have others : ∀ later ∈ begun, later.sequence ≠ request.sequence := fun later inside same =>
    nodup.2.2 _ (List.mem_map_of_mem mem) _
      (List.mem_map_of_mem (List.mem_append_left _ inside)) same.symm
  rw [Event.taken, written.wire, labelledBy_append, labelledBy_flatMap nodup.1 mem,
    written.current.labelledBy_of_ne others, List.append_nil]

omit [Channel σ] in
/-- The frame of a request is **not empty**. -/
theorem Outbox.frameOf_ne_nil {outbox : Outbox η} {envelope : Envelope} {command : Command}
    {value frame : Bytes} (h : outbox.frameOf envelope command value = .ok frame) : frame ≠ [] := by
  unfold frameOf at h
  simp only at h
  split at h
  · cases h
    rw [Frame.encode]
    exact List.cons_ne_nil _ _
  · cases h

/-- Every request that is queued has a frame. -/
theorem Path.frame_ne_nil {m m' : Multiplexer σ η} {events : List (Event η)}
    (h : Path m events m') {request : QueuedRequest η} (queued : .queued request ∈ events) :
    request.frame ≠ [] := by
  obtain ⟨before, after, events_eq⟩ := List.append_of_mem queued
  obtain ⟨_, m₁, sooner, later, _, _, -, move, -, -, -⟩ := h.exists_move events_eq
  -- only submitting queues a request, and it frames the request first
  have mem : .queued request ∈ sooner ++ .queued request :: later :=
    List.mem_append_right _ (List.mem_cons_self ..)
  generalize sooner ++ .queued request :: later = step at move mem
  cases move with
  | @queue _ _ _ handler made alive prepared =>
    obtain ⟨-, frame, framed, rfl⟩ := Outbox.exists_frame_of_prepare prepared
    have same : request = ⟨frame, m₁.outbox.nextSequence, m₁.nextKey, handler⟩ := by
      simpa using mem
    rw [same]
    exact Outbox.frameOf_ne_nil framed
  | @release request writer channel working current write =>
    have releases := Outbox.releases_release request m₁.inbox
    generalize Outbox.release request m₁.inbox = released at releases mem
    cases releases <;> simp at mem
  | _ => simp at mem

/-- **A request that is taken but not out** waits for a flush alone. -/
theorem Path.flushing_of_taken {m m' : Multiplexer σ η} {events : List (Event η)}
    (h : Path m events m') (fresh : m.Fresh) (numbered : Numbered events m')
    {request : QueuedRequest η} (queued : .queued request ∈ events)
    (unsent : request.ticket ∈ m'.transit.unsent)
    (taken : Event.taken request.sequence events = request.frame) :
    m'.outbox.current = some ⟨⟨[]⟩, request.sequence, request.key, request.handler⟩ := by
  obtain ⟨out, begun, rest, written⟩ := h.written fresh
  rcases List.mem_append.mp unsent with writes | waits
  · obtain ⟨current, mem, same⟩ := List.mem_map.mp writes
    have current_eq := Option.mem_toList.mp mem
    obtain ⟨⟨left⟩, sequence, key, handler⟩ := current
    cases same
    have frame_eq := written.taken_of_current numbered queued current_eq rfl
    rw [taken, List.append_right_eq_self] at frame_eq
    rw [← frame_eq]
    exact current_eq
  · -- of a request whose turn has not come, nothing has been taken
    obtain ⟨other, mem, same⟩ := List.mem_map.mp waits
    have known : other ∈ Event.requests events :=
      written.order.subset (List.mem_append_right _ mem)
    obtain rfl : other = request :=
      numbered.request_eq queued known (congrArg Ticket.sequence same)
    rw [written.taken_of_waiting numbered mem] at taken
    exact absurd taken.symm (h.frame_ne_nil queued)

end DriveLink
