import DriveLink.Proofs.Pipeline.Blame
import DriveLink.Proofs.Pipeline.Carried
import DriveLink.Proofs.Pipeline.Oversize

/-! # Taking requests back

A request can be taken back while it waits for its turn or for its answer, but not while it is being
written. Once that is done nobody has its names any more, and nobody gets them again. So its handler
is never called, the channel takes no byte of it that it has not taken before, and an answer to it
that comes in later finds nobody waiting: its frame is read to the end, and that is all.

* `Multiplexer.revocable`, `Multiplexer.Removes` — what can be taken back, and what becomes of it;
* `Multiplexer.Lacks`, `Path.lacks` — nobody has the names of a request, and nobody gets them;
* `Multiplexer.key_ne_of_cancelled` — whoever has been taken back is not called;
* `Move.passesOver`, `Inbox.Next.passesOver` — the frames that nobody waits for;
* `cancellation_is_exact` — taking a request back, and all that comes later. -/

namespace DriveLink

variable {σ η : Type}

open Channel (Yields)

/-! ## What a call does -/

namespace Multiplexer

/-- The requests that **can be taken back**: those that wait for their answers, and those that wait
for their turn. -/
def revocable (m : Multiplexer σ η) : List (Ticket η) :=
  m.inbox.correlator.outstanding.tickets ++ m.outbox.queue.map QueuedRequest.ticket

/-- **What a call to take a request back does.** -/
inductive Removes (m : Multiplexer σ η) (key : RequestKey) : Bool × Multiplexer σ η → Prop
  /-- The request waited for its turn. -/
  | withdrawn {request : QueuedRequest η}
      (found : m.outbox.queue.find? (·.key = key) = some request) :
      Removes m key
        (true, { m with outbox := { m.outbox with
          queue := m.outbox.queue.eraseP (·.key = key) } })
  /-- It waited for its answer. -/
  | disowned {request : OutstandingRequest η}
      (absent : m.outbox.queue.find? (·.key = key) = none)
      (found : m.inbox.correlator.outstanding.entries.find? (·.key = key) = some request) :
      Removes m key
        (true, { m with inbox := { m.inbox with correlator := { m.inbox.correlator with
          outstanding := ⟨m.inbox.correlator.outstanding.entries.eraseP (·.key = key)⟩ } } })
  /-- There was no such request. -/
  | nothing (absent : m.outbox.queue.find? (·.key = key) = none)
      (gone : m.inbox.correlator.outstanding.entries.find? (·.key = key) = none) :
      Removes m key (false, m)

theorem removes_remove (m : Multiplexer σ η) (key : RequestKey) :
    m.Removes key (m.remove key) := by
  cases found : m.outbox.queue.find? (·.key = key) with
  | some request =>
    have same := List.find?_some found
    have any : m.outbox.queue.any (·.key = key) = true :=
      List.any_eq_true.mpr ⟨request, List.mem_of_find?_eq_some found, same⟩
    rw [remove, Outbox.remove, if_pos any]
    exact .withdrawn found
  | none =>
    rw [remove_of_absent found, Inbox.remove, Outstanding.removeByKey]
    cases tracked : m.inbox.correlator.outstanding.entries.find? (·.key = key) with
    | some request => exact .disowned found tracked
    | none => exact .nothing found tracked

/-- A request that is taken back is one of those that can be, and **nobody else is**. -/
theorem exists_split_of_remove {m : Multiplexer σ η} {key : RequestKey}
    (removed : (m.remove key).1 = true) :
    ∃ before ticket after, ticket ∈ m.revocable ∧ ticket.key = key ∧
      m.transit.tickets = before ++ ticket :: after ∧
      (m.remove key).2.transit.tickets = before ++ after := by
  have removes := m.removes_remove key
  generalize m.remove key = result at removes removed ⊢
  cases removes with
  | @withdrawn request found =>
    obtain ⟨before, after, queue_eq, erased, -, same⟩ := exists_split_of_find? found
    refine ⟨m.transit.awaiting ++ m.outbox.current.toList.map InFlight.ticket ++
      before.map QueuedRequest.ticket, request.ticket, after.map QueuedRequest.ticket,
      ?_, of_decide_eq_true same, ?_, ?_⟩
    · exact List.mem_append_right _ (List.mem_map_of_mem (List.mem_of_find?_eq_some found))
    · simp [Transit.tickets, transit, Outbox.unsent, queue_eq]
    · simp [Transit.tickets, transit, Outbox.unsent, erased]
  | @disowned request absent found =>
    obtain ⟨before, after, entries_eq, erased, -, same⟩ := exists_split_of_find? found
    refine ⟨before.map OutstandingRequest.ticket, request.ticket,
      after.map OutstandingRequest.ticket ++ m.transit.unsent, ?_, of_decide_eq_true same, ?_, ?_⟩
    · exact List.mem_append_left _ (List.mem_map_of_mem (List.mem_of_find?_eq_some found))
    · simp [Transit.tickets, transit, Outstanding.tickets, entries_eq]
    · simp [Transit.tickets, transit, Outstanding.tickets, erased]
  | nothing absent gone => cases removed

/-- A call takes a request back **just if there is one** that can be. -/
theorem remove_eq_true_iff {m : Multiplexer σ η} {key : RequestKey} :
    (m.remove key).1 = true ↔ ∃ ticket ∈ m.revocable, ticket.key = key := by
  constructor
  · intro removed
    obtain ⟨_, ticket, _, mem, same, -, -⟩ := exists_split_of_remove removed
    exact ⟨ticket, mem, same⟩
  · rintro ⟨ticket, mem, rfl⟩
    have removes := m.removes_remove ticket.key
    generalize m.remove ticket.key = result at removes ⊢
    cases removes with
    | nothing absent gone =>
      rcases List.mem_append.mp mem with waits | waits
      · obtain ⟨request, inside, same⟩ := List.mem_map.mp waits
        exact absurd (decide_eq_true (congrArg Ticket.key same))
          (List.find?_eq_none.mp gone request inside)
      · obtain ⟨request, inside, same⟩ := List.mem_map.mp waits
        exact absurd (decide_eq_true (congrArg Ticket.key same))
          (List.find?_eq_none.mp absent request inside)
    | _ => rfl

/-- Whether a request can be taken back, **by where it waits**. -/
theorem exists_revocable_iff {m : Multiplexer σ η} {key : RequestKey} :
    (∃ ticket ∈ m.revocable, ticket.key = key) ↔
      (∃ request ∈ m.outbox.queue, request.key = key) ∨
        ∃ request ∈ m.inbox.correlator.outstanding.entries, request.key = key := by
  constructor
  · rintro ⟨ticket, mem, same⟩
    rcases List.mem_append.mp mem with waits | waits
    · obtain ⟨request, inside, rfl⟩ := List.mem_map.mp waits
      exact .inr ⟨request, inside, same⟩
    · obtain ⟨request, inside, rfl⟩ := List.mem_map.mp waits
      exact .inl ⟨request, inside, same⟩
  · rintro (⟨request, inside, same⟩ | ⟨request, inside, same⟩)
    · exact ⟨request.ticket, List.mem_append_right _ (List.mem_map_of_mem inside), same⟩
    · exact ⟨request.ticket, List.mem_append_left _ (List.mem_map_of_mem inside), same⟩

/-- A call that takes nothing back **changes nothing**. -/
theorem remove_eq_self {m : Multiplexer σ η} {key : RequestKey}
    (kept : (m.remove key).1 = false) : (m.remove key).2 = m := by
  have removes := m.removes_remove key
  generalize m.remove key = result at removes kept ⊢
  cases removes with
  | nothing absent gone => rfl
  | _ => cases kept

/-- What can be taken back is **on its way**. -/
theorem revocable_subset (m : Multiplexer σ η) : m.revocable ⊆ m.transit.tickets := by
  intro ticket mem
  rcases List.mem_append.mp mem with waits | waits
  · exact List.mem_append_left _ waits
  · exact List.mem_append_right _ (List.mem_append_right _ waits)

/-- The request that is **being written** cannot be taken back. -/
theorem remove_of_current {m : Multiplexer σ η} (inOrder : m.InOrder) {current : InFlight η}
    (writes : m.outbox.current = some current) : (m.remove current.key).1 = false := by
  rw [Bool.eq_false_iff, Ne, remove_eq_true_iff]
  rintro ⟨ticket, mem, same⟩
  rcases List.mem_append.mp mem with waits | waits
  · obtain ⟨entry, inside, rfl⟩ := List.mem_map.mp waits
    exact (inOrder.names_free writes inside).2 same
  · have nodup := inOrder.keys_nodup
    rw [Transit.tickets, transit, Outbox.unsent, writes, List.map_append, List.map_append] at nodup
    have apart := (List.nodup_append.mp (List.nodup_append.mp nodup).2.1).2.2
    exact apart _ (List.mem_singleton_self _) _ (List.mem_map_of_mem waits) same.symm

/-! ## Names that nobody has -/

/-- **Nobody has a name** of a request. -/
def Lacks (m : Multiplexer σ η) (ticket : Ticket η) : Prop :=
  ∀ other ∈ m.transit.tickets, other.sequence ≠ ticket.sequence ∧ other.key ≠ ticket.key

/-- Nobody waits for an answer to **the sequence of a request** of which nobody has a name. -/
theorem Lacks.unclaimed {m : Multiplexer σ η} {ticket : Ticket η} (h : m.Lacks ticket) :
    ∀ request ∈ m.inbox.correlator.outstanding.entries, request.sequence ≠ ticket.sequence :=
  fun _ mem => (h _ (List.mem_append_left _ (List.mem_map_of_mem mem))).1

/-- What nobody has a name of **cannot be taken back**. -/
theorem Lacks.remove {m : Multiplexer σ η} {ticket : Ticket η} (h : m.Lacks ticket) :
    (m.remove ticket.key).1 = false := by
  rw [Bool.eq_false_iff, Ne, remove_eq_true_iff]
  rintro ⟨other, mem, same⟩
  exact (h other (m.revocable_subset mem)).2 same

/-- Once a request has been taken back, **nobody has a name of it**. -/
theorem lacks_of_remove {m : Multiplexer σ η} {past : List (Event η)} (numbered : Numbered past m)
    (known : m.transit.tickets.Sublist (Event.tickets past)) {ticket : Ticket η}
    (mem : ticket ∈ m.revocable) : (m.remove ticket.key).2.Lacks ticket := by
  obtain ⟨before, other, after, other_mem, same, tickets_eq, left_eq⟩ :=
    exists_split_of_remove (remove_eq_true_iff.mpr ⟨ticket, mem, rfl⟩)
  have on_way {ticket : Ticket η} (mem : ticket ∈ m.revocable) : ticket ∈ Event.tickets past :=
    known.subset (m.revocable_subset mem)
  obtain rfl := numbered.ticket_eq (on_way other_mem) (on_way mem) (.inr same)
  -- it stood on its way once, and whoever is left stood beside it
  have nodup := numbered.nodup_sequences.of_map.sublist known
  rw [tickets_eq] at nodup
  have away := (List.nodup_cons.mp (List.nodup_middle.mp nodup)).1
  intro next left
  rw [left_eq] at left
  have next_known : next ∈ Event.tickets past := by
    refine known.subset (tickets_eq ▸ ?_)
    exact (List.sublist_cons_self other after).append_left before |>.subset left
  constructor
  · intro same
    exact away (numbered.ticket_eq next_known (on_way mem) (.inl same) ▸ left)
  · intro same
    exact away (numbered.ticket_eq next_known (on_way mem) (.inr same) ▸ left)

end Multiplexer

variable [Channel σ]

/-- **Nobody gets a name** that has been given out. -/
theorem Path.lacks {m m' : Multiplexer σ η} {events : List (Event η)} (h : Path m events m')
    {ticket : Ticket η} (lacks : m.Lacks ticket)
    (others : ∀ other ∈ Event.tickets events,
      other.sequence ≠ ticket.sequence ∧ other.key ≠ ticket.key) : m'.Lacks ticket := by
  intro other mem
  rcases List.mem_append.mp (h.tickets_sublist.subset mem) with before | new
  · exact lacks other before
  · exact others other new

namespace Multiplexer

/-- **A turn in which a request is taken back.** -/
theorem turn_remove_of_true {m : Multiplexer σ η} {key : RequestKey}
    (removed : (m.remove key).1 = true) :
    m.turn (.remove key) = ⟨[.cancelled key (m.handlerOf key)], (m.remove key).2⟩ := by
  rw [turn]
  rcases result : m.remove key with ⟨_ | _, after⟩
  · rw [result] at removed
    cases removed
  · rfl

/-- The handler of a request that **has been taken back** is never called. -/
theorem key_ne_of_cancelled {m : Multiplexer σ η} (fresh : m.Fresh) {turns : List (Turn σ η)}
    (few : (Turn.submitted turns).length < 2 ^ 63) {key : RequestKey} {taken : Option η}
    (cancelled : .cancelled key taken ∈ (m.live turns).events) :
    ∀ completion ∈ Event.completions (m.live turns).ended, completion.key ≠ key := by
  rintro completion called rfl
  have path := path_live m turns
  have numbered := numbered_live fresh turns few
  have settled := settled_live fresh turns
  have gives : (completion.key, completion.handler) ∈ Event.given (m.live turns).events := by
    rw [settled, Event.fired_eq]
    exact Multiset.mem_add.mpr (.inl (Multiset.mem_coe.mpr (List.mem_map_of_mem called)))
  -- the request with this key had the handler that is called, and it was handed back
  have submitted : (completion.key, some completion.handler) ∈
      Event.submissions (m.live turns).events := by
    rw [Event.given_eq] at gives
    obtain ⟨⟨_, handler⟩, mem, same⟩ := List.mem_filterMap.mp (Multiset.mem_coe.mp gives)
    cases handler <;> cases same
    exact mem
  have known := Event.mem_cancellations.mpr cancelled
  have same := List.inj_on_of_nodup_map numbered.nodup_keys submitted
    (path.cancellations_subset fresh _ known) rfl
  rw [← same] at known
  refine (once_of_settled settled numbered.nodup_given gives).1 ?_ completion called rfl
  rw [Event.handedBack_eq]
  exact Multiset.mem_coe.mpr (List.mem_filterMap.mpr ⟨_, known, rfl⟩)

end Multiplexer

/-! ## Answers that nobody waits for -/

/-- The end of a frame that **answers a sequence**: of a response to it, or of one that is too large
but whose command section is not. -/
inductive ReadOutcome.Answers (signer : Signer) (hmacKey : Bytes) (sequence : Int64) :
    ReadOutcome → Prop
  | whole {frame : Frame} {response : Command}
      (answers : frame.Answers signer hmacKey sequence response) :
      Answers signer hmacKey sequence (.frame frame)
  | tooLarge {command value : Bytes} {commandLength valueLength : UInt32} {response : Command}
      (answers : Frame.Answers signer hmacKey ⟨command, value⟩ sequence response) :
      Answers signer hmacKey sequence (.tooLarge (some command) commandLength valueLength)

theorem ReadOutcome.Answers.endsFrame {signer : Signer} {hmacKey : Bytes} {sequence : Int64}
    {outcome : ReadOutcome} (h : outcome.Answers signer hmacKey sequence) :
    outcome.endsFrame = true := by
  cases h <;> rfl

omit [Channel σ] in
/-- **An answer that nobody waits for** is passed over. -/
theorem Correlator.accept_of_unclaimed {c : Correlator η} {outcome : ReadOutcome}
    {sequence : Int64} (answers : outcome.Answers c.signer c.hmacKey sequence)
    (asked : sequence ≠ greetingSequence)
    (unclaimed : ∀ request ∈ c.outstanding.entries, request.sequence ≠ sequence) :
    ∃ connectionId, c.accept outcome = ⟨{ c with connectionId }, [], false⟩ := by
  have removed := Outstanding.removeBySequence_eq_none_iff.mpr unclaimed
  cases answers with
  | @whole frame response answers =>
    obtain ⟨opens, inner, answered⟩ := answers
    obtain ⟨connectionId, learns⟩ := c.learn_eq response
    refine ⟨connectionId, ?_⟩
    rw [accept, dispatch_of_opened (openResponse_of_opens opens inner) answered, removed, learns]
  | @tooLarge command value _ _ response answers =>
    obtain ⟨opens, inner, answered⟩ := answers
    have acknowledged : c.acknowledgedIn (some command) = some sequence := by
      rw [acknowledgedIn_of_opened (openResponse_of_opens opens inner)]
      rw [answeredSequence] at answered
      split at answered
      · exact absurd (Option.some.inj answered).symm asked
      · exact answered
    refine ⟨c.connectionId, ?_⟩
    rw [accept, dispatchTooLarge, acknowledged]
    simp only [removed]

/-- **A frame is passed over**: the rest of it is taken from the channel, and the reader stands
between two frames again. Nothing else changes but perhaps the number of the connection. -/
inductive Multiplexer.PassesOver (m : Multiplexer σ η) (outcome : ReadOutcome) :
    Multiplexer σ η → Prop
  | intro {taken bytes : Bytes} {channel : σ}
      (stands : m.inbox.reader.state.Stands m.inbox.reader.maxFrameSize taken)
      (yields : Yields m.channel bytes channel)
      (whole : Frame.Whole m.inbox.reader.maxFrameSize (taken ++ bytes) outcome)
      (connectionId : Option Int64) :
      PassesOver m outcome
        { m with
          inbox := { m.inbox with
            correlator := { m.inbox.correlator with connectionId }
            reader := ⟨m.inbox.reader.maxFrameSize, .idle⟩ }
          channel }

/-- A step leaves the reader **somewhere in a frame**. -/
theorem Move.sound {m m' : Multiplexer σ η} {events : List (Event η)} (h : Move m events m')
    (sound : m.inbox.reader.Sound) : m'.inbox.reader.Sound := by
  have reads {outcome : ReadOutcome} {reader : FrameReader} {channel : σ}
      (read : m.inbox.reader.read m.channel = (outcome, reader, channel)) : reader.Sound := by
    have after := sound.read m.channel
    rwa [read] at after
  cases h with
  | release working current write =>
    obtain ⟨outstanding, inbox_eq⟩ := Outbox.exists_outstanding_of_release _ m.inbox
    simp only
    rw [inbox_eq]
    exact sound
  | await working read => exact reads read
  | accept working read ends => exact reads read
  | breakIn working read all => exact reads read
  | _ => exact sound

theorem Path.sound {m m' : Multiplexer σ η} {events : List (Event η)} (h : Path m events m')
    (sound : m.inbox.reader.Sound) : m'.inbox.reader.Sound := by
  induction h with
  | done => exact sound
  | step move _ ih => exact ih (move.sound sound)

/-- **A step in which an answer comes in** that nobody waits for passes it over, and does nothing
else. -/
theorem Move.passesOver {m m' : Multiplexer σ η} {sooner later : List (Event η)}
    {outcome : ReadOutcome} {sequence : Int64}
    (h : Move m (sooner ++ .received outcome :: later) m') (sound : m.inbox.reader.Sound)
    (answers : outcome.Answers m.inbox.correlator.signer m.inbox.correlator.hmacKey sequence)
    (asked : sequence ≠ greetingSequence)
    (unclaimed : ∀ request ∈ m.inbox.correlator.outstanding.entries,
      request.sequence ≠ sequence) :
    sooner = [] ∧ later = [] ∧ m.PassesOver outcome m' := by
  have ends := answers.endsFrame
  obtain ⟨reader, channel, read, -, rfl⟩ :=
    h.exists_read_of_received (List.mem_append_right _ (List.mem_cons_self ..)) ends
  obtain ⟨nothing, done⟩ := h.of_received rfl ends
  obtain ⟨connectionId, accepted⟩ := Correlator.accept_of_unclaimed answers asked unclaimed
  obtain ⟨taken, stands, -⟩ := sound
  have reads := FrameReader.reads_read stands m.channel
  rw [read] at reads
  obtain ⟨bytes, yields, whole, idle⟩ := reads.of_endsFrame ends
  have reader_eq : reader = ⟨m.inbox.reader.maxFrameSize, .idle⟩ := by
    have between : (m.inbox.reader.read m.channel).2.1.state = .idle := by
      rw [read]
      exact idle
    have reader_eq := FrameReader.read_eq_of_idle between
    rwa [read] at reader_eq
  rw [accepted, List.map_nil] at done
  refine ⟨nothing, done, ?_⟩
  rw [accepted, reader_eq]
  exact .intro stands yields whole connectionId

/-- **Wherever an answer comes in** to a request of which nobody has a name, and nobody gets one, it
is passed over. -/
theorem Path.exists_passesOver {m m' : Multiplexer σ η} {events before after : List (Event η)}
    {outcome : ReadOutcome} (h : Path m events m')
    (events_eq : events = before ++ .received outcome :: after) (sound : m.inbox.reader.Sound)
    {ticket : Ticket η} (asked : ticket.sequence ≠ greetingSequence) (lacks : m.Lacks ticket)
    (others : ∀ other ∈ Event.tickets events,
      other.sequence ≠ ticket.sequence ∧ other.key ≠ ticket.key)
    (answers : outcome.Answers m.inbox.correlator.signer m.inbox.correlator.hmacKey
      ticket.sequence) :
    ∃ m₁ m₂, Path m before m₁ ∧ m₁.PassesOver outcome m₂ ∧ Path m₂ after m' := by
  obtain ⟨past, m₁, sooner, later, m₂, rest, so_far, move, onward, rfl, rfl⟩ :=
    h.exists_move events_eq
  have apart : m₁.Lacks ticket := by
    refine so_far.lacks lacks fun other mem => others other ?_
    rw [events_eq, List.append_assoc, Event.tickets_append]
    exact List.mem_append_left _ mem
  rw [← so_far.sameKey.signer, ← so_far.sameKey.hmacKey] at answers
  obtain ⟨rfl, rfl, passes⟩ := move.passesOver (so_far.sound sound) answers asked apart.unclaimed
  refine ⟨m₁, m₂, ?_, passes, onward⟩
  rwa [List.append_nil]

/-- **An answer that lies ready** and that nobody waits for is read to its end, and then the call
does what it does behind that. -/
theorem Inbox.Next.passesOver [Stocked σ] {inbox : Inbox η} {s : σ} {frame : Frame} {rest : Bytes}
    (h : inbox.Next s frame rest) {sequence : Int64} {response : Command}
    (answers : frame.Answers inbox.correlator.signer inbox.correlator.hmacKey sequence response)
    (readable : frame.command.length ≤ inbox.reader.maxFrameSize)
    (asked : sequence ≠ greetingSequence)
    (unclaimed : ∀ request ∈ inbox.correlator.outstanding.entries, request.sequence ≠ sequence) :
    ∃ outcome connectionId s₁, frame.Arrives inbox.reader.maxFrameSize outcome ∧
      rest <+: Stocked.stock s₁ ∧
      inbox.receive s =
        let later := receiveFrom { inbox.correlator with connectionId }
          ⟨inbox.reader.maxFrameSize, .idle⟩ s₁
        { later with events := .received outcome :: later.events } := by
  obtain ⟨outcome, s₁, arrives, behind, receive_eq⟩ := h.receive
  have answered : outcome.Answers inbox.correlator.signer inbox.correlator.hmacKey sequence := by
    cases arrives with
    | whole => exact .whole answers
    | tooLarge =>
      rw [if_pos readable]
      exact .tooLarge answers
  obtain ⟨connectionId, accepted⟩ := Correlator.accept_of_unclaimed answered asked unclaimed
  refine ⟨outcome, connectionId, s₁, arrives, behind, ?_⟩
  rw [receive_eq, Correlator.toldOf, accepted]
  rfl

/-! ## All that comes later -/

namespace Multiplexer

/-- **What follows once a request has been taken back** after some turns, whatever turns come
later. -/
structure Silenced (m : Multiplexer σ η) (signer : Signer) (hmacKey : Bytes)
    (turns later : List (Turn σ η)) (ticket : Ticket η) : Prop where
  /-- Its handler is never called, not even at the end of the connection. -/
  silent : ∀ completion ∈ Event.completions (m.live (turns ++ .remove ticket.key :: later)).ended,
    completion.key ≠ ticket.key
  /-- It cannot be taken back again. -/
  absent : ((m.live (turns ++ .remove ticket.key :: later)).service.remove ticket.key).1 = false
  /-- If it waited for its turn, all that the channel has taken are frames of other requests. -/
  unwritten : ticket ∈ (m.live turns).service.outbox.queue.map QueuedRequest.ticket →
    ∃ out begun rest, Written (m.live (turns ++ .remove ticket.key :: later)).events
      (m.live (turns ++ .remove ticket.key :: later)).service out begun rest ∧
      (∀ request ∈ out, request.sequence ≠ ticket.sequence) ∧
      ∀ byte ∈ rest, byte.1 ≠ ticket.sequence
  /-- An answer to it that comes in is passed over, and nothing happens in that step but this. -/
  passed : ∀ before outcome after,
    (((m.live turns).service.remove ticket.key).2.live later).events =
      before ++ .received outcome :: after →
    outcome.Answers signer hmacKey ticket.sequence →
    ∃ m₁ m₂, Path ((m.live turns).service.remove ticket.key).2 before m₁ ∧
      m₁.PassesOver outcome m₂ ∧
      Path m₂ after (m.live (turns ++ .remove ticket.key :: later)).service
  /-- An answer to it that lies ready once the next run has written is taken in by that run, as a
  whole, and the run goes on behind it as if it had not been there. -/
  ready : ∀ [Stocked σ] frame rest response,
    let now := (m.live (turns ++ .remove ticket.key :: later)).service
    let sent := now.outbox.send now.inbox now.channel
    sent.inbox.Next sent.channel frame rest →
    frame.Answers signer hmacKey ticket.sequence response →
    frame.command.length ≤ sent.inbox.reader.maxFrameSize →
    ∃ outcome connectionId s₁, frame.Arrives sent.inbox.reader.maxFrameSize outcome ∧
      rest <+: Stocked.stock s₁ ∧
      sent.inbox.receive sent.channel =
        let onward := Inbox.receiveFrom { sent.inbox.correlator with connectionId }
          ⟨sent.inbox.reader.maxFrameSize, .idle⟩ s₁
        { onward with events := .received outcome :: onward.events }

/-- A life in which a request **is taken back** after some turns. -/
theorem live_removed {m : Multiplexer σ η} {turns : List (Turn σ η)} {key : RequestKey}
    (removed : ((m.live turns).service.remove key).1 = true) (later : List (Turn σ η)) :
    m.live (turns ++ .remove key :: later) =
      ⟨(m.live turns).events ++ .cancelled key ((m.live turns).service.handlerOf key) ::
          (((m.live turns).service.remove key).2.live later).events,
        (((m.live turns).service.remove key).2.live later).service⟩ := by
  rw [live_append, live_cons, turn_remove_of_true removed]
  rfl

/-- Whatever is queued **later** has other names than a request that could be taken back before. -/
theorem differs_of_later {m : Multiplexer σ η} (fresh : m.Fresh) {turns later : List (Turn σ η)}
    {ticket : Ticket η}
    (few : (Turn.submitted (turns ++ .remove ticket.key :: later)).length < 2 ^ 63)
    (mem : ticket ∈ (m.live turns).service.revocable) :
    ∀ other ∈ Event.tickets (((m.live turns).service.remove ticket.key).2.live later).events,
      other.sequence ≠ ticket.sequence ∧ other.key ≠ ticket.key := by
  have known := mem_tickets_of_live fresh (revocable_subset _ mem) []
  have rising := (numbered_live fresh _ few).rising
  rw [List.append_nil] at known
  rw [live_removed (remove_eq_true_iff.mpr ⟨ticket, mem, rfl⟩), ← List.singleton_append,
    Event.tickets_append, Event.tickets_append] at rising
  intro other inside
  have lt := (List.pairwise_append.mp rising).2.2 ticket known other
    (List.mem_append_right _ inside)
  constructor
  · intro same
    rw [same] at lt
    exact Int.lt_irrefl _ lt.1
  · intro same
    rw [same] at lt
    exact Nat.lt_irrefl _ lt.2

/-- A request that is taken back while it waits for its turn **stays unwritten**. -/
theorem exists_written_of_withdrawn {m : Multiplexer σ η} (fresh : m.Fresh)
    {turns later : List (Turn σ η)} {request : QueuedRequest η}
    (few : (Turn.submitted (turns ++ .remove request.key :: later)).length < 2 ^ 63)
    (waits : request ∈ (m.live turns).service.outbox.queue) :
    ∃ out begun rest, Written (m.live (turns ++ .remove request.key :: later)).events
      (m.live (turns ++ .remove request.key :: later)).service out begun rest ∧
      (∀ other ∈ out, other.sequence ≠ request.sequence) ∧
      ∀ byte ∈ rest, byte.1 ≠ request.sequence := by
  rw [List.append_cons] at few ⊢
  have numbered := numbered_live fresh _ few
  obtain ⟨before, _, _, written₀⟩ := (path_live m turns).written fresh
  have queued := Event.mem_requests.mp (written₀.order.subset (List.mem_append_right _ waits))
  have gone := gone_of_removed fresh (by
    rw [List.append_assoc, Turn.submitted_append, List.length_append] at few
    omega) queued rfl ⟨request, waits, rfl⟩
  have still : .queued request ∈ (m.live (turns ++ [.remove request.key])).events := by
    rw [live_append]
    exact List.mem_append_left _ queued
  obtain ⟨out, begun, rest, written⟩ :=
    (path_live m (turns ++ [.remove request.key] ++ later)).written fresh
  have others {byte : Int64 × UInt8}
      (mem : byte ∈ out.flatMap QueuedRequest.wire ++ rest) : byte.1 ≠ request.sequence :=
    gone.ne_of_wire still numbered (written.wire ▸ mem)
  refine ⟨out, begun, rest, written, fun other mem => ?_, fun byte mem => ?_⟩
  · -- every frame has a first byte
    have known := written.order.subset (List.mem_append_left _ (List.mem_append_left _ mem))
    obtain ⟨first, more, frame_eq⟩ := List.exists_cons_of_ne_nil
      ((path_live m _).frame_ne_nil (Event.mem_requests.mp known))
    have byte_mem : (other.sequence, first) ∈ out.flatMap QueuedRequest.wire :=
      List.mem_flatMap.mpr ⟨other, mem, by simp [QueuedRequest.wire, labelled, frame_eq]⟩
    exact others (List.mem_append_left _ byte_mem)
  · exact others (List.mem_append_right _ mem)

end Multiplexer

omit [Channel σ] in
/-- No request that has been queued has the number that everything **unsolicited** answers. -/
theorem Numbered.sequence_ne_greeting {past : List (Event η)} {m : Multiplexer σ η}
    (h : Numbered past m) {ticket : Ticket η} (mem : ticket ∈ Event.tickets past) :
    ticket.sequence ≠ greetingSequence := by
  intro same
  have nonneg := (h.bounded ticket mem).1
  rw [same] at nonneg
  exact absurd nonneg (by decide)

/-- What happens while requests are sent **queues nothing**. -/
theorem Outbox.tickets_send (outbox : Outbox η) (inbox : Inbox η) (s : σ) :
    Event.tickets (outbox.send inbox s).events = [] := by
  refine List.filterMap_eq_nil_iff.mpr fun event mem => ?_
  cases inSend_send outbox inbox s event mem <;> rfl

/-- A request that can be taken back **is silenced** once it has been. -/
theorem Multiplexer.silenced_of_revocable [Pollable σ] {patience : Nat} {signer : Signer}
    {options : Options} {s : σ} {m : Multiplexer σ η}
    (started : start patience signer options s = some (.ok m)) {turns later : List (Turn σ η)}
    {ticket : Ticket η} (mem : ticket ∈ (m.live turns).service.revocable)
    (few : (Turn.submitted (turns ++ .remove ticket.key :: later)).length < 2 ^ 63) :
    m.Silenced signer options.hmacKey turns later ticket := by
  have fresh := fresh_of_start started
  have removed := remove_eq_true_iff.mpr ⟨ticket, mem, rfl⟩
  have lived := live_removed removed later
  have numbered := numbered_live fresh turns (by
    rw [Turn.submitted_append, List.length_append] at few
    omega)
  have on_way := (path_live m turns).tickets_sublist
  rw [fresh.tickets, List.nil_append] at on_way
  have asked := numbered.sequence_ne_greeting (on_way.subset (revocable_subset _ mem))
  -- right behind the call nobody has a name of the request, and nobody gets one
  have lacks := lacks_of_remove numbered on_way mem
  have others := differs_of_later fresh few mem
  have onward := path_live ((m.live turns).service.remove ticket.key).2 later
  have past : Path m (m.live (turns ++ [.remove ticket.key])).events
      ((m.live turns).service.remove ticket.key).2 := by
    have path := path_live m (turns ++ [.remove ticket.key])
    rwa [live_removed removed []] at path ⊢
  obtain ⟨signer_eq, key_eq⟩ := past.correlator_of_start started
  constructor
  · have cancelled : .cancelled ticket.key ((m.live turns).service.handlerOf ticket.key) ∈
        (m.live (turns ++ .remove ticket.key :: later)).events := by
      rw [lived]
      exact List.mem_append_right _ (List.mem_cons_self ..)
    exact key_ne_of_cancelled fresh few cancelled
  · rw [lived]
    exact (onward.lacks lacks others).remove
  · intro waits
    obtain ⟨request, waiting, rfl⟩ := List.mem_map.mp waits
    exact exists_written_of_withdrawn fresh few waiting
  · intro before outcome after events_eq answers
    have sound := past.sound (coherent_of_start started).sound
    rw [← signer_eq, ← key_eq] at answers
    rw [lived]
    exact onward.exists_passesOver events_eq sound asked lacks others answers
  · rw [lived]
    intro _ frame rest response now sent next answers readable
    have sends := onward.trans (path_send now)
    have same := sends.sameKey
    rw [← signer_eq, ← key_eq, ← same.signer, ← same.hmacKey] at answers
    refine next.passesOver answers readable asked (sends.lacks lacks ?_).unclaimed
    rw [Event.tickets_append, Outbox.tickets_send, List.append_nil]
    exact others

/-- **Taking a request back is exact, and silent.** At every moment in the life of a connection that
was started, taking back succeeds just if there is a request with the key that waits for its turn or
its answer; while a request is being written, it does not. If it does not succeed, nothing has
changed. If it does, then whatever turns come later, with fewer submissions in all than there are
sequences: the handler is never called, and the request cannot be taken back again; if it waited for
its turn, nothing of it is written; and whenever an answer to it comes in, that is read as a whole
frame, and changes nothing for anybody else. -/
theorem cancellation_is_exact [Pollable σ] {patience : Nat} {signer : Signer} {options : Options}
    {s : σ} {m : Multiplexer σ η}
    (started : Multiplexer.start patience signer options s = some (.ok m))
    (turns : List (Turn σ η)) (key : RequestKey) :
    let now := (m.live turns).service
    ((now.remove key).1 = true ↔
      (∃ request ∈ now.outbox.queue, request.key = key) ∨
        ∃ request ∈ now.inbox.correlator.outstanding.entries, request.key = key) ∧
    ((Turn.submitted turns).length < 2 ^ 63 →
      ∀ current, now.outbox.current = some current → current.key = key →
        (now.remove key).1 = false) ∧
    ((now.remove key).1 = false → (now.remove key).2 = now) ∧
    ∀ ticket ∈ now.revocable, ticket.key = key → ∀ later,
      (Turn.submitted (turns ++ .remove key :: later)).length < 2 ^ 63 →
        m.Silenced signer options.hmacKey turns later ticket := by
  intro now
  have fresh := Multiplexer.fresh_of_start started
  have path : Path m (m.live turns).events now := path_live m turns
  refine ⟨?_, ?_, Multiplexer.remove_eq_self, ?_⟩
  · rw [Multiplexer.remove_eq_true_iff, Multiplexer.exists_revocable_iff]
  · rintro few current writes rfl
    refine Multiplexer.remove_of_current (path.inOrder fresh ?_) writes
    rwa [length_submissions_live]
  · rintro ticket mem rfl later few
    exact Multiplexer.silenced_of_revocable started mem few

section Late

open Simulation (Drive)

/-- Four requests, of which the first two **are out** and the others wait for their turn. -/
def fourTurns : List (Turn Drive Nat) :=
  [.submit (.withPin [1]) {} [] (some 10), .submit (.withPin [1]) {} [] (some 20), .run,
    .submit (.withPin [1]) {} [] (some 30), .submit (.withPin [1]) {} [] (some 40)]

/-- Only later, the drive **answers the first two**. -/
def lateTurns : List (Turn Drive Nat) :=
  [.elapse { key := [1], queue := [.bytes (Frame.encode ⟨firstAnswer, []⟩ ++
    Frame.encode ⟨saying (.withPin []) { ackSequence := some 1 }, []⟩)] }, .run]

/-- The first request is taken back while it waits for its answer, which is **passed over** when it
comes in; and if the third one is taken back, it **is never written**. -/
theorem cancellation_is_exact_late :
    ∃ (m m₁ m₂ : Multiplexer Drive Nat) (before after : List (Event Nat)),
      Multiplexer.start 2 (.constant [7]) { hmacKey := [1] } quietDrive = some (.ok m) ∧
      (∀ completion ∈ Event.completions (m.live (fourTurns ++ .remove 0 :: lateTurns)).ended,
        completion.key ≠ 0) ∧
      Path ((m.live fourTurns).service.remove 0).2 before m₁ ∧
      m₁.PassesOver (.frame ⟨firstAnswer, []⟩) m₂ ∧
      Path m₂ after (m.live (fourTurns ++ .remove 0 :: lateTurns)).service ∧
      ∃ out begun rest, Written (m.live (fourTurns ++ .remove 2 :: [.run])).events
        (m.live (fourTurns ++ .remove 2 :: [.run])).service out begun rest ∧
        out.map QueuedRequest.sequence = [0, 1, 3] := by
  have check : ((Multiplexer.start 2 (.constant [7]) { hmacKey := [1] } quietDrive :
      Option (Except Failure (Multiplexer Drive Nat))).any fun started =>
      started.toOption.any fun m =>
        decide ((m.live fourTurns).service.revocable.map (fun ticket =>
            (ticket.sequence, ticket.key)) = [(0, 0), (1, 1), (2, 2), (3, 3)] ∧
          (m.live fourTurns).service.outbox.queue.map (fun request =>
            (request.sequence, request.key)) = [(2, 2), (3, 3)] ∧
          ReadOutcome.frame ⟨firstAnswer, []⟩ ∈ Event.outcomes
            (((m.live fourTurns).service.remove 0).2.live lateTurns).events ∧
          Event.outgoing (m.live (fourTurns ++ .remove 2 :: [.run])).events = [0, 1, 3])) =
        true := by
    decide +kernel
  have check' : ((Envelope.decode firstAnswer).toOption.any fun envelope =>
      envelope.inner.toOption.any fun response =>
        decide (envelope.auth = .pin ∧ response.header.ackSequence = some 0)) = true := by
    decide +kernel
  obtain ⟨m, started, check⟩ := exists_started check
  obtain ⟨revocable, waiting, heard, outgoing⟩ := of_decide_eq_true check
  obtain ⟨envelope, decodes, check'⟩ := (Option.any_eq_true _ _).mp check'
  obtain ⟨response, inner, check'⟩ := (Option.any_eq_true _ _).mp check'
  obtain ⟨pin, acknowledges⟩ := of_decide_eq_true check'
  have answers : ReadOutcome.Answers (.constant [7]) [1] 0 (.frame ⟨firstAnswer, []⟩) :=
    .whole (.intro ⟨eq_ok_of_toOption decodes, fun hmac => by rw [pin] at hmac; cases hmac⟩
      (eq_ok_of_toOption inner)
      (by rw [Correlator.answeredSequence, if_neg (by rw [pin]; decide), acknowledges]))
  -- the first request waits for its answer
  obtain ⟨⟨_, _, handler⟩, first_mem, first_eq⟩ :=
    List.mem_map.mp (revocable ▸ List.mem_cons_self ..)
  cases first_eq
  obtain ⟨-, -, -, silences⟩ := cancellation_is_exact started fourTurns 0
  have silenced := silences ⟨0, 0, handler⟩ first_mem rfl lateTurns (by decide)
  obtain ⟨before, after, events_eq⟩ := List.append_of_mem (Event.mem_outcomes.mp heard)
  obtain ⟨m₁, m₂, so_far, passes, onward⟩ := silenced.passed before _ after events_eq answers
  -- and the third one for its turn
  obtain ⟨⟨frame, _, _, handler'⟩, third_mem, third_eq⟩ :=
    List.mem_map.mp (waiting ▸ List.mem_cons_self ..)
  cases third_eq
  have waits : ⟨2, 2, handler'⟩ ∈ (m.live fourTurns).service.outbox.queue.map
      QueuedRequest.ticket := List.mem_map_of_mem third_mem
  obtain ⟨-, -, -, silences'⟩ := cancellation_is_exact started fourTurns 2
  have silenced' := silences' ⟨2, 2, handler'⟩ (List.mem_append_right _ waits) rfl [.run]
    (by decide)
  obtain ⟨out, begun, rest, written, -, -⟩ := silenced'.unwritten waits
  exact ⟨m, m₁, m₂, before, after, started, silenced.silent, so_far, passes, onward, out, begun,
    rest, written, written.outgoing.symm.trans outgoing⟩

end Late

end DriveLink
