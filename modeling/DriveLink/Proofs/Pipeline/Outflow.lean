import DriveLink.Proofs.Pipeline.Delivery
import DriveLink.Proofs.Pipeline.Metering

/-! # The stream of requests

All that a connection ever writes is one frame behind the other, each as it was made when its
request was submitted, in the order of their numbers, and at the end perhaps the first bytes of one
more. A number that is missing among them belongs to a request that was taken back in time, or that
no frame could be made of.

* `Multiplexer.Submits`, `Multiplexer.Withdraws` — what the owner did with a number;
* `Path.gauge_of_tracked` — what the meter shows when a request begins to wait for its answer;
* `exists_of_missing` — what has become of a number that is missing;
* `outbound_stream` — the stream, at every moment of a life. -/

namespace DriveLink

variable {σ η : Type} [Channel σ]

/-! ## What the owner does -/

omit [Channel σ] in
/-- An outbox that works makes every request **that it can make a frame of**. -/
theorem Outbox.exists_failure_of_prepare {outbox : Outbox η} (working : outbox.failed = false)
    {envelope : Envelope} {command : Command} {value : Bytes} {handler : Option η}
    {key : RequestKey} {connectionId : Option Int64} {status : Status}
    (h : outbox.prepare envelope command value handler key connectionId = .error status) :
    ∃ failure, outbox.frameOf envelope
      (addressed command outbox.nextSequence connectionId) value = .error failure := by
  unfold prepare at h
  simp only at h
  rw [if_neg (Bool.eq_false_iff.mp working)] at h
  split at h
  · cases h
  · exact ⟨_, by assumption⟩

namespace Multiplexer

/-- Only **submitting** queues a request, and it is the one that is prepared then. -/
theorem prepare_of_queued {m : Multiplexer σ η} {turn : Turn σ η} {request : QueuedRequest η}
    (mem : .queued request ∈ (m.turn turn).events) :
    ∃ envelope command value handler, turn = .submit envelope command value handler ∧
      m.failed = false ∧
      m.outbox.prepare envelope command value handler m.nextKey m.connectionId = .ok request := by
  cases turn with
  | submit envelope command value handler =>
    cases alive : m.failed with
    | true =>
      rw [turn_submit_of_failed alive] at mem
      simp at mem
    | false =>
      cases prepared :
          m.outbox.prepare envelope command value handler m.nextKey m.connectionId with
      | error status =>
        rw [turn_submit_of_error alive prepared] at mem
        simp at mem
      | ok made =>
        rw [turn_submit_of_ok alive prepared] at mem
        have same : request = made := by simpa using mem
        exact ⟨envelope, command, value, handler, rfl, rfl, same ▸ prepared⟩
  | run => cases inRun_run m _ mem
  | remove key =>
    rw [turn] at mem
    split at mem <;> simp at mem
  | elapse channel => exact absurd mem List.not_mem_nil

/-- Only a request that **waits** is taken back, for its turn or for its answer. -/
theorem exists_of_cancelled {m : Multiplexer σ η} {turn : Turn σ η} {key : RequestKey}
    {handler : Option η} (mem : .cancelled key handler ∈ (m.turn turn).events) :
    turn = .remove key ∧
      ((∃ request ∈ m.outbox.queue, request.key = key) ∨
        ∃ request ∈ m.inbox.correlator.outstanding.entries, request.key = key) := by
  cases turn with
  | submit envelope command value handler' =>
    cases alive : m.failed with
    | true =>
      rw [turn_submit_of_failed alive] at mem
      simp at mem
    | false =>
      cases prepared :
          m.outbox.prepare envelope command value handler' m.nextKey m.connectionId with
      | error status =>
        rw [turn_submit_of_error alive prepared] at mem
        simp at mem
      | ok made =>
        rw [turn_submit_of_ok alive prepared] at mem
        simp at mem
  | run => cases inRun_run m _ mem
  | remove key' =>
    cases found : m.outbox.queue.find? (·.key = key') with
    | some request =>
      rw [turn_remove_of_queued found] at mem
      obtain ⟨rfl, -⟩ : key = key' ∧ handler = request.handler := by simpa using mem
      have same := List.find?_some found
      exact ⟨rfl, .inl ⟨request, List.mem_of_find?_eq_some found, of_decide_eq_true same⟩⟩
    | none =>
      cases tracked : m.inbox.correlator.outstanding.entries.find? (·.key = key') with
      | some request =>
        rw [turn_remove_of_outstanding found tracked] at mem
        obtain ⟨rfl, -⟩ : key = key' ∧ handler = some request.handler := by simpa using mem
        have same := List.find?_some tracked
        exact ⟨rfl, .inr ⟨request, List.mem_of_find?_eq_some tracked, of_decide_eq_true same⟩⟩
      | none =>
        rw [turn_remove_of_absent found tracked] at mem
        exact absurd mem List.not_mem_nil
  | elapse channel => exact absurd mem List.not_mem_nil

/-- In some turn the owner **submits** a request that gets the number, and this is what making a
frame of it comes to. -/
def Submits (m : Multiplexer σ η) (turns : List (Turn σ η)) (sequence : Int64)
    (framed : Except Failure Bytes) : Prop :=
  ∃ before envelope command value handler after,
    turns = before ++ .submit envelope command value handler :: after ∧
      (m.live before).service.failed = false ∧
      (m.live before).service.outbox.nextSequence = sequence ∧
      (m.live before).service.outbox.frameOf envelope
        (Outbox.addressed command sequence (m.live before).service.connectionId) value = framed

/-- In some turn the owner **takes the request back** that has the number, while it waits for its
turn. -/
def Withdraws (m : Multiplexer σ η) (turns : List (Turn σ η)) (sequence : Int64) : Prop :=
  ∃ before key after, turns = before ++ .remove key :: after ∧
    ∃ request ∈ (m.live before).service.outbox.queue,
      request.key = key ∧ request.sequence = sequence

theorem Submits.append {m : Multiplexer σ η} {turns : List (Turn σ η)} {sequence : Int64}
    {framed : Except Failure Bytes} (h : m.Submits turns sequence framed)
    (later : List (Turn σ η)) : m.Submits (turns ++ later) sequence framed := by
  obtain ⟨before, envelope, command, value, handler, after, rfl, submits⟩ := h
  refine ⟨before, envelope, command, value, handler, after ++ later, ?_, submits⟩
  rw [List.append_assoc, List.cons_append]

/-- **What is queued was submitted**, and its frame was made then. -/
theorem submits_of_queued {m : Multiplexer σ η} {turns : List (Turn σ η)}
    {request : QueuedRequest η} (mem : .queued request ∈ (m.live turns).events) :
    m.Submits turns request.sequence (.ok request.frame) := by
  obtain ⟨before, turn, after, rfl, now⟩ := exists_turn mem
  obtain ⟨envelope, command, value, handler, rfl, alive, prepared⟩ := prepare_of_queued now
  obtain ⟨-, frame, framed, rfl⟩ := Outbox.exists_frame_of_prepare prepared
  exact ⟨before, envelope, command, value, handler, after, rfl, alive, rfl, framed⟩

/-! ## Numbers that are given out -/

end Multiplexer

/-- Steps that submit nothing **give out no number**. -/
theorem Path.nextSequence_eq {m m' : Multiplexer σ η} {events : List (Event η)}
    (h : Path m events m') (none : Event.submissions events = []) :
    m'.outbox.nextSequence = m.outbox.nextSequence := by
  induction h with
  | done m => rfl
  | step move _ ih =>
    rw [Event.submissions_append, List.append_eq_nil_iff] at none
    obtain ⟨now, later⟩ := none
    have still := move.counts
    cases still with
    | still _ _ _ sequence_eq => exact (ih later).trans sequence_eq
    | refuse handler one =>
      rw [now] at one
      cases one
    | queue handler one =>
      rw [now] at one
      cases one

namespace Multiplexer

/-- Turns that submit nothing give out no number, either. -/
theorem nextSequence_turn {m : Multiplexer σ η} {turn : Turn σ η}
    (none : Turn.submitted [turn] = []) :
    (m.turn turn).service.outbox.nextSequence = m.outbox.nextSequence := by
  refine (path_turn m turn).nextSequence_eq ?_
  rw [← List.map_eq_nil_iff (f := Prod.snd), submissions_turn, none]

/-- **Every number that is given out** belongs to a request that is queued, or that no frame could
be made of. -/
theorem exists_of_allotted {m : Multiplexer σ η} (coherent : m.Coherent) (fresh : m.Fresh)
    {turns : List (Turn σ η)} (few : (Turn.submitted turns).length < 2 ^ 63) {sequence : Int64}
    (nonneg : 0 ≤ sequence.toInt)
    (lt : sequence.toInt < (m.live turns).service.outbox.nextSequence.toInt) :
    (∃ request, .queued request ∈ (m.live turns).events ∧ request.sequence = sequence) ∨
      ∃ failure, m.Submits turns sequence (.error failure) := by
  induction turns using List.reverseRecOn with
  | nil =>
    rw [live, fresh.sequence, Int64.toInt_zero] at lt
    omega
  | append_singleton turns turn ih =>
    have count : (Turn.submitted (turns ++ [turn])).length =
        (Turn.submitted turns).length + (Turn.submitted [turn]).length := by
      rw [Turn.submitted, List.filterMap_append, List.length_append]
      rfl
    have numbered := numbered_live fresh turns (by omega)
    rw [live_concat] at lt ⊢
    -- a number that had been given out before still belongs to the same request
    have earlier (old : sequence.toInt < (m.live turns).service.outbox.nextSequence.toInt) :
        (∃ request, .queued request ∈ (m.live turns).events ++
            ((m.live turns).service.turn turn).events ∧ request.sequence = sequence) ∨
          ∃ failure, m.Submits (turns ++ [turn]) sequence (.error failure) := by
      rcases ih (by omega) old with ⟨request, queued, same⟩ | ⟨failure, submits⟩
      · exact .inl ⟨request, List.mem_append_left _ queued, same⟩
      · exact .inr ⟨failure, submits.append [turn]⟩
    cases turn with
    | submit envelope command value handler =>
      cases alive : (m.live turns).service.failed with
      | true =>
        rw [turn_submit_of_failed alive] at lt
        exact earlier lt
      | false =>
        by_cases old : sequence.toInt < (m.live turns).service.outbox.nextSequence.toInt
        · exact earlier old
        have one : (Turn.submitted
            ([.submit envelope command value handler] : List (Turn σ η))).length = 1 := rfl
        have next : ((m.live turns).service.outbox.nextSequence + 1).toInt =
            (m.live turns).service.outbox.nextSequence.toInt + 1 := by
          refine Int64.toInt_add_one numbered.sequence_nonneg ?_
          have := numbered.sequence_le
          rw [length_submissions_live] at this
          omega
        cases prepared : (m.live turns).service.outbox.prepare envelope command value handler
            (m.live turns).service.nextKey (m.live turns).service.connectionId with
        | error status =>
          rw [turn_submit_of_error alive prepared] at lt
          have lt : sequence.toInt < ((m.live turns).service.outbox.nextSequence + 1).toInt := lt
          have same : (m.live turns).service.outbox.nextSequence = sequence :=
            Int64.toInt_inj.mp (by omega)
          obtain ⟨failure, framed⟩ :=
            Outbox.exists_failure_of_prepare ((coherent.live turns).outbox alive) prepared
          rw [same] at framed
          exact .inr ⟨failure, turns, envelope, command, value, handler, [], rfl, alive, same,
            framed⟩
        | ok request =>
          rw [turn_submit_of_ok alive prepared] at lt ⊢
          have lt : sequence.toInt < ((m.live turns).service.outbox.nextSequence + 1).toInt := lt
          have same : (m.live turns).service.outbox.nextSequence = sequence :=
            Int64.toInt_inj.mp (by omega)
          obtain ⟨-, frame, -, rfl⟩ := Outbox.exists_frame_of_prepare prepared
          exact .inl ⟨_, List.mem_append_right _ (List.mem_cons_of_mem _ (List.mem_cons_self ..)),
            same⟩
    | _ =>
      rw [nextSequence_turn rfl] at lt
      exact earlier lt

/-! ## Numbers that are missing -/

/-- A request that was ever on its way **was queued**. -/
theorem mem_tickets_of_live {m : Multiplexer σ η} (fresh : m.Fresh) {before : List (Turn σ η)}
    {ticket : Ticket η} (mem : ticket ∈ (m.live before).service.transit.tickets)
    (after : List (Turn σ η)) : ticket ∈ Event.tickets (m.live (before ++ after)).events := by
  have queued := (path_live m before).tickets_sublist.subset mem
  rw [fresh.tickets, List.nil_append] at queued
  rw [live_append, Event.tickets_append]
  exact List.mem_append_left _ queued

/-- A request that is taken back and **never out** was taken back while it waited for its turn. -/
theorem withdraws_of_cancelled {m : Multiplexer σ η} (fresh : m.Fresh) {turns : List (Turn σ η)}
    (numbered : Numbered (m.live turns).events (m.live turns).service)
    {request : QueuedRequest η} (queued : .queued request ∈ (m.live turns).events)
    (unsent : .sent request.sequence ∉ (m.live turns).events) {handler : Option η}
    (cancelled : .cancelled request.key handler ∈ (m.live turns).events) :
    m.Withdraws turns request.sequence := by
  have known : request.ticket ∈ Event.tickets (m.live turns).events :=
    List.mem_filterMap.mpr ⟨_, queued, rfl⟩
  obtain ⟨before, turn, after, rfl, now⟩ := exists_turn cancelled
  -- whatever is on its way under that key is this request
  have same {ticket : Ticket η} (mem : ticket ∈ (m.live before).service.transit.tickets)
      (same_key : ticket.key = request.key) : ticket = request.ticket :=
    numbered.ticket_eq (mem_tickets_of_live fresh mem _) known (.inr same_key)
  obtain ⟨rfl, ⟨other, waits, same_key⟩ | ⟨entry, waits, same_key⟩⟩ := exists_of_cancelled now
  · have on_way : other.ticket ∈ (m.live before).service.transit.tickets :=
      List.mem_append_right _ (List.mem_append_right _ (List.mem_map_of_mem waits))
    exact ⟨before, request.key, after, rfl, other, waits, same_key,
      congrArg Ticket.sequence (same on_way same_key)⟩
  · have awaits : entry.ticket ∈ (m.live before).service.transit.awaiting :=
      List.mem_map_of_mem waits
    have sequence_eq := congrArg Ticket.sequence (same (List.mem_append_left _ awaits) same_key)
    -- who waits for an answer is out
    have out := (path_live m before).awaiting_sublist.subset (List.mem_map_of_mem awaits)
    have nobody : m.transit.awaiting = [] := (List.append_eq_nil_iff.mp fresh.tickets).1
    rw [nobody, List.map_nil, List.nil_append, sequence_eq] at out
    refine absurd ?_ unsent
    rw [live_append]
    exact List.mem_append_left _ (Event.mem_outgoing.mp out)

end Multiplexer

omit [Channel σ] in
/-- Requests are queued **in the order of their numbers**. -/
theorem Numbered.rising_requests {past : List (Event η)} {m : Multiplexer σ η}
    (h : Numbered past m) :
    (Event.requests past).Pairwise fun q r => q.sequence.toInt < r.sequence.toInt := by
  have rising := h.rising
  rw [Event.tickets_eq, List.pairwise_map] at rising
  exact rising.imp fun lt => lt.1

omit [Channel σ] in
/-- An outbox has begun **at most one** request. -/
theorem Outbox.Begun.eq_of_mem {outbox : Outbox η} {begun : List (QueuedRequest η)}
    {rest : List (Int64 × UInt8)} (h : outbox.Begun begun rest) {first second : QueuedRequest η}
    (first_mem : first ∈ begun) (second_mem : second ∈ begun) : first = second := by
  cases h with
  | idle free => exact absurd first_mem List.not_mem_nil
  | writing request current frame_eq =>
    rw [List.mem_singleton.mp first_mem, List.mem_singleton.mp second_mem]
  | broken request failed free frame_eq =>
    rw [List.mem_singleton.mp first_mem, List.mem_singleton.mp second_mem]

/-- A request **that was overtaken** by one that has been begun was taken back while it waited for
its turn. -/
theorem Written.withdraws_of_overtaken {m : Multiplexer σ η} (fresh : m.Fresh)
    {turns : List (Turn σ η)}
    (numbered : Numbered (m.live turns).events (m.live turns).service)
    {out begun : List (QueuedRequest η)} {rest : List (Int64 × UInt8)}
    (written : Written (m.live turns).events (m.live turns).service out begun rest)
    {request other : QueuedRequest η} (mem : request ∈ out ++ begun)
    (queued : .queued other ∈ (m.live turns).events)
    (lt : other.sequence.toInt < request.sequence.toInt)
    (missing : other.sequence ∉ (out ++ begun).map QueuedRequest.sequence) :
    m.Withdraws turns other.sequence := by
  have rising := numbered.rising_requests.sublist written.order
  have begins := List.pairwise_append.mp (List.pairwise_append.mp rising).1
  cases written.fate other (Event.mem_requests.mpr queued) with
  | kept inside =>
    rcases List.mem_append.mp inside with out | waits
    · exact absurd (List.mem_map_of_mem out) missing
    -- whoever still waits for its turn has a greater number
    · have later := (List.pairwise_append.mp rising).2.2 request mem other waits
      omega
  | cancelled mem =>
    refine Multiplexer.withdraws_of_cancelled fresh numbered queued ?_ mem
    intro sent
    rw [← Event.mem_outgoing, written.outgoing] at sent
    rw [List.map_append] at missing
    exact missing (List.mem_append_left _ sent)
  | @dropped first failed first_mem behind =>
    -- so has whoever stood behind the request with which writing failed
    have later := List.pairwise_pair.mp (numbered.rising_requests.sublist behind)
    rcases List.mem_append.mp mem with out | last
    · have sooner := begins.2.2 request out first first_mem
      omega
    · have same := written.current.eq_of_mem last first_mem
      rw [same] at lt
      omega

/-- **What has become of a number that is missing** before a request that has been begun: it belongs
to a request that was taken back while it waited for its turn, or that no frame could be made of. -/
theorem exists_of_missing {m : Multiplexer σ η} (coherent : m.Coherent) (fresh : m.Fresh)
    {turns : List (Turn σ η)} (few : (Turn.submitted turns).length < 2 ^ 63)
    {out begun : List (QueuedRequest η)} {rest : List (Int64 × UInt8)}
    (written : Written (m.live turns).events (m.live turns).service out begun rest)
    {request : QueuedRequest η} (mem : request ∈ out ++ begun) {sequence : Int64}
    (nonneg : 0 ≤ sequence.toInt) (lt : sequence.toInt < request.sequence.toInt)
    (missing : sequence ∉ (out ++ begun).map QueuedRequest.sequence) :
    m.Withdraws turns sequence ∨ ∃ failure, m.Submits turns sequence (.error failure) := by
  have numbered := numbered_live fresh turns few
  have known : request.ticket ∈ Event.tickets (m.live turns).events := by
    rw [Event.tickets_eq]
    exact List.mem_map_of_mem (written.order.subset (List.mem_append_left _ mem))
  have allotted := (numbered.bounded request.ticket known).2.1
  rcases Multiplexer.exists_of_allotted coherent fresh few nonneg (Int.lt_trans lt allotted) with
    ⟨other, queued, rfl⟩ | unmade
  · exact .inl (written.withdraws_of_overtaken fresh numbered mem queued lt missing)
  · exact .inr unmade

/-! ## Requests that begin to wait -/

/-- A request begins to wait for its answer **directly behind its last byte and the flush**. -/
theorem Move.of_tracked {m m' : Multiplexer σ η} {sooner later : List (Event η)}
    {entry : OutstandingRequest η} (h : Move m (sooner ++ .tracked entry :: later) m') :
    ∃ request writer channel, m.outbox.current = some request ∧
      request.writer.write m.channel = (.done, writer, channel) ∧
      sooner = [.took request.sequence (request.writer.taken writer), .sent request.sequence] ∧
      request.ticket = entry.ticket := by
  have mem : .tracked entry ∈ sooner ++ .tracked entry :: later :=
    List.mem_append_right _ (List.mem_cons_self ..)
  generalize step_eq : sooner ++ .tracked entry :: later = step at h mem
  cases h with
  | @release request writer channel working current write =>
    have releases := Outbox.releases_release request m.inbox
    generalize Outbox.release request m.inbox = released at releases step_eq mem
    cases releases with
    | @tracked handler some fresh =>
      obtain ⟨first, sequence, key, _⟩ := request
      subst some
      refine ⟨_, writer, channel, current, write, ?_⟩
      rcases sooner with _ | ⟨first, _ | ⟨second, _ | ⟨third, sooner⟩⟩⟩ <;> simp at step_eq
      obtain ⟨rfl, rfl, rfl, -⟩ := step_eq
      exact ⟨rfl, rfl⟩
    | unasked none => simp at mem
    | refused some taken => simp at mem
  | _ => simp at mem

omit [Channel σ] in
/-- The bytes of some requests are **their frames**. -/
theorem map_snd_wire (requests : List (QueuedRequest η)) :
    (requests.flatMap QueuedRequest.wire).map Prod.snd =
      requests.flatMap QueuedRequest.frame := by
  rw [List.map_flatMap]
  refine List.flatMap_congr fun request _ => ?_
  rw [QueuedRequest.wire, labelled, List.map_map]
  exact List.map_id' _

/-- **When a request begins to wait** for its answer, the channel has taken every byte of it behind
those of the requests before it, and a flush has made progress since. -/
theorem Path.gauge_of_tracked {m m' : Multiplexer σ η} {events before after : List (Event η)}
    {entry : OutstandingRequest η} (h : Path m events m') (fresh : m.Fresh)
    (events_eq : events = before ++ .tracked entry :: after) (meter : Gauge) :
    ∃ (earlier : List (QueuedRequest η)) (request : QueuedRequest η),
      request.ticket = entry.ticket ∧
      (earlier ++ [request]).Sublist (Event.requests before) ∧
      meter.afterAll before =
        ⟨meter.accepted ++ (earlier ++ [request]).flatMap QueuedRequest.frame,
          meter.accepted ++ (earlier ++ [request]).flatMap QueuedRequest.frame⟩ := by
  obtain ⟨past, m₁, sooner, later, m₂, rest, so_far, move, -, rfl, -⟩ := h.exists_move events_eq
  obtain ⟨current, writer, channel, writes, write, rfl, same⟩ := move.of_tracked
  obtain ⟨out, begun, rest, written⟩ := so_far.written fresh
  obtain ⟨request, bytes, left, rfl, rfl, rfl, frame_eq⟩ := written.current.of_current writes
  have whole := FrameWriter.frame_eq_of_write frame_eq write
  rw [FrameWriter.left_of_done write, List.append_nil] at whole
  refine ⟨out, request, same, ?_, ?_⟩
  · have order := (List.sublist_append_left _ m₁.outbox.queue).trans written.order
    rw [Event.requests_append]
    exact order.trans (List.sublist_append_left _ _)
  · -- what had been taken of the frame, and what is taken now, are all of it
    have bytes_eq : (meter.afterAll past).accepted ++ FrameWriter.taken ⟨left⟩ writer =
        meter.accepted ++ (out ++ [request]).flatMap QueuedRequest.frame := by
      have labels : (labelled request.sequence bytes).map Prod.snd = bytes := by
        rw [labelled, List.map_map]
        exact List.map_id' bytes
      rw [Gauge.accepted_afterAll, written.wire, List.map_append, map_snd_wire, labels,
        List.flatMap_append, List.flatMap_singleton, ← whole]
      simp only [List.append_assoc]
    rw [Gauge.afterAll_append, ← bytes_eq]
    rfl

omit [Channel σ] in
/-- **What has been pushed out stays so.** -/
theorem Gauge.pushed_prefix {meter : Gauge} (behind : meter.pushed <+: meter.accepted)
    (events : List (Event η)) : meter.pushed <+: (meter.afterAll events).pushed := by
  induction events generalizing meter with
  | nil => exact List.prefix_refl _
  | cons event events ih =>
    rw [afterAll_cons]
    cases event with
    | took sequence bytes =>
      have further : (meter.take bytes).pushed <+: (meter.take bytes).accepted :=
        behind.trans (List.prefix_append _ _)
      exact ih further
    | sent sequence =>
      have pushed : meter.push.pushed <+: meter.push.accepted := List.prefix_refl _
      exact behind.trans (ih pushed)
    | _ => exact ih behind

/-! ## The stream -/

open Metered (gauge)

variable [Metered σ]

/-- **The stream of requests** that a connection has written in some turns: those that are out, then
perhaps one that has been begun, with the bytes that have been taken of it. -/
structure Multiplexer.Streams (m : Multiplexer σ η) (turns : List (Turn σ η))
    (out begun : List (QueuedRequest η)) (rest : List (Int64 × UInt8)) : Prop where
  /-- The channel has taken one frame behind the other, and the bytes of the one that is begun. -/
  accepted : (gauge (m.live turns).service.channel).accepted =
    (gauge m.channel).accepted ++ (out.flatMap QueuedRequest.frame ++ rest.map Prod.snd)
  /-- What is begun is being written, or was when writing failed. -/
  current : (m.live turns).service.outbox.Begun begun rest
  /-- The requests that are out are those behind which a flush has made progress. -/
  outgoing : Event.outgoing (m.live turns).events = out.map QueuedRequest.sequence
  /-- Every request is written once at most, in the order in which they were submitted. -/
  order : (out ++ begun).Sublist (Event.requests (m.live turns).events)
  /-- Each frame is the one that was made when its request was submitted. -/
  made : ∀ request ∈ out ++ begun, m.Submits turns request.sequence (.ok request.frame)
  rising : (Turn.submitted turns).length < 2 ^ 63 →
    (out ++ begun).Pairwise fun q r => q.sequence.toInt < r.sequence.toInt
  /-- Of the numbers before a request that has been begun, only those are missing whose requests
  were taken back in time, or could not be made a frame of. -/
  missing : (Turn.submitted turns).length < 2 ^ 63 → ∀ request ∈ out ++ begun, ∀ sequence : Int64,
    0 ≤ sequence.toInt → sequence.toInt < request.sequence.toInt →
    sequence ∉ (out ++ begun).map QueuedRequest.sequence →
    m.Withdraws turns sequence ∨ ∃ failure, m.Submits turns sequence (.error failure)
  /-- When a request begins to wait for its answer, its frame has been taken and pushed out. -/
  tracked : ∀ before entry after, (m.live turns).events = before ++ .tracked entry :: after →
    ∃ (earlier : List (QueuedRequest η)) (request : QueuedRequest η),
      request.ticket = entry.ticket ∧
      (earlier ++ [request]).Sublist (Event.requests before) ∧
      (gauge m.channel).afterAll before =
        ⟨(gauge m.channel).accepted ++ (earlier ++ [request]).flatMap QueuedRequest.frame,
          (gauge m.channel).accepted ++ (earlier ++ [request]).flatMap QueuedRequest.frame⟩
  /-- The frames of all requests that wait for their answers have been pushed out. -/
  waiting : ∀ entry ∈ (m.live turns).service.inbox.correlator.outstanding.entries,
    ∃ (earlier : List (QueuedRequest η)) (request : QueuedRequest η),
      request.ticket = entry.ticket ∧
      (earlier ++ [request]).Sublist (Event.requests (m.live turns).events) ∧
      (gauge m.channel).accepted ++ (earlier ++ [request]).flatMap QueuedRequest.frame <+:
        (gauge (m.live turns).service.channel).pushed

/-- **The stream of requests is whole.** Whatever the owner of a connection that was started does,
and in whatever pieces its channel takes what it is offered, at every moment the channel has taken
the frames of some requests, in the order in which they were submitted, and perhaps the first bytes
of one more. -/
theorem outbound_stream [Pollable σ] {patience : Nat} {signer : Signer} {options : Options}
    {s : σ} {m : Multiplexer σ η}
    (started : Multiplexer.start patience signer options s = some (.ok m))
    {turns : List (Turn σ η)} (steady : m.Steady turns) :
    ∃ out begun rest, m.Streams turns out begun rest := by
  have fresh := Multiplexer.fresh_of_start started
  have coherent := Multiplexer.coherent_of_start started
  have path := path_live m turns
  have shows := gauge_live coherent steady
  obtain ⟨out, begun, rest, written⟩ := path.written fresh
  have order := (List.sublist_append_left _ _).trans written.order
  refine ⟨out, begun, rest, ?_⟩
  constructor
  · rw [shows, Gauge.accepted_afterAll, written.wire, List.map_append, map_snd_wire]
  · exact written.current
  · exact written.outgoing
  · exact order
  · intro request mem
    exact Multiplexer.submits_of_queued (Event.mem_requests.mp (order.subset mem))
  · intro few
    exact (numbered_live fresh turns few).rising_requests.sublist order
  · intro few request mem sequence nonneg lt missing
    exact exists_of_missing coherent fresh few written mem nonneg lt missing
  · intro before entry after events_eq
    exact path.gauge_of_tracked fresh events_eq (gauge m.channel)
  · intro entry mem
    obtain ⟨before, after, events_eq⟩ := List.append_of_mem (path.tracked fresh mem)
    obtain ⟨earlier, request, same, sublist, meter_eq⟩ :=
      path.gauge_of_tracked fresh events_eq (gauge m.channel)
    refine ⟨earlier, request, same, ?_, ?_⟩
    · rw [events_eq, Event.requests_append]
      exact sublist.trans (List.sublist_append_left _ _)
    -- nothing that happens later takes back what was pushed out by then
    · have level (bytes : Bytes) :
          (Gauge.mk bytes bytes).pushed <+: (Gauge.mk bytes bytes).accepted := List.prefix_refl _
      rw [shows, events_eq, Gauge.afterAll_append, meter_eq]
      exact Gauge.pushed_prefix (level _) _

/-! ## A channel that takes little -/

section Slow

open Simulation (Drive)

/-- A drive whose channel takes the first request as a whole, and **little** of what comes next. -/
def slowDrive : Drive where
  key := [1]
  queue := [.bytes hello]
  writes := [.upTo 500, .upTo 3, .block]

/-- Three requests are submitted, and the second one is taken back in time. -/
def slowTurns : List (Turn (Recorder Drive) Nat) :=
  [.submit (.withPin [1]) {} [] (some 10), .submit (.withPin [1]) {} [] (some 20),
    .submit (.withPin [1]) {} [] (some 30), .remove 1, .run]

/-- A slow channel has taken the first request and **some bytes of the third**, and the second is
missing because it was taken back. -/
theorem outbound_stream_slow :
    ∃ (m : Multiplexer (Recorder Drive) Nat) (out begun : List (QueuedRequest Nat))
      (rest : List (Int64 × UInt8)),
      Multiplexer.start 2 (.constant [7]) { hmacKey := [1] } { channel := slowDrive } =
        some (.ok m) ∧
      m.Steady slowTurns ∧
      out.map QueuedRequest.sequence = [0] ∧ begun.map QueuedRequest.sequence = [2] ∧
      (gauge (m.live slowTurns).service.channel).accepted =
        out.flatMap QueuedRequest.frame ++ rest.map Prod.snd ∧
      (m.Withdraws slowTurns 1 ∨ ∃ failure, m.Submits slowTurns 1 (.error failure)) := by
  have check : ((Multiplexer.start 2 (.constant [7]) { hmacKey := [1] } { channel := slowDrive } :
      Option (Except Failure (Multiplexer (Recorder Drive) Nat))).any fun started =>
      started.toOption.any fun m =>
        decide (Event.outgoing (m.live slowTurns).events = [0] ∧
          (m.live slowTurns).service.outbox.current.map InFlight.sequence = some 2 ∧
          (gauge m.channel).accepted = [])) = true := by
    decide +kernel
  obtain ⟨m, started, check⟩ := exists_started check
  obtain ⟨outgoing, writes, empty⟩ := of_decide_eq_true check
  have steady : m.Steady slowTurns := .of_none fun channel => by simp [slowTurns]
  obtain ⟨out, begun, rest, streams⟩ := outbound_stream started steady
  have out_eq : out.map QueuedRequest.sequence = [0] := streams.outgoing.symm.trans outgoing
  obtain ⟨current, current_eq, sequence_eq⟩ := Option.map_eq_some_iff.mp writes
  obtain ⟨third, bytes, left, rfl, -, rfl, -⟩ := streams.current.of_current current_eq
  have accepted := streams.accepted
  rw [empty, List.nil_append] at accepted
  have third_eq : third.sequence = 2 := sequence_eq
  have missing := streams.missing (by decide) third
    (List.mem_append_right _ (List.mem_singleton_self _)) 1 (by decide) (by rw [third_eq]; decide)
    (by rw [List.map_append, out_eq, List.map_singleton, third_eq]; decide)
  refine ⟨m, out, [third], rest, started, steady, out_eq, ?_, accepted, missing⟩
  rw [List.map_singleton, third_eq]

end Slow

end DriveLink
