import DriveLink.Proofs.Pipeline.Hearing

/-! # Requests that belong together

Requests may carry a common number, that of a batch. They are queued one after the other, perhaps
with other requests in between, and each of them is written unless it is taken back while it waits
for its turn. So if none of them is taken back in time and the last one has been written, the drive
hears all of them, in that order and nothing else under the number.

* `QueuedRequest.carries`, `Multiplexer.carried` — the requests that carry a number;
* `Turn.Spares` — turns that submit none;
* `Withdraws.of_append`, `not_withdraws_of_later` — when requests are taken back;
* `Path.mem_unsent_of_wire` — whose bytes can still be taken;
* `filter_heardIn_of_last` — all of them are heard if the last one is;
* `filter_heardIn_of_drained` — and if nothing is left to write. -/

namespace DriveLink

open Simulation (HeardRequest)

variable {σ η : Type}

/-! ## Carrying a number -/

/-- Whether a request **carries the number** of a batch. -/
def Simulation.HeardRequest.carries (id : UInt32) (heard : HeardRequest) : Bool :=
  heard.command.header.batchId = some id

/-- Whether a request is framed **with the number** of a batch. -/
def QueuedRequest.carries (id : UInt32) (request : QueuedRequest η) : Bool :=
  request.heard?.any (·.carries id)

/-- A turn in which **nothing is submitted** with the number of a batch. -/
def Turn.Spares (id : UInt32) : Turn σ η → Prop
  | submit _ command _ _ => command.header.batchId ≠ some id
  | _ => True

/-- Those of the requests heard that carry a number are what is heard of **those that carry it**. -/
theorem filter_carries_heard (id : UInt32) (requests : List (QueuedRequest η)) :
    (requests.filterMap QueuedRequest.heard?).filter (·.carries id) =
      (requests.filter (·.carries id)).filterMap QueuedRequest.heard? := by
  induction requests with
  | nil => rfl
  | cons request requests ih =>
    cases heard_eq : request.heard? with
    | none =>
      have not_carries : request.carries id = false := by simp [QueuedRequest.carries, heard_eq]
      simp [heard_eq, not_carries, ih]
    | some heard =>
      have carries : request.carries id = heard.carries id := by
        simp [QueuedRequest.carries, heard_eq]
      cases carried : heard.carries id <;> simp [heard_eq, carries, carried, ih]

namespace Multiplexer

variable [Channel σ]

/-- The requests queued in some turns that **carry the number** of a batch, in order. -/
def carried (m : Multiplexer σ η) (turns : List (Turn σ η)) (id : UInt32) :
    List (QueuedRequest η) :=
  (Event.requests (m.live turns).events).filter (·.carries id)

theorem carried_append (m : Multiplexer σ η) (turns more : List (Turn σ η)) (id : UInt32) :
    m.carried (turns ++ more) id =
      m.carried turns id ++ (m.live turns).service.carried more id := by
  simp [carried, live_append, Event.requests_append]

theorem mem_carried {m : Multiplexer σ η} {turns : List (Turn σ η)} {id : UInt32}
    {request : QueuedRequest η} :
    request ∈ m.carried turns id ↔
      .queued request ∈ (m.live turns).events ∧ request.carries id = true := by
  rw [carried, List.mem_filter, Event.mem_requests]

/-- What is submitted **with another number**, or with none, does not carry this one. -/
theorem carried_of_spares {m : Multiplexer σ η} {turns : List (Turn σ η)} {id : UInt32}
    (spares : ∀ turn ∈ turns, turn.Spares id) : m.carried turns id = [] := by
  rw [List.eq_nil_iff_forall_not_mem]
  intro request mem
  obtain ⟨queued, carries⟩ := mem_carried.mp mem
  obtain ⟨before, turn, after, rfl, now⟩ := exists_turn queued
  obtain ⟨envelope, command, value, handler, rfl, heard⟩ := exists_heard_of_queued now
  have spared : Turn.Spares id (.submit envelope command value handler) := spares _ (by simp)
  rw [QueuedRequest.carries, QueuedRequest.heard?_of_heard heard] at carries
  exact spared (of_decide_eq_true carries)

/-- A request that is submitted **with the number** of a batch, and framed, carries it. -/
theorem carried_submit_of_ok {m : Multiplexer σ η} (alive : m.failed = false)
    {envelope : Envelope} {command : Command} {value : Bytes} {handler : Option η}
    {request : QueuedRequest η}
    (prepared : m.outbox.prepare envelope command value handler m.nextKey m.connectionId =
      .ok request) {id : UInt32} (own : command.header.batchId = some id) :
    m.carried [.submit envelope command value handler] id = [request] ∧
      request.heard? = some
        ⟨(Outbox.addressed command request.sequence m.connectionId).withoutDeviceLog, value⟩ := by
  obtain ⟨-, frame, framed, request_eq⟩ := Outbox.exists_frame_of_prepare prepared
  have heard : request.heard? = some
      ⟨(Outbox.addressed command request.sequence m.connectionId).withoutDeviceLog, value⟩ := by
    rw [request_eq]
    exact QueuedRequest.heard?_of_heard (Outbox.heard_of_frameOf framed)
  have carries : request.carries id = true := by
    rw [QueuedRequest.carries, heard]
    exact decide_eq_true own
  refine ⟨?_, heard⟩
  rw [carried, live_cons, turn_submit_of_ok alive prepared]
  show [request].filter (·.carries id) = [request]
  simp [carries]

/-- A request that no frame is made of carries nothing, nor does one that is **submitted to a dead
connection**. -/
theorem carried_submit_of_error {m : Multiplexer σ η} {envelope : Envelope} {command : Command}
    {value : Bytes} {handler : Option η}
    (refused : m.failed = false → ∃ status,
      m.outbox.prepare envelope command value handler m.nextKey m.connectionId = .error status)
    (id : UInt32) : m.carried [.submit envelope command value handler] id = [] := by
  have none : Event.requests (m.turn (.submit envelope command value handler)).events = [] := by
    cases alive : m.failed with
    | true =>
      rw [turn_submit_of_failed alive]
      exact Event.requests_cons_completed rfl _
    | false =>
      obtain ⟨status, prepared⟩ := refused alive
      rw [turn_submit_of_error alive prepared]
      exact Event.requests_cons_completed rfl _
  rw [carried, live_cons, Event.requests_append, none]
  rfl

/-! ## Taking back -/

omit [Channel σ] in
/-- A request that waits for its turn is **on its way**. -/
theorem mem_tickets_of_waiting {m : Multiplexer σ η} {request : QueuedRequest η}
    (waits : request ∈ m.outbox.queue) : request.ticket ∈ m.transit.tickets :=
  List.mem_append_right _ (List.mem_append_right _ (List.mem_map_of_mem waits))

/-- The ticket of a request that waited for its turn is that of **the request that was queued** with
its number. -/
theorem ticket_eq_of_waited {m : Multiplexer σ η} (fresh : m.Fresh) {before after : List (Turn σ η)}
    (numbered : Numbered (m.live (before ++ after)).events (m.live (before ++ after)).service)
    {request other : QueuedRequest η}
    (queued : .queued request ∈ (m.live (before ++ after)).events)
    (waited : other ∈ (m.live before).service.outbox.queue)
    (same : other.sequence = request.sequence) : other.ticket = request.ticket := by
  have earlier := mem_tickets_of_live fresh (mem_tickets_of_waiting waited) after
  have known : request.ticket ∈ Event.tickets (m.live (before ++ after)).events :=
    List.mem_filterMap.mpr ⟨_, queued, rfl⟩
  exact numbered.ticket_eq earlier known (.inl same)

/-- What is taken back in some turns is taken back **in the first of them or in the others**. -/
theorem withdraws_append {m : Multiplexer σ η} {turns more : List (Turn σ η)} {sequence : Int64} :
    m.Withdraws (turns ++ more) sequence ↔
      m.Withdraws turns sequence ∨ (m.live turns).service.Withdraws more sequence := by
  constructor
  · rintro ⟨before, key, after, split, other, waited, own⟩
    rcases List.append_eq_append_iff.mp split with ⟨between, rfl, rfl⟩ | ⟨between, rfl, rest⟩
    · rw [live_append] at waited
      exact .inr ⟨between, key, after, rfl, other, waited, own⟩
    · cases between with
      | nil =>
        rw [List.append_nil]
        exact .inr ⟨[], key, after, rest.symm, other, waited, own⟩
      | cons turn between =>
        obtain ⟨rfl, -⟩ := List.cons.inj rest
        exact .inl ⟨before, key, between, rfl, other, waited, own⟩
  · rintro (⟨before, key, after, rfl, waited⟩ | ⟨before, key, after, rfl, other, waited, own⟩)
    · exact ⟨before, key, after ++ more, by simp, waited⟩
    · refine ⟨turns ++ before, key, after, by simp, other, ?_, own⟩
      rwa [live_append]

/-- What is taken back in some turns was taken back in the first of them, or **under its key** in
the others. -/
theorem Withdraws.of_append {m : Multiplexer σ η} (fresh : m.Fresh) {turns more : List (Turn σ η)}
    (numbered : Numbered (m.live (turns ++ more)).events (m.live (turns ++ more)).service)
    {request : QueuedRequest η} (queued : .queued request ∈ (m.live (turns ++ more)).events)
    (h : m.Withdraws (turns ++ more) request.sequence) :
    m.Withdraws turns request.sequence ∨ .remove request.key ∈ more := by
  refine (withdraws_append.mp h).imp_right ?_
  rintro ⟨before, key, after, rfl, other, waited, rfl, same⟩
  rw [← List.append_assoc] at numbered queued
  have later : other ∈ (m.live (turns ++ before)).service.outbox.queue := by rwa [live_append]
  have key_eq : other.key = request.key :=
    congrArg Ticket.key (ticket_eq_of_waited fresh numbered queued later same)
  simp [key_eq]

/-- Nobody takes a request back **before it is submitted**. -/
theorem not_withdraws_of_later {m : Multiplexer σ η} (fresh : m.Fresh)
    {turns more : List (Turn σ η)}
    (numbered : Numbered (m.live (turns ++ more)).events (m.live (turns ++ more)).service)
    {request : QueuedRequest η}
    (queued : .queued request ∈ ((m.live turns).service.live more).events) :
    ¬ m.Withdraws turns request.sequence := by
  rintro ⟨before, key, after, rfl, other, waited, -, same⟩
  have earlier := mem_tickets_of_live fresh (mem_tickets_of_waiting waited) (.remove key :: after)
  have rising := numbered.rising
  rw [live_append, Event.tickets_append] at rising
  have lt := ((List.pairwise_append.mp rising).2.2 _ earlier _
    (List.mem_filterMap.mpr ⟨_, queued, rfl⟩ : request.ticket ∈ _)).1
  have same : other.ticket.sequence = request.ticket.sequence := same
  rw [same] at lt
  omega

end Multiplexer

/-! ## Whose bytes can still be taken -/

/-- In a step, the channel takes bytes of a request only that **was not entirely written**. -/
theorem Shift.mem_unsent_of_wire {t t' : Transit η} {events : List (Event η)}
    (h : Shift t events t') {byte : Int64 × UInt8} (mem : byte ∈ Event.wire events) :
    byte.1 ∈ t.unsent.map Ticket.sequence := by
  have own {sequence : Int64} {bytes : Bytes} (mem : byte ∈ labelled sequence bytes) :
      byte.1 = sequence := by
    obtain ⟨_, -, rfl⟩ := List.mem_map.mp mem
    rfl
  cases h with
  | take ticket bytes | forget bytes none =>
    simp [own (by simpa [Event.wire, Event.bytes] using mem)]
  | track request bytes | clash request bytes =>
    simp [own (by simpa [Event.wire, Event.bytes] using mem), OutstandingRequest.ticket]
  | breakOut ticket bytes status =>
    rw [Event.wire_cons_completed] at mem
    simp [own mem]
  | refuse transit ticket status | breakIn outcome status =>
    rw [Event.wire_cons_completed] at mem
    cases mem
  | _ => cases mem

section Path

variable [Channel σ]

/-- The channel takes bytes of a request only that was not entirely written before, or **is queued**
since. -/
theorem Path.mem_unsent_of_wire {m m' : Multiplexer σ η} {events : List (Event η)}
    (h : Path m events m') {byte : Int64 × UInt8} (mem : byte ∈ Event.wire events) :
    byte.1 ∈ m.transit.unsent.map Ticket.sequence ++
      (Event.tickets events).map Ticket.sequence := by
  induction h with
  | done m => cases mem
  | step move path ih =>
    rw [Event.tickets_append, List.map_append, ← List.append_assoc]
    rw [Event.wire_append, List.mem_append] at mem
    rcases mem with now | later
    · exact List.mem_append_left _ (List.mem_append_left _ (move.shift.mem_unsent_of_wire now))
    · rcases List.mem_append.mp (ih later) with unsent | queued
      · exact List.mem_append_left _
          (move.shift.outgoing_sublist.subset (List.mem_append_right _ unsent))
      · exact List.mem_append_right _ queued

end Path

/-- A request of which **nothing has been written, and nothing will be**. -/
structure Gone (past : List (Event η)) (m : Multiplexer σ η) (request : QueuedRequest η) :
    Prop where
  unsent : request.sequence ∉ m.transit.unsent.map Ticket.sequence
  wire : ∀ byte ∈ Event.wire past, byte.1 ≠ request.sequence

namespace Written

variable {past : List (Event η)} {m : Multiplexer σ η} {out begun : List (QueuedRequest η)}
  {rest : List (Int64 × UInt8)}

/-- Whose bytes have been taken **is out or begun**. -/
theorem exists_of_wire (h : Written past m out begun rest) {byte : Int64 × UInt8}
    (mem : byte ∈ Event.wire past) : ∃ request ∈ out ++ begun, byte.1 = request.sequence := by
  have own {sequence : Int64} {bytes : Bytes} (mem : byte ∈ labelled sequence bytes) :
      byte.1 = sequence := by
    obtain ⟨_, -, rfl⟩ := List.mem_map.mp mem
    rfl
  rw [h.wire, List.mem_append] at mem
  rcases mem with whole | part
  · obtain ⟨request, out_mem, wire⟩ := List.mem_flatMap.mp whole
    exact ⟨request, List.mem_append_left _ out_mem, own wire⟩
  · cases h.current with
    | idle free => cases part
    | writing request current frame_eq => exact ⟨request, by simp, own part⟩
    | broken request failed free frame_eq => exact ⟨request, by simp, own part⟩

/-- A request that is neither out nor begun and does not wait for its turn **is gone**. -/
theorem gone (h : Written past m out begun rest) (numbered : Numbered past m)
    {request : QueuedRequest η} (queued : .queued request ∈ past)
    (nowhere : request ∉ out ++ begun ++ m.outbox.queue) : Gone past m request := by
  -- whoever has its number is this request
  have same {other : QueuedRequest η} (mem : other ∈ out ++ begun ++ m.outbox.queue) :
      other.sequence ≠ request.sequence := by
    intro sequence_eq
    have other_eq := numbered.request_eq queued (h.order.subset mem) sequence_eq
    exact nowhere (other_eq ▸ mem)
  constructor
  · intro mem
    simp only [Multiplexer.transit, Outbox.unsent, List.map_append, List.map_map,
      List.mem_append, List.mem_map] at mem
    rcases mem with ⟨current, writes, sequence_eq⟩ | ⟨other, waits, sequence_eq⟩
    · obtain ⟨first, bytes, left, begun_eq, -, rfl, -⟩ :=
        h.current.of_current (Option.mem_toList.mp writes)
      exact same (by simp [begun_eq]) sequence_eq
    · exact same (List.mem_append_right _ waits) sequence_eq
  · intro byte mem
    obtain ⟨other, inside, byte_eq⟩ := h.exists_of_wire mem
    rw [byte_eq]
    exact same (List.mem_append_left _ inside)

end Written

namespace Multiplexer

variable [Channel σ] {m : Multiplexer σ η} {turns : List (Turn σ η)}

/-- A request that is taken back while it waits for its turn **is gone**. -/
theorem gone_of_withdrawn (fresh : m.Fresh) (few : (Turn.submitted turns).length < 2 ^ 63)
    {key : RequestKey} {request : QueuedRequest η}
    (found : (m.live turns).service.outbox.queue.find? (·.key = key) = some request) :
    Gone (m.live (turns ++ [.remove key])).events (m.live (turns ++ [.remove key])).service
      request := by
  have few' : (Turn.submitted (turns ++ [.remove key] : List (Turn σ η))).length < 2 ^ 63 := by
    simpa [Turn.submitted] using few
  have numbered' := numbered_live fresh _ few'
  obtain ⟨out, begun, rest, written⟩ := (path_live m turns).written fresh
  obtain ⟨before, after, queue_eq, erased, -, -⟩ := exists_split_of_find? found
  have nodup := (written.nodup (numbered_live fresh turns few)).of_map
  have known := written.order.subset (List.mem_append_right _ (List.mem_of_find?_eq_some found))
  rw [live_concat, turn_remove_of_queued found] at numbered' ⊢
  refine (written.withdraw found).gone numbered'
    (List.mem_append_left _ (Event.mem_requests.mp known)) fun mem => ?_
  simp only at mem
  rw [erased] at mem
  rw [queue_eq, ← List.append_assoc] at nodup
  exact (List.nodup_middle.mp nodup).notMem (by simpa using mem)

/-- A request is gone if **its key is taken back** while somebody waits for its turn under it. -/
theorem gone_of_removed (fresh : m.Fresh) (few : (Turn.submitted turns).length < 2 ^ 63)
    {key : RequestKey} {request : QueuedRequest η}
    (queued : .queued request ∈ (m.live turns).events) (own : request.key = key)
    (waits : ∃ other ∈ (m.live turns).service.outbox.queue, other.key = key) :
    Gone (m.live (turns ++ [.remove key])).events (m.live (turns ++ [.remove key])).service
      request := by
  cases found : (m.live turns).service.outbox.queue.find? (·.key = key) with
  | none =>
    obtain ⟨other, waiting, same⟩ := waits
    exact absurd (decide_eq_true same) (List.find?_eq_none.mp found other waiting)
  | some other =>
    have numbered := numbered_live fresh turns few
    obtain ⟨out, begun, rest, written⟩ := (path_live m turns).written fresh
    have known := written.order.subset (List.mem_append_right _ (List.mem_of_find?_eq_some found))
    have key_eq := List.find?_some found
    have same := numbered.ticket_eq
      (List.mem_filterMap.mpr ⟨_, Event.mem_requests.mp known, rfl⟩ : other.ticket ∈ _)
      (List.mem_filterMap.mpr ⟨_, queued, rfl⟩ : request.ticket ∈ _)
      (.inr ((of_decide_eq_true key_eq).trans own.symm))
    obtain rfl := numbered.request_eq queued known (congrArg Ticket.sequence same)
    exact gone_of_withdrawn fresh few found

/-- Nobody waits for its turn **under a key that is taken back**. -/
theorem key_ne_of_removed (fresh : m.Fresh) (few : (Turn.submitted turns).length < 2 ^ 63)
    {key : RequestKey} {request : QueuedRequest η}
    (waits : request ∈ (m.live (turns ++ [.remove key])).service.outbox.queue) :
    request.key ≠ key := by
  rintro rfl
  cases found : (m.live turns).service.outbox.queue.find? (·.key = request.key) with
  | none =>
    have same : (m.live (turns ++ [.remove request.key])).service.outbox.queue =
        (m.live turns).service.outbox.queue := by
      rw [live_concat, turn, remove_of_absent found]
      rcases (m.live turns).service.inbox.remove request.key with ⟨_ | _, inbox⟩ <;> rfl
    rw [same] at waits
    exact List.find?_eq_none.mp found request waits (decide_eq_true rfl)
  | some other =>
    have gone := gone_of_withdrawn fresh few found
    have numbered := numbered_live fresh turns few
    have on_way {request : QueuedRequest η}
        (mem : request ∈ (m.live turns).service.outbox.queue) :
        request.ticket ∈ Event.tickets (m.live turns).events := by
      have known := mem_tickets_of_live fresh (mem_tickets_of_waiting mem) []
      rwa [List.append_nil] at known
    have waited : request ∈ (m.live turns).service.outbox.queue := by
      rw [live_concat, turn_remove_of_queued found] at waits
      exact List.mem_of_mem_eraseP waits
    have key_eq := List.find?_some found
    have same := numbered.ticket_eq (on_way waited) (on_way (List.mem_of_find?_eq_some found))
      (.inr (of_decide_eq_true key_eq).symm)
    have sequence_eq : request.sequence = other.sequence := congrArg Ticket.sequence same
    refine gone.unsent (sequence_eq ▸ ?_)
    exact List.mem_map_of_mem (List.mem_append_right _ (List.mem_map_of_mem waits))

/-- Nobody waits for its turn **who has been told** the outcome already. -/
theorem key_ne_of_completed (fresh : m.Fresh) (few : (Turn.submitted turns).length < 2 ^ 63)
    {completion : Completion η} (told : completion ∈ Event.completions (m.live turns).events)
    {request : QueuedRequest η} (waits : request ∈ (m.live turns).service.outbox.queue)
    (asks : request.handler.isSome = true) : request.key ≠ completion.key := by
  intro same
  have balance := (path_live m turns).balance
  have nodup := (numbered_live fresh turns few).nodup_given
  rw [fresh.tickets, Ticket.handlers_nil, add_zero] at balance
  rw [balance, Multiset.map_add, Multiset.nodup_add] at nodup
  obtain ⟨handler, handler_eq⟩ := Option.isSome_iff_exists.mp asks
  have called : completion.caller ∈ Event.fired (m.live turns).events := by
    rw [Event.fired_eq]
    exact Multiset.mem_coe.mpr (List.mem_map_of_mem told)
  have held : (request.key, handler) ∈ Ticket.handlers (m.live turns).service.transit.tickets := by
    refine Multiset.mem_coe.mpr (List.mem_filterMap.mpr
      ⟨request.ticket, mem_tickets_of_waiting waits, ?_⟩)
    simp [QueuedRequest.ticket, handler_eq]
  refine (Multiset.disjoint_left.mp nodup.2.2) ?_ (Multiset.mem_map_of_mem Prod.fst held)
  simp only
  rw [same]
  exact Multiset.mem_map_of_mem Prod.fst (Multiset.mem_add.mpr (.inl called))

end Multiplexer

/-- What is gone **stays so**: whatever happens later, no byte of it is taken. -/
theorem Gone.ne_of_wire [Channel σ] {m : Multiplexer σ η} {turns : List (Turn σ η)}
    {request : QueuedRequest η} (h : Gone (m.live turns).events (m.live turns).service request)
    (queued : .queued request ∈ (m.live turns).events) {later : List (Turn σ η)}
    (numbered : Numbered (m.live (turns ++ later)).events (m.live (turns ++ later)).service)
    {byte : Int64 × UInt8} (mem : byte ∈ Event.wire (m.live (turns ++ later)).events) :
    byte.1 ≠ request.sequence := by
  intro same
  have nodup := numbered.nodup_sequences
  rw [Multiplexer.live_append, Event.tickets_append, List.map_append] at nodup
  rw [Multiplexer.live_append, Event.wire_append, List.mem_append] at mem
  rcases mem with now | later
  · exact h.wire byte now same
  · rcases List.mem_append.mp ((path_live _ _).mem_unsent_of_wire later) with unsent | other
    · exact h.unsent (same ▸ unsent)
    · rw [same] at other
      refine (List.nodup_append.mp nodup).2.2 _ ?_ _ other rfl
      exact List.mem_map_of_mem (List.mem_filterMap.mpr ⟨_, queued, rfl⟩ :
        request.ticket ∈ Event.tickets (m.live turns).events)

/-! ## Requests that are written -/

theorem eq_of_sublist_of_subset {α : Type} {l l' : List α} (sub : l.Sublist l') (all : l' ⊆ l)
    (nodup : l'.Nodup) : l = l' :=
  sub.eq_of_length_le (nodup.subperm all).length_le

section Lives

variable [Channel σ] {m : Multiplexer σ η} {turns : List (Turn σ η)}
  {out begun : List (QueuedRequest η)} {rest : List (Int64 × UInt8)}

/-- Whoever stands before a request that has been begun **is out**, unless it was taken back. -/
theorem Written.mem_out_of_behind (fresh : m.Fresh)
    (numbered : Numbered (m.live turns).events (m.live turns).service)
    (written : Written (m.live turns).events (m.live turns).service out begun rest)
    {request last : QueuedRequest η} (begins : last ∈ out ++ begun)
    (queued : .queued request ∈ (m.live turns).events)
    (lt : request.sequence.toInt < last.sequence.toInt)
    (kept : ¬ m.Withdraws turns request.sequence) : request ∈ out := by
  have rising := numbered.rising_requests.sublist written.order
  have behind := (List.pairwise_append.mp (List.pairwise_append.mp rising).1).2.2
  have begun_mem : request.sequence ∈ (out ++ begun).map QueuedRequest.sequence := by
    by_contra missing
    exact kept (written.withdraws_of_overtaken fresh numbered begins queued lt missing)
  obtain ⟨other, mem, same⟩ := List.mem_map.mp begun_mem
  obtain rfl := numbered.request_eq queued
    (written.order.subset (List.mem_append_left _ mem)) same
  rcases List.mem_append.mp mem with out_mem | begun_mem
  · exact out_mem
  -- the last one cannot stand in front of it, nor be it
  · rcases List.mem_append.mp begins with last_out | last_begun
    · have gt := behind last last_out other begun_mem
      omega
    · rw [written.current.eq_of_mem last_begun begun_mem] at lt
      omega

/-- Once nothing is left to write, every request **is out** that was not taken back. -/
theorem Written.mem_out_of_drained (fresh : m.Fresh)
    (numbered : Numbered (m.live turns).events (m.live turns).service)
    (written : Written (m.live turns).events (m.live turns).service out begun rest)
    (working : (m.live turns).service.outbox.failed = false)
    (free : (m.live turns).service.outbox.current = none)
    (nothing : (m.live turns).service.outbox.queue = []) {request : QueuedRequest η}
    (queued : .queued request ∈ (m.live turns).events)
    (kept : ¬ m.Withdraws turns request.sequence) : request ∈ out := by
  obtain ⟨rfl, -⟩ := written.current.of_free working free
  cases written.fate request (Event.mem_requests.mpr queued) with
  | kept mem => simpa [nothing] using mem
  | cancelled mem =>
    by_contra unsent
    exact kept (Multiplexer.withdraws_of_cancelled fresh numbered queued
      (fun sent => unsent (written.mem_out_of_sent numbered queued sent)) mem)
  | dropped failed mem behind => cases mem

/-- A request that is out **stays so**. -/
theorem Written.mem_out_of_later {later : List (Turn σ η)}
    (numbered : Numbered (m.live (turns ++ later)).events (m.live (turns ++ later)).service)
    (written : Written (m.live turns).events (m.live turns).service out begun rest)
    {out' begun' : List (QueuedRequest η)} {rest' : List (Int64 × UInt8)}
    (written' : Written (m.live (turns ++ later)).events (m.live (turns ++ later)).service
      out' begun' rest') {request : QueuedRequest η} (mem : request ∈ out) : request ∈ out' := by
  have queued := written.order.subset (List.mem_append_left _ (List.mem_append_left begun mem))
  have sent : request.sequence ∈ Event.outgoing (m.live turns).events := by
    rw [written.outgoing]
    exact List.mem_map_of_mem mem
  rw [Multiplexer.live_append] at numbered written'
  exact written'.mem_out_of_sent numbered (List.mem_append_left _ (Event.mem_requests.mp queued))
    (List.mem_append_left _ (Event.mem_outgoing.mp sent))

/-- **What a connection has written**, as it is heard: all requests that are out, perhaps one more
that has been begun, and of each of them some byte has been taken. -/
theorem Multiplexer.exists_whole (fresh : m.Fresh) (turns : List (Turn σ η)) :
    ∃ out begun rest whole,
      Written (m.live turns).events (m.live turns).service out begun rest ∧ out ⊆ whole ∧
      whole.Sublist (Event.requests (m.live turns).events) ∧
      (∀ request ∈ whole, ∃ byte ∈ Event.wire (m.live turns).events,
        byte.1 = request.sequence) ∧
      heardIn ((Event.wire (m.live turns).events).map Prod.snd) =
        whole.filterMap QueuedRequest.heard? := by
  obtain ⟨out, begun, rest, written⟩ := (path_live m turns).written fresh
  have order := (List.sublist_append_left _ _).trans written.order
  obtain ⟨whole, part, whole_eq, wire, heard_eq⟩ := written.exists_whole fun request mem =>
    exists_heard_of_live (Event.mem_requests.mp (order.subset mem))
  have inside : out ⊆ whole ∧ whole.Sublist (out ++ begun) := by
    rcases whole_eq with rfl | rfl
    · exact ⟨fun _ mem => mem, List.sublist_append_left _ _⟩
    · exact ⟨fun _ mem => List.mem_append_left _ mem, .refl _⟩
  refine ⟨out, begun, rest, whole, written, inside.1, inside.2.trans order, ?_, heard_eq⟩
  intro request mem
  have queued := Event.mem_requests.mp ((inside.2.trans order).subset mem)
  obtain ⟨first, others, frame_eq⟩ :=
    List.exists_cons_of_ne_nil ((path_live m turns).frame_ne_nil queued)
  refine ⟨(request.sequence, first), wire ▸ List.mem_append_left _ ?_, rfl⟩
  exact List.mem_flatMap.mpr ⟨request, mem, by simp [QueuedRequest.wire, labelled, frame_eq]⟩

/-- Whatever is heard with a number is heard **of a request that carries it**. -/
theorem exists_carried_of_heard (fresh : m.Fresh) {id : UInt32} {heard : HeardRequest}
    (hears : heard ∈ heardIn ((Event.wire (m.live turns).events).map Prod.snd))
    (carries : heard.carries id = true) :
    ∃ request ∈ m.carried turns id, request.heard? = some heard := by
  obtain ⟨-, -, -, whole, -, -, whole_sub, -, heard_eq⟩ := m.exists_whole fresh turns
  rw [heard_eq] at hears
  obtain ⟨request, mem, request_eq⟩ := List.mem_filterMap.mp hears
  refine ⟨request, List.mem_filter.mpr ⟨whole_sub.subset mem, ?_⟩, request_eq⟩
  simp [QueuedRequest.carries, request_eq, carries]

/-- A request of which bytes are taken **has been begun** before, unless it was left waiting for its
turn. -/
theorem Written.begins_of_byte {later : List (Turn σ η)}
    (now : Numbered (m.live turns).events (m.live turns).service)
    (numbered : Numbered (m.live (turns ++ later)).events (m.live (turns ++ later)).service)
    (written : Written (m.live turns).events (m.live turns).service out begun rest)
    {request : QueuedRequest η} (queued : .queued request ∈ (m.live turns).events)
    (settled : later = [] ∨ request ∉ (m.live turns).service.outbox.queue) {byte : Int64 × UInt8}
    (mem : byte ∈ Event.wire (m.live (turns ++ later)).events)
    (own : byte.1 = request.sequence) : request ∈ out ++ begun := by
  rcases settled with rfl | waits
  · rw [List.append_nil] at mem
    obtain ⟨other, inside, same⟩ := written.exists_of_wire mem
    have known := written.order.subset (List.mem_append_left _ inside)
    exact now.request_eq queued known (same.symm.trans own) ▸ inside
  · by_contra nowhere
    have gone := written.gone now queued fun mem =>
      (List.mem_append.mp mem).elim nowhere waits
    exact gone.ne_of_wire queued numbered mem own

/-- **The last one comes after all others.** Let requests with one number be queued, and none but
the last be taken back while it waits for its turn. If the last one is heard at that moment or
later, and it had not been left waiting for its turn, then all of them are heard, in that order, and
nothing else with their number. -/
theorem filter_heardIn_of_last (fresh : m.Fresh) {later : List (Turn σ η)}
    (few : (Turn.submitted (turns ++ later)).length < 2 ^ 63) {id : UInt32}
    (spares : ∀ turn ∈ later, turn.Spares id) {front : List (QueuedRequest η)}
    {last : QueuedRequest η} (carried_eq : m.carried turns id = front ++ [last])
    (kept : ∀ request ∈ front, ¬ m.Withdraws turns request.sequence)
    (settled : later = [] ∨ last ∉ (m.live turns).service.outbox.queue) {heard : HeardRequest}
    (hears : heard ∈ heardIn ((Event.wire (m.live (turns ++ later)).events).map Prod.snd))
    (carries : heard.carries id = true) (others : ∀ request ∈ front, request.heard? ≠ some heard) :
    (heardIn ((Event.wire (m.live (turns ++ later)).events).map Prod.snd)).filter (·.carries id) =
      (front ++ [last]).filterMap QueuedRequest.heard? := by
  have now := numbered_live fresh turns (by
    rw [Turn.submitted_append, List.length_append] at few
    exact Nat.lt_of_le_of_lt (Nat.le_add_right ..) few)
  have numbered := numbered_live fresh (turns ++ later) few
  obtain ⟨out, begun, rest, written⟩ := (path_live m turns).written fresh
  obtain ⟨out', begun', rest', whole, written', out_sub, whole_sub, bytes, heard_eq⟩ :=
    m.exists_whole fresh (turns ++ later)
  have sub : (whole.filter (·.carries id)).Sublist (front ++ [last]) := by
    have all : m.carried (turns ++ later) id = front ++ [last] := by
      rw [Multiplexer.carried_append, Multiplexer.carried_of_spares spares, carried_eq,
        List.append_nil]
    exact all ▸ whole_sub.filter _
  have queued {request : QueuedRequest η} (mem : request ∈ front ++ [last]) :
      .queued request ∈ (m.live turns).events :=
    (Multiplexer.mem_carried.mp (carried_eq ▸ mem)).1
  have order : (front ++ [last]).Sublist (Event.requests (m.live turns).events) :=
    carried_eq ▸ List.filter_sublist
  -- the request that is heard is the last one
  have last_mem : last ∈ whole := by
    rw [heard_eq] at hears
    obtain ⟨request, mem, request_eq⟩ := List.mem_filterMap.mp hears
    have inside : request ∈ front ++ [last] := sub.subset
      (List.mem_filter.mpr ⟨mem, by simp [QueuedRequest.carries, request_eq, carries]⟩)
    rcases List.mem_append.mp inside with before | here
    · exact absurd request_eq (others request before)
    · exact List.mem_singleton.mp here ▸ mem
  obtain ⟨byte, byte_mem, own⟩ := bytes last last_mem
  have begins := written.begins_of_byte now numbered (queued (by simp)) settled byte_mem own
  have all : front ++ [last] ⊆ whole.filter (·.carries id) := by
    intro request mem
    refine List.mem_filter.mpr ⟨?_, (Multiplexer.mem_carried.mp (carried_eq ▸ mem)).2⟩
    rcases List.mem_append.mp mem with before | here
    · have lt := (List.pairwise_append.mp (now.rising_requests.sublist order)).2.2 request before
        last (by simp)
      exact out_sub (written.mem_out_of_later numbered written'
        (written.mem_out_of_behind fresh now begins (queued mem) lt (kept request before)))
    · exact List.mem_singleton.mp here ▸ last_mem
  rw [heard_eq, filter_carries_heard,
    eq_of_sublist_of_subset sub all (now.nodup_requests.of_map.sublist order)]

/-- **Once nothing is left to write**, of the requests with one number all are heard that were not
taken back in time, if nothing has been written of the others. -/
theorem filter_heardIn_of_drained (fresh : m.Fresh)
    (few : (Turn.submitted turns).length < 2 ^ 63)
    (working : (m.live turns).service.outbox.failed = false)
    (free : (m.live turns).service.outbox.current = none)
    (nothing : (m.live turns).service.outbox.queue = []) {id : UInt32}
    {front others : List (QueuedRequest η)} (carried_eq : m.carried turns id = front ++ others)
    (kept : ∀ request ∈ front, ¬ m.Withdraws turns request.sequence)
    (unwritten : ∀ request ∈ others, ∀ byte ∈ Event.wire (m.live turns).events,
      byte.1 ≠ request.sequence) :
    (heardIn ((Event.wire (m.live turns).events).map Prod.snd)).filter (·.carries id) =
      front.filterMap QueuedRequest.heard? := by
  have numbered := numbered_live fresh turns few
  obtain ⟨out, begun, rest, whole, written, out_sub, whole_sub, bytes, heard_eq⟩ :=
    m.exists_whole fresh turns
  have sub : (whole.filter (·.carries id)).Sublist (front ++ others) :=
    carried_eq ▸ whole_sub.filter _
  have order : (front ++ others).Sublist (Event.requests (m.live turns).events) :=
    carried_eq ▸ List.filter_sublist
  have within : (whole.filter (·.carries id)).Sublist front := by
    obtain ⟨first, second, split, first_sub, second_sub⟩ := List.sublist_append_iff.mp sub
    have none : second = [] := by
      rw [List.eq_nil_iff_forall_not_mem]
      intro request mem
      have inside : request ∈ whole.filter (·.carries id) := split ▸ List.mem_append_right _ mem
      obtain ⟨byte, byte_mem, own⟩ := bytes request (List.mem_filter.mp inside).1
      exact unwritten request (second_sub.subset mem) byte byte_mem own
    rw [split, none, List.append_nil]
    exact first_sub
  have all : front ⊆ whole.filter (·.carries id) := by
    intro request mem
    have known : request ∈ m.carried turns id := carried_eq ▸ List.mem_append_left _ mem
    obtain ⟨queued, carries⟩ := Multiplexer.mem_carried.mp known
    exact List.mem_filter.mpr ⟨out_sub (written.mem_out_of_drained fresh numbered working free
      nothing queued (kept request mem)), carries⟩
  have nodup := numbered.nodup_requests.of_map.sublist ((List.sublist_append_left _ _).trans order)
  rw [heard_eq, filter_carries_heard, eq_of_sublist_of_subset within all nodup]

end Lives

end DriveLink
