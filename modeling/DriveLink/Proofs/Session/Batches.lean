import DriveLink.Proofs.Session.Turns

/-! # Batches

A batch is a request that opens it, one request for each operation, and a request that ends it, all
under one number. The operations are sent without waiting for anything, and what became of each of
them nobody is told. The drive is only told how many there were: so if one of them were lost, or
another came in between, it would apply something that nobody asked for.

* `Simulation.HeardRequest.Says`, `BatchOperation.Appears` — what the drive hears of a batch;
* `Blocking.Gathers` — the requests of a batch so far;
* `Blocking.Adds`, `Adds.gathers` — calls on a batch, each of which adds one request;
* `Gathers.returned` — what a call comes to that ends a batch;
* `Blocking.Built`, `Built.exists_turns` — a batch that its owner has built;
* `Blocking.SinceCommit` — moments since a batch is committed;
* `committed_batch_is_whole` — a batch that has been committed is what its owner built. -/

namespace DriveLink

open Metered (gauge)
open Simulation (HeardRequest)

/-! ## What the drive hears of a batch -/

/-- What a request **says** that belongs to a batch. -/
structure Simulation.HeardRequest.Says (heard : HeardRequest) (id : UInt32) (type : MessageType)
    (body : Body) (value : Bytes) : Prop where
  batchId : heard.command.header.batchId = some id
  messageType : heard.command.header.messageType = some type
  body : heard.command.body = body
  value : heard.value = value

/-- The request **opens** a batch. -/
def Simulation.HeardRequest.StartsBatch (heard : HeardRequest) (id : UInt32) : Prop :=
  heard.Says id .startBatch .empty []

/-- The request **commits** a batch of so many operations. -/
def Simulation.HeardRequest.EndsBatch (heard : HeardRequest) (id : UInt32) (operations : Nat) :
    Prop :=
  ∃ count : UInt32, count.toNat = operations ∧ heard.Says id .endBatch (.batch { count }) []

/-- **One operation** of a batch, as its owner gives it. -/
inductive BatchOperation
  | put (key currentVersion : Bytes) (mode : WriteMode) (record : Record)
  | delete (key version : Bytes) (mode : WriteMode)

namespace BatchOperation

/-- The request that is sent for the operation. -/
def request (id : UInt32) : BatchOperation → Request .silence
  | put key currentVersion mode record => .batchPut id key currentVersion mode record
  | delete key version mode => .batchDelete id key version mode

/-- **What the drive hears** of the operation: all that its owner gave. -/
def Appears (id : UInt32) : BatchOperation → HeardRequest → Prop
  | put key currentVersion mode record, heard =>
    heard.Says id .put
      (.keyValue
        { key := some key
          newVersion := some record.version
          dbVersion := some currentVersion
          force := some (mode = .ignoreVersion)
          tag := some record.tag
          algorithm := record.algorithm
          synchronization := some .writeBack })
      record.value
  | delete key version mode, heard =>
    heard.Says id .delete
      (.keyValue
        { key := some key
          dbVersion := some version
          force := some (mode = .ignoreVersion)
          synchronization := some .writeBack })
      []

end BatchOperation

namespace Blocking

variable {σ τ : Type} {reply : Reply}

/-- Whether the request that is submitted next **fits into a frame**. -/
def fits (b : Blocking σ τ) (request : Request reply) : Bool :=
  (b.inner.service.outbox.frameOf request.envelope
    (Outbox.addressed (b.inner.prepare request.command) b.inner.service.outbox.nextSequence
      b.inner.service.connectionId) request.value).isOk

/-- What is heard of a request that **belongs to a batch**. -/
def hearing (b : Blocking σ τ) (request : Request reply) (sequence : Int64) : HeardRequest :=
  ⟨(Outbox.addressed (b.inner.prepare request.command) sequence
    b.inner.service.connectionId).withoutDeviceLog, request.value⟩

theorem startsBatch_hearing (b : Blocking σ τ) (id : UInt32) (sequence : Int64) :
    (b.hearing (.startBatch id) sequence).StartsBatch id := ⟨rfl, rfl, rfl, rfl⟩

theorem endsBatch_hearing (b : Blocking σ τ) (id count : UInt32) (sequence : Int64) :
    (b.hearing (.endBatch id count) sequence).EndsBatch id count.toNat :=
  ⟨count, rfl, rfl, rfl, rfl, rfl⟩

theorem appears_hearing (b : Blocking σ τ) (operation : BatchOperation) (id : UInt32)
    (sequence : Int64) : operation.Appears id (b.hearing (operation.request id) sequence) := by
  cases operation <;> exact ⟨rfl, rfl, rfl, rfl⟩

/-! ## The requests of a batch -/

section Gathers

variable [Channel σ] [Metered σ] {m : Multiplexer σ (Callback (Option τ))}
  {turns : List (Turn σ (Callback (Option τ)))} {b b' : Blocking σ τ} {id : UInt32}
  {requests : List (QueuedRequest (Callback (Option τ)))}

/-- **The requests of a batch so far**: all that carry its number. None of them has been taken back
in time. -/
structure Gathers (m : Multiplexer σ (Callback (Option τ)))
    (turns : List (Turn σ (Callback (Option τ)))) (b : Blocking σ τ) (id : UInt32)
    (requests : List (QueuedRequest (Callback (Option τ)))) : Prop where
  moment : Moment m turns b
  carried : m.carried turns id = requests
  kept : ∀ request ∈ requests, ¬ m.Withdraws turns request.sequence

/-- Whatever the owner does without taking one of the requests back, **they stay**, and others may
come behind them. -/
theorem Gathers.append (h : Gathers m turns b id requests) (fresh : m.Fresh)
    {more : List (Turn σ (Callback (Option τ)))}
    (few : (Turn.submitted (turns ++ more)).length < 2 ^ 63) (moment : Moment m (turns ++ more) b')
    (keeps : ∀ request ∈ requests ++ b.inner.service.carried more id, .remove request.key ∉ more) :
    Gathers m (turns ++ more) b' id (requests ++ b.inner.service.carried more id) where
  moment := moment
  carried := by rw [Multiplexer.carried_append, h.carried, h.moment.service]
  kept := by
    have numbered := numbered_live fresh (turns ++ more) few
    intro request mem withdrawn
    have all : m.carried (turns ++ more) id = requests ++ b.inner.service.carried more id := by
      rw [Multiplexer.carried_append, h.carried, h.moment.service]
    have queued := (Multiplexer.mem_carried.mp (all ▸ mem)).1
    rcases withdrawn.of_append fresh numbered queued with earlier | now
    · rcases List.mem_append.mp mem with before | new
      · exact h.kept request before earlier
      · rw [h.moment.service] at new
        exact Multiplexer.not_withdraws_of_later fresh numbered
          (Multiplexer.mem_carried.mp new).1 earlier
    · exact keeps request mem now

/-- **Time passes** for a batch. -/
theorem Gathers.elapse (h : Gathers m turns b id requests) (fresh : m.Fresh)
    (few : (Turn.submitted turns).length < 2 ^ 63) {s : σ}
    (still : gauge s = gauge b.inner.service.channel) :
    Gathers m (turns ++ [.elapse s]) (b.withChannel s) id requests := by
  have moment : Moment m (turns ++ [.elapse s]) (b.withChannel s) := h.moment.elapse still rfl
  have elapsed := h.append fresh (by simpa [Turn.submitted] using few) moment (by simp)
  rwa [Multiplexer.carried_of_spares (by simp [Turn.Spares]), List.append_nil] at elapsed

omit [Metered σ] in
/-- What a call adds to the requests **with a number**: its own, if the connection is alive and the
request fits into a frame, and nothing otherwise. -/
theorem carried_submitting (b : Blocking σ τ)
    (working : b.inner.service.failed = false → b.inner.service.outbox.failed = false)
    (request : Request reply) (own : request.command.header.batchId = some id) :
    (b.inner.service.failed = false → b.fits request = true →
      ∃ queued, b.inner.service.carried [b.submitting request] id = [queued] ∧
        queued.key = b.inner.service.nextKey ∧
        queued.handler = (if reply = .silence then none else some { reply, tag := none }) ∧
        queued.heard? = some (b.hearing request queued.sequence)) ∧
    (b.inner.service.failed = true ∨ b.fits request = false →
      b.inner.service.carried [b.submitting request] id = []) := by
  cases alive : b.inner.service.failed with
  | true =>
    exact ⟨by simp, fun _ => Multiplexer.carried_submit_of_error (by simp [alive]) id⟩
  | false =>
    cases prepared : b.inner.service.outbox.prepare request.envelope
        (b.inner.prepare request.command) request.value
        (if reply = .silence then none else some { reply, tag := none })
        b.inner.service.nextKey b.inner.service.connectionId with
    | ok queued =>
      obtain ⟨-, frame, framed, queued_eq⟩ := Outbox.exists_frame_of_prepare prepared
      have fits : b.fits request = true := by rw [Blocking.fits, framed]; rfl
      obtain ⟨carried, heard⟩ := Multiplexer.carried_submit_of_ok alive prepared
        (show (b.inner.prepare request.command).header.batchId = some id from own)
      exact ⟨fun _ _ => ⟨queued, carried, by rw [queued_eq], by rw [queued_eq], heard⟩,
        by simp [fits]⟩
    | error status =>
      obtain ⟨failure, framed⟩ := Outbox.exists_failure_of_prepare (working alive) prepared
      have misfit : b.fits request = false := by rw [Blocking.fits, framed]; rfl
      exact ⟨by simp [misfit],
        fun _ => Multiplexer.carried_submit_of_error (fun _ => ⟨status, prepared⟩) id⟩

/-- **A call with the number of a batch** adds its request to those of the batch, and they stay as
long as it only waits. -/
theorem Gathers.call (h : Gathers m turns b id requests) (fresh : m.Fresh)
    (few : (Turn.submitted turns).length + 1 < 2 ^ 63) (request : Request reply)
    {rest : List (Turn σ (Callback (Option τ)))} (waits : ∀ turn ∈ rest, turn.Waits)
    (moment : Moment m (turns ++ b.submitting request :: rest) b') :
    Gathers m (turns ++ b.submitting request :: rest) b' id
      (requests ++ b.inner.service.carried [b.submitting request] id) := by
  have split : b.inner.service.carried (b.submitting request :: rest) id =
      b.inner.service.carried [b.submitting request] id := by
    rw [← List.singleton_append, Multiplexer.carried_append,
      Multiplexer.carried_of_spares (spares_of_waits waits id), List.append_nil]
  rw [← split]
  have few_all : (Turn.submitted (turns ++ b.submitting request :: rest)).length < 2 ^ 63 := by
    rwa [Turn.submitted_append, List.length_append, length_submitted_call b request waits]
  refine h.append fresh few_all moment ?_
  intro queued _ mem
  rcases List.mem_cons.mp mem with submits | later
  · cases submits
  · exact not_removes_of_waits waits _ later

end Gathers

/-! ## Calls on a batch -/

section Adds

variable [Channel σ]

/-- Make **one call** on a batch. -/
def add (b : Blocking σ τ) (batch : OpenBatch) : BatchOperation → Called σ τ Unit × OpenBatch
  | .put key currentVersion mode record => b.batchPut batch key currentVersion mode record
  | .delete key version mode => b.batchDelete batch key version mode

theorem add_eq (b : Blocking σ τ) (batch : OpenBatch) (operation : BatchOperation) :
    b.add batch operation = b.addToBatch batch (operation.request batch.id) := by
  cases operation <;> rfl

/-- A call on a batch: what it adds, and **the connection that it is made on**. -/
structure Addition (σ τ : Type) where
  connection : Blocking σ τ
  operation : BatchOperation

/-- Whether the request of a call **fits into a frame**. -/
def Addition.fits (call : Addition σ τ) (id : UInt32) : Bool :=
  call.connection.fits (call.operation.request id)

/-- Whether the request of a call **is queued**: the connection is alive, and the request fits. -/
def Addition.queues (call : Addition σ τ) (id : UInt32) : Bool :=
  !call.connection.inner.service.failed && call.fits id

variable [Metered σ]

/-- **Calls on a batch**, one after the other, whatever comes of each. Before each of them the
channel may change by itself, but takes nothing. -/
inductive Adds (b : Blocking σ τ) (batch : OpenBatch) :
    List (Addition σ τ) → Blocking σ τ → OpenBatch → Prop
  | none : Adds b batch [] b batch
  | call {calls : List (Addition σ τ)} {b₁ : Blocking σ τ} {batch₁ : OpenBatch}
      (adds : Adds b batch calls b₁ batch₁) {s : σ}
      (still : gauge s = gauge b₁.inner.service.channel) (operation : BatchOperation) :
      Adds b batch (calls ++ [⟨b₁.withChannel s, operation⟩])
        ((b₁.withChannel s).add batch₁ operation).1.connection
        ((b₁.withChannel s).add batch₁ operation).2

variable {b b₁ : Blocking σ τ} {batch batch₁ : OpenBatch} {calls : List (Addition σ τ)}

/-- A call may come **directly behind** those before it. -/
theorem Adds.behind (h : b.Adds batch calls b₁ batch₁) (operation : BatchOperation) :
    b.Adds batch (calls ++ [⟨b₁, operation⟩]) (b₁.add batch₁ operation).1.connection
      (b₁.add batch₁ operation).2 :=
  h.call (s := b₁.inner.service.channel) rfl operation

theorem Adds.id_eq (h : b.Adds batch calls b₁ batch₁) : batch₁.id = batch.id := by
  induction h with
  | none => rfl
  | call adds still operation ih =>
    rw [add_eq]
    exact ih

/-- **Every call is counted**, whatever comes of it. -/
theorem Adds.count_eq (h : b.Adds batch calls b₁ batch₁) :
    batch₁.count = batch.count + UInt32.ofNat calls.length := by
  induction h with
  | none => simp
  | call adds still operation ih =>
    rw [add_eq, List.length_append, UInt32.ofNat_add, ← UInt32.add_assoc, ← ih]
    rfl

/-- **A call adds its request** to those of the batch if it is queued, and nothing otherwise. -/
theorem Gathers.add {m : Multiplexer σ (Callback (Option τ))} (fresh : m.Fresh)
    (coherent : m.Coherent) {turns : List (Turn σ (Callback (Option τ)))}
    (few : (Turn.submitted turns).length + 1 < 2 ^ 63)
    {requests : List (QueuedRequest (Callback (Option τ)))}
    (h : Gathers m turns b batch.id requests) (operation : BatchOperation) :
    ∃ new, Gathers m (turns ++ [b.submitting (operation.request batch.id), .run])
        (b.add batch operation).1.connection batch.id (requests ++ new) ∧
      List.Forall₂ (BatchOperation.Appears batch.id)
        (([⟨b, operation⟩].filter fun call : Addition σ τ => call.queues batch.id).map
          Addition.operation)
        (new.filterMap QueuedRequest.heard?) := by
  have submits : Moment m (turns ++ [b.submitting (operation.request batch.id)])
      { b with inner := (b.inner.submit (operation.request batch.id) none).2.2 } :=
    h.moment.submit _ rfl
  have moment : Moment m (turns ++ [b.submitting (operation.request batch.id), .run])
      (b.add batch operation).1.connection := by
    have runs : Moment m (turns ++ [b.submitting (operation.request batch.id)] ++ [.run])
        (b.add batch operation).1.connection := submits.run (by rw [add_eq]; rfl)
    simpa using runs
  refine ⟨_, h.call fresh few _ (by simp [Turn.Waits]) moment, ?_⟩
  have own : (operation.request batch.id).command.header.batchId = some batch.id := by
    cases operation <;> rfl
  obtain ⟨added, nothing⟩ := b.carried_submitting
    (h.moment.service ▸ (coherent.live turns).outbox) (operation.request batch.id) own
  cases alive : b.inner.service.failed with
  | true =>
    rw [nothing (.inl alive)]
    simp [Addition.queues, alive]
  | false =>
    cases fits : b.fits (operation.request batch.id) with
    | true =>
      obtain ⟨queued, carried_eq, -, -, heard⟩ := added alive fits
      simpa [carried_eq, Addition.queues, Addition.fits, alive, fits, heard] using
        b.appears_hearing operation _ _
    | false =>
      rw [nothing (.inr fits)]
      simp [Addition.queues, Addition.fits, fits]

/-- **Each call adds its request** to those of the batch if it is queued, one behind the other. As
long as the connection is alive, it has been alive at each call. -/
theorem Adds.gathers (h : b.Adds batch calls b₁ batch₁)
    {m : Multiplexer σ (Callback (Option τ))} (fresh : m.Fresh) (coherent : m.Coherent)
    {turns : List (Turn σ (Callback (Option τ)))}
    (few : (Turn.submitted turns).length + calls.length < 2 ^ 63)
    {requests : List (QueuedRequest (Callback (Option τ)))}
    (start : Gathers m turns b batch.id requests) :
    ∃ more new, Gathers m (turns ++ more) b₁ batch.id (requests ++ new) ∧
      (Turn.submitted more).length = calls.length ∧
      List.Forall₂ (BatchOperation.Appears batch.id)
        ((calls.filter (·.queues batch.id)).map Addition.operation)
        (new.filterMap QueuedRequest.heard?) ∧
      (b₁.inner.service.failed = false →
        ∀ call ∈ calls, call.connection.inner.service.failed = false) := by
  induction h with
  | none => exact ⟨[], [], by simpa using start, rfl, .nil, by simp⟩
  | @call calls b₁ batch₁ adds s still operation ih =>
    rw [List.length_append, List.length_singleton] at few
    obtain ⟨more, new, gathers, length_eq, appear, alive_all⟩ := ih (by omega)
    have submitted_eq : (Turn.submitted (turns ++ more)).length =
        (Turn.submitted turns).length + calls.length := by
      rw [Turn.submitted_append, List.length_append, length_eq]
    have submitted_elapsed : Turn.submitted (turns ++ more ++ [.elapse s]) =
        Turn.submitted (turns ++ more) := by simp [Turn.submitted]
    have elapsed := gathers.elapse fresh (by omega) still
    rw [← adds.id_eq] at elapsed
    obtain ⟨last, added, appears⟩ :=
      elapsed.add fresh coherent (by rw [submitted_elapsed]; omega) operation
    have alive_before (alive : ((b₁.withChannel s).add batch₁
        operation).1.connection.inner.service.failed = false) :
        (b₁.withChannel s).inner.service.failed = false := elapsed.moment.alive added.moment alive
    rw [adds.id_eq] at added appears
    refine ⟨more ++ [.elapse s, (b₁.withChannel s).submitting (operation.request batch.id), .run],
      new ++ last, by simpa using added, ?_, ?_, fun alive call mem => ?_⟩
    · rw [Turn.submitted_append, List.length_append, List.length_append, length_eq]
      rfl
    · rw [List.filter_append, List.map_append, List.filterMap_append]
      exact List.rel_append appear appears
    · rcases List.mem_append.mp mem with earlier | last
      · exact alive_all (gathers.moment.alive elapsed.moment (alive_before alive)) call earlier
      · rw [List.mem_singleton.mp last]
        exact alive_before alive

end Adds

/-! ## Opening a batch -/

section Start

variable [Channel σ]

/-- A request that is **refused** fails at once. -/
theorem refused_eq_fail (b : Blocking σ τ) (request : Request reply) (asks : reply ≠ .silence)
    (refused : ¬ (b.inner.service.failed = false ∧ b.fits request = true)) :
    ∃ status, b.refused request =
      [.fail b.inner.service.nextKey ({ reply, tag := none } : Callback (Option τ)) status] := by
  have turn_eq : b.refused request =
      Event.completions (b.inner.service.turn (b.submitting request)).events :=
    (completions_turn_submit _ _ _ _ _).symm
  have told (status : Status) : Event.completions
      (.submitted b.inner.service.nextKey (some ({ reply, tag := none } : Callback (Option τ))) ::
        (Completion.failIfAny b.inner.service.nextKey (some { reply, tag := none })
          status).map .completed) = [.fail b.inner.service.nextKey { reply, tag := none } status] :=
    rfl
  rw [turn_eq, submitting, if_neg asks]
  cases alive : b.inner.service.failed with
  | true =>
    rw [Multiplexer.turn_submit_of_failed alive]
    exact ⟨_, told _⟩
  | false =>
    cases prepared : b.inner.service.outbox.prepare request.envelope
        (b.inner.prepare request.command) request.value (some { reply, tag := none })
        b.inner.service.nextKey b.inner.service.connectionId with
    | ok queued =>
      obtain ⟨-, frame, framed, -⟩ := Outbox.exists_frame_of_prepare prepared
      have fits : b.fits request = true := by rw [Blocking.fits, framed]; rfl
      exact absurd ⟨alive, fits⟩ refused
    | error status =>
      rw [Multiplexer.turn_submit_of_error alive prepared]
      exact ⟨_, told _⟩

variable [Metered σ] [Pollable σ] [SteadyWaits σ] {m : Multiplexer σ (Callback (Option τ))}
  {turns : List (Turn σ (Callback (Option τ)))} {b : Blocking σ τ}

omit [Metered σ] [Pollable σ] [SteadyWaits σ] in
/-- A request whose outcome is a success **has been queued**: the connection was alive, and the
request fits into a frame. -/
theorem queued_of_ok (fresh : m.Fresh) (service : b.inner.service = (m.live turns).service)
    {request : Request reply} {rest : List (Turn σ (Callback (Option τ)))}
    (few : (Turn.submitted (turns ++ b.submitting request :: rest)).length < 2 ^ 63)
    {completion : Completion (Callback (Option τ))}
    (mem : completion ∈
      Event.completions ((m.live turns).service.live (b.submitting request :: rest)).events)
    (own : completion.key = b.inner.service.nextKey) {result : reply.Result}
    (ok : completion.outcome.read reply = .ok result) (asks : reply ≠ .silence) :
    b.inner.service.failed = false ∧ b.fits request = true := by
  by_contra refused
  obtain ⟨status, refused_eq⟩ := b.refused_eq_fail request asks refused
  have numbered := numbered_live fresh _ few
  have nodup := (path_live m _).nodup_completions fresh numbered
  rw [Multiplexer.live_append, Event.completions_append, List.map_append] at nodup
  have failed : Completion.fail b.inner.service.nextKey
      ({ reply, tag := none } : Callback (Option τ)) status ∈
      Event.completions ((m.live turns).service.live (b.submitting request :: rest)).events := by
    rw [← service, Multiplexer.live_cons, Event.completions_append, submitting,
      completions_turn_submit]
    exact List.mem_append_left _ (by
      have here : _ ∈ b.refused request := refused_eq ▸ List.mem_singleton_self _
      exact here)
  have same := List.inj_on_of_nodup_map (List.nodup_append.mp nodup).2.1 mem failed own
  rw [same] at ok
  cases ok

/-- **A call that succeeds** adds its request to those with its number. -/
theorem Gathers.of_ok {id : UInt32} {requests : List (QueuedRequest (Callback (Option τ)))}
    (h : Gathers m turns b id requests) (fresh : m.Fresh) (coherent : m.Coherent)
    (few : (Turn.submitted turns).length + 1 < 2 ^ 63) {request : Request reply}
    (own : request.command.header.batchId = some id) (asks : reply ≠ .silence) {patience : Nat}
    {policy : WaitPolicy} {called : Called σ τ reply.Result}
    (returned : b.callWith patience policy request = some called) {result : reply.Result}
    (ok : called.result = .ok result) :
    ∃ rest queued, (∀ turn ∈ rest, turn.Waits) ∧
      Gathers m (turns ++ b.submitting request :: rest) called.connection id
        (requests ++ [queued]) ∧
      queued.heard? = some (b.hearing request queued.sequence) := by
  cases callWith_returns h.moment returned with
  | gaveUp givesUp waits before moment failed =>
    rw [ok] at failed
    cases failed
  | @answered holds rest waits moment completion mem own_key read =>
    rw [ok] at read
    have few_all : (Turn.submitted (turns ++ b.submitting request :: rest)).length < 2 ^ 63 := by
      rwa [Turn.submitted_append, List.length_append, length_submitted_call b request waits]
    obtain ⟨alive, fits⟩ :=
      queued_of_ok fresh h.moment.service few_all mem own_key read.symm asks
    obtain ⟨queued, carried_eq, -, -, heard⟩ := (b.carried_submitting
      (h.moment.service ▸ (coherent.live turns).outbox) request own).1 alive fits
    exact ⟨rest, queued, waits, carried_eq ▸ h.call fresh few request waits moment, heard⟩

omit [Metered σ] [SteadyWaits σ] in
/-- A batch that is opened with success has **the connection's next number**, and no operations. -/
theorem eq_of_startBatch {patience : Nat} {opened : Called σ τ OpenBatch}
    (opens : b.startBatch patience = some opened) {batch : OpenBatch}
    (ok : opened.result = .ok batch) : batch = { id := b.nextBatch } := by
  rw [startBatch] at opens
  split at opens
  · cases opens
  · rename_i called returned
    cases opens
    cases result_eq : called.result with
    | error status =>
      rw [result_eq] at ok
      cases ok
    | ok result =>
      rw [result_eq] at ok
      cases ok
      rfl

/-- **Opening a batch** with success queues the request that opens it. -/
theorem gathers_of_startBatch (fresh : m.Fresh) (coherent : m.Coherent) (start : Moment m turns b)
    (spares : ∀ turn ∈ turns, turn.Spares b.nextBatch)
    (few : (Turn.submitted turns).length + 1 < 2 ^ 63) {patience : Nat}
    {opened : Called σ τ OpenBatch} (opens : b.startBatch patience = some opened)
    {batch : OpenBatch} (ok : opened.result = .ok batch) :
    ∃ more first heard, Gathers m (turns ++ more) opened.connection b.nextBatch [first] ∧
      (Turn.submitted more).length = 1 ∧
      first.heard? = some heard ∧ heard.StartsBatch b.nextBatch := by
  have none_yet : Gathers m turns { b with nextBatch := nextBatchId b.nextBatch } b.nextBatch [] :=
    ⟨⟨start.service, start.steady⟩, Multiplexer.carried_of_spares spares, by simp⟩
  rw [startBatch] at opens
  split at opens
  · cases opens
  · rename_i called returned
    cases opens
    cases result_eq : called.result with
    | error status =>
      rw [result_eq] at ok
      cases ok
    | ok result =>
      obtain ⟨rest, first, waits, gathers, heard⟩ :=
        none_yet.of_ok fresh coherent few rfl (by simp) returned result_eq
      exact ⟨_, first, _, gathers, length_submitted_call _ _ waits, heard,
        startsBatch_hearing ..⟩

/-- **A batch that its owner has built** in the life of a connection: it was opened with success,
and then operations were added to it, one after the other. -/
inductive Built (m : Multiplexer σ (Callback (Option τ)))
    (earlier : List (Turn σ (Callback (Option τ)))) (calls : List (Addition σ τ)) :
    Blocking σ τ → OpenBatch → Prop
  | intro {b b₁ : Blocking σ τ} (start : Moment m earlier b) {patience : Nat}
      {opened : Called σ τ OpenBatch} (opens : b.startBatch patience = some opened)
      {batch batch₁ : OpenBatch} (ok : opened.result = .ok batch)
      (adds : opened.connection.Adds batch calls b₁ batch₁) {s : σ}
      (still : gauge s = gauge b₁.inner.service.channel) :
      Built m earlier calls (b₁.withChannel s) batch₁

omit [SteadyWaits σ] in
/-- Directly behind the last call, the batch **has been built**. -/
theorem built_of_adds {b₁ : Blocking σ τ} (start : Moment m turns b) {patience : Nat}
    {opened : Called σ τ OpenBatch} (opens : b.startBatch patience = some opened)
    {batch batch₁ : OpenBatch} (ok : opened.result = .ok batch) {calls : List (Addition σ τ)}
    (adds : opened.connection.Adds batch calls b₁ batch₁) : Built m turns calls b₁ batch₁ :=
  .intro start opens ok adds (s := b₁.inner.service.channel) rfl

omit [SteadyWaits σ] in
/-- Every operation of a batch **has been counted**. -/
theorem Built.count_eq {calls : List (Addition σ τ)} {batch : OpenBatch}
    (h : Built m turns calls b batch) : batch.count = UInt32.ofNat calls.length := by
  cases h with
  | intro start opens ok adds still =>
    rw [adds.count_eq, eq_of_startBatch opens ok, UInt32.zero_add]

/-- **The requests of a batch** that has been built: the one that opens it, and one for each
operation that was queued. -/
theorem Built.exists_turns {calls : List (Addition σ τ)} {batch : OpenBatch}
    (h : Built m turns calls b batch) (fresh : m.Fresh) (coherent : m.Coherent)
    (spares : ∀ turn ∈ turns, turn.Spares batch.id)
    (few : (Turn.submitted turns).length + calls.length + 1 < 2 ^ 63) :
    ∃ more first new heard, Gathers m (turns ++ more) b batch.id (first :: new) ∧
      (Turn.submitted more).length = calls.length + 1 ∧
      first.heard? = some heard ∧ heard.StartsBatch batch.id ∧
      List.Forall₂ (BatchOperation.Appears batch.id)
        ((calls.filter (·.queues batch.id)).map Addition.operation)
        (new.filterMap QueuedRequest.heard?) ∧
      (b.inner.service.failed = false →
        ∀ call ∈ calls, call.connection.inner.service.failed = false) := by
  cases h with
  | @intro b b₁ start patience opened opens batch batch₁ ok adds s still =>
    rw [adds.id_eq] at spares ⊢
    rw [eq_of_startBatch opens ok] at spares adds ⊢
    obtain ⟨opening, first, heard, gathers, one, hears, starts⟩ :=
      gathers_of_startBatch fresh coherent start spares (by omega) opens ok
    have opened_eq : (Turn.submitted (turns ++ opening)).length =
        (Turn.submitted turns).length + 1 := by
      rw [Turn.submitted_append, List.length_append, one]
    obtain ⟨adding, new, added, length_eq, appear, alive⟩ :=
      adds.gathers fresh coherent (by omega) gathers
    have added_eq : (Turn.submitted (turns ++ opening ++ adding)).length =
        (Turn.submitted turns).length + 1 + calls.length := by
      rw [Turn.submitted_append, List.length_append, opened_eq, length_eq]
    refine ⟨opening ++ adding ++ [.elapse s], first, new, heard, ?_, ?_, hears, starts, appear,
      alive⟩
    · simpa using added.elapse fresh (by omega) still
    · rw [Turn.submitted_append, Turn.submitted_append, List.length_append, List.length_append, one,
        length_eq, Nat.add_comm 1]
      rfl

end Start

/-! ## Ending a batch -/

section Finish

variable [Channel σ] [Metered σ] [Pollable σ] [SteadyWaits σ]
  {m : Multiplexer σ (Callback (Option τ))} {turns : List (Turn σ (Callback (Option τ)))}
  {b : Blocking σ τ} {id : UInt32} {requests : List (QueuedRequest (Callback (Option τ)))}
  {request : Request reply}

omit [Pollable σ] [SteadyWaits σ] in
/-- **No call takes back** a request that was queued before it. -/
theorem Gathers.key_ne (h : Gathers m turns b id requests) (fresh : m.Fresh)
    (few : (Turn.submitted turns).length < 2 ^ 63)
    {queued : QueuedRequest (Callback (Option τ))} (mem : queued ∈ requests) :
    queued.key ≠ b.inner.service.nextKey := by
  have known : queued.ticket ∈ Event.tickets (m.live turns).events := by
    rw [Event.tickets_eq]
    exact List.mem_map_of_mem
      (Event.mem_requests.mpr (Multiplexer.mem_carried.mp (h.carried ▸ mem)).1)
  have lt := ((numbered_live fresh turns few).bounded _ known).2.2
  rw [h.moment.service]
  intro same
  have key_eq : queued.ticket.key = (m.live turns).service.nextKey := same
  rw [key_eq] at lt
  exact Nat.lt_irrefl _ lt

omit [Metered σ] [Pollable σ] [SteadyWaits σ] in
/-- What a call queues has **the next key**, and a handler if it asks for anything. -/
theorem key_eq_of_submitting {queued : QueuedRequest (Callback (Option τ))}
    (mem : queued ∈ b.inner.service.carried [b.submitting request] id) :
    queued.key = b.inner.service.nextKey ∧
      (reply ≠ .silence → queued.handler.isSome = true) := by
  have submits : .queued queued ∈ (b.inner.service.turn (b.submitting request)).events := by
    have now := (Multiplexer.mem_carried.mp mem).1
    rw [Multiplexer.live_cons] at now
    exact (List.mem_append.mp now).resolve_right List.not_mem_nil
  obtain ⟨envelope, command, value, handler, turn_eq, -, prepared⟩ :=
    Multiplexer.prepare_of_queued submits
  obtain ⟨-, frame, -, rfl⟩ := Outbox.exists_frame_of_prepare prepared
  cases turn_eq
  exact ⟨rfl, fun asks => by simp [asks]⟩

/-- **What has become of the requests of a batch** once the last ones have been submitted: none of
those before them has been taken back, and nor have the last ones, unless they have been recalled
and are gone. -/
structure Concluded (m : Multiplexer σ (Callback (Option τ)))
    (turns : List (Turn σ (Callback (Option τ)))) (id : UInt32)
    (requests last : List (QueuedRequest (Callback (Option τ)))) (recalled : Prop) : Prop where
  carried : m.carried turns id = requests ++ last
  kept : ∀ queued ∈ requests, ¬ m.Withdraws turns queued.sequence
  gone : recalled → ∀ queued ∈ last, Gone (m.live turns).events (m.live turns).service queued
  stays : ¬ recalled → ∀ queued ∈ last, ¬ m.Withdraws turns queued.sequence

omit [Pollable σ] [SteadyWaits σ] in
/-- **Requests that stay** conclude a batch. -/
theorem Gathers.concluded {last : List (QueuedRequest (Callback (Option τ)))}
    (h : Gathers m turns b id (requests ++ last)) {recalled : Prop} (stays : ¬ recalled) :
    Concluded m turns id requests last recalled where
  carried := h.carried
  kept queued mem := h.kept queued (List.mem_append_left _ mem)
  gone recalls := absurd recalls stays
  stays _ queued mem := h.kept queued (List.mem_append_right _ mem)

omit [Pollable σ] [SteadyWaits σ] in
/-- **Taking back the last requests** of a batch concludes it, whether any of them still waits for
its turn or not. None of them does afterwards. -/
theorem Gathers.remove {last : List (QueuedRequest (Callback (Option τ)))}
    (h : Gathers m turns b id (requests ++ last)) (fresh : m.Fresh)
    (few : (Turn.submitted turns).length < 2 ^ 63) {key : RequestKey}
    (others : ∀ queued ∈ requests, queued.key ≠ key) (own : ∀ queued ∈ last, queued.key = key)
    (s : σ) :
    Concluded m (turns ++ [.remove key, .elapse s]) id requests last
        (∃ queued ∈ b.inner.service.outbox.queue, queued.key = key) ∧
      ∀ queued ∈ last,
        queued ∉ (m.live (turns ++ [.remove key, .elapse s])).service.outbox.queue := by
  have spares : ∀ turn ∈ ([.remove key, .elapse s] : List (Turn σ (Callback (Option τ)))),
      turn.Spares id := by simp [Turn.Spares]
  have few' : (Turn.submitted (turns ++ [.remove key, .elapse s])).length < 2 ^ 63 := by
    rwa [Turn.submitted_append, List.length_append]
  have carried_eq : m.carried (turns ++ [.remove key, .elapse s]) id = requests ++ last := by
    rw [Multiplexer.carried_append, h.carried, Multiplexer.carried_of_spares spares,
      List.append_nil]
  have split : turns ++ [.remove key, .elapse s] = turns ++ [.remove key] ++ [.elapse s] := by simp
  constructor
  · constructor
    case carried => exact carried_eq
    case kept =>
      intro queued mem withdrawn
      have known := Multiplexer.mem_carried.mp (carried_eq ▸ List.mem_append_left last mem)
      rcases withdrawn.of_append fresh (numbered_live fresh _ few') known.1 with earlier | now
      · exact h.kept queued (List.mem_append_left _ mem) earlier
      · exact others queued mem (by simpa using now)
    case gone =>
      intro waiting queued mem
      have known := Multiplexer.mem_carried.mp (h.carried ▸ List.mem_append_right requests mem)
      have gone := Multiplexer.gone_of_removed fresh few known.1 (own queued mem)
        (h.moment.service ▸ waiting)
      rw [split, Multiplexer.live_concat]
      exact ⟨gone.unsent, by simpa [Multiplexer.turn] using gone.wire⟩
    case stays =>
      intro nobody queued mem withdrawn
      rcases Multiplexer.withdraws_append.mp withdrawn with
        earlier | ⟨_ | ⟨_, past⟩, other_key, after, turns_eq, other, waiting, other_own, -⟩
      · exact h.kept queued (List.mem_append_right _ mem) earlier
      · cases turns_eq
        exact nobody ⟨other, h.moment.service ▸ waiting, other_own⟩
      · have inside : .remove other_key ∈ ([.elapse s] : List (Turn σ (Callback (Option τ)))) := by
          rw [(List.cons.inj turns_eq).2]
          simp
        simp at inside
  · intro queued mem waiting
    rw [split, Multiplexer.live_concat] at waiting
    exact Multiplexer.key_ne_of_removed fresh few waiting (own queued mem)

/-- **When a call has returned** whose request has the number of a batch, it has concluded the batch
so far, and the request does not wait for its turn any more. -/
theorem Gathers.returned (h : Gathers m turns b id requests) (fresh : m.Fresh)
    (few : (Turn.submitted turns).length + 1 < 2 ^ 63) (asks : reply ≠ .silence) {patience : Nat}
    {policy : WaitPolicy} {called : Called σ τ reply.Result}
    (returned : b.callWith patience policy request = some called) :
    ∃ more, Moment m (turns ++ more) called.connection ∧ (Turn.submitted more).length = 1 ∧
      Concluded m (turns ++ more) id requests
        (b.inner.service.carried [b.submitting request] id)
        (b.Recalls policy.timeout request) ∧
      ∀ queued ∈ b.inner.service.carried [b.submitting request] id,
        queued ∉ (m.live (turns ++ more)).service.outbox.queue := by
  have few' {rest : List (Turn σ (Callback (Option τ)))} (waits : ∀ turn ∈ rest, turn.Waits) :
      (Turn.submitted (turns ++ b.submitting request :: rest)).length < 2 ^ 63 := by
    rwa [Turn.submitted_append, List.length_append, length_submitted_call b request waits]
  cases callWith_returns h.moment returned with
  | @answered holds rest waits moment completion mem own_key read =>
    have all := h.call fresh few request waits moment
    have told : completion ∈
        Event.completions (m.live (turns ++ b.submitting request :: rest)).events := by
      rw [Multiplexer.live_append, Event.completions_append]
      exact List.mem_append_right _ mem
    refine ⟨_, moment, length_submitted_call b request waits,
      all.concluded fun ⟨b₁, givesUp, _⟩ => holds b₁ givesUp, fun queued new waiting => ?_⟩
    obtain ⟨key_eq, asked⟩ := key_eq_of_submitting new
    exact Multiplexer.key_ne_of_completed fresh (few' waits) told waiting (asked asks)
      (key_eq.trans own_key.symm)
  | @gaveUp b₁ rest s givesUp waits before moment status failed =>
    have concluded := (h.call fresh few request waits before).remove fresh (few' waits)
      (fun _ mem => h.key_ne fresh (Nat.lt_of_succ_lt few) mem)
      (fun _ new => (key_eq_of_submitting new).1) s
    rw [← givesUp.recalls_iff, List.append_assoc] at concluded
    refine ⟨b.submitting request :: rest ++ [.remove b.inner.service.nextKey, .elapse s], ?_, ?_,
      concluded⟩
    · rwa [← List.append_assoc]
    · rw [Turn.submitted_append, List.length_append, length_submitted_call b request waits]
      rfl

end Finish

/-! ## Committed batches -/

section Committed

variable [Channel σ] [Metered σ] [Pollable σ] [SteadyWaits σ]
  {m : Multiplexer σ (Callback (Option τ))} {turns : List (Turn σ (Callback (Option τ)))}
  {b : Blocking σ τ}

/-- **Moments since a batch is committed**: behind each of the runs of the call that commits it, and
whenever that call has returned and the owner has done something else since. -/
inductive SinceCommit (b : Blocking σ τ) (batch : OpenBatch) :
    List (Turn σ (Callback (Option τ))) → Multiplexer σ (Callback (Option τ)) → Prop
  | during {n : Nat} {done : List (Completion (Callback (Option τ)))} {b' : Blocking σ τ}
      (run : b.CallRun batchPolicy.timeout (.endBatch batch.id batch.count) n done b') :
      SinceCommit b batch [] b'.ran.service
  | behind {patience : Nat} {called : Called σ τ Unit}
      (returned : b.commit patience batch = some called)
      {later : List (Turn σ (Callback (Option τ)))}
      (steady : called.connection.inner.service.Steady later) :
      SinceCommit b batch later (called.connection.inner.service.live later).service

/-- **What a connection has done** since a batch is committed: it has queued the request that
commits it, and none of those before it has been taken back. If the owner has done something else
since, that request does not wait for its turn any more. -/
theorem SinceCommit.exists_turns {batch : OpenBatch} {later : List (Turn σ (Callback (Option τ)))}
    {now : Multiplexer σ (Callback (Option τ))} (since : b.SinceCommit batch later now)
    (fresh : m.Fresh) {requests : List (QueuedRequest (Callback (Option τ)))}
    (h : Gathers m turns b batch.id requests) (few : (Turn.submitted turns).length + 1 < 2 ^ 63) :
    ∃ more, (m.live (turns ++ more ++ later)).service = now ∧
      m.Steady (turns ++ more ++ later) ∧ (Turn.submitted more).length = 1 ∧
      m.carried (turns ++ more) batch.id =
        requests ++ b.inner.service.carried [b.submitting (.endBatch batch.id batch.count)]
          batch.id ∧
      (∀ queued ∈ requests, ¬ m.Withdraws (turns ++ more) queued.sequence) ∧
      (later = [] ∨ ∀ queued ∈ b.inner.service.carried
        [b.submitting (.endBatch batch.id batch.count)] batch.id,
          queued ∉ (m.live (turns ++ more)).service.outbox.queue) := by
  cases since with
  | @during n done b' run =>
    obtain ⟨rest, waits, moment, -⟩ := run.moment h.moment
    have runs : Moment m (turns ++ b.submitting (.endBatch batch.id batch.count) :: rest ++ [.run])
        b'.afterRun := moment.run rfl
    rw [List.append_assoc, List.cons_append] at runs
    have waits' : ∀ turn ∈ rest ++ [.run], turn.Waits := by
      simpa [or_imp, forall_and, Turn.Waits] using waits
    have all := h.call fresh few _ waits' runs
    refine ⟨_, ?_, ?_, length_submitted_call b _ waits', all.carried,
      fun queued mem => all.kept queued (List.mem_append_left _ mem), .inl rfl⟩
    · rw [List.append_nil, ← runs.service]
      rfl
    · rw [List.append_nil]
      exact runs.steady
  | behind returned steady =>
    obtain ⟨more, moment, length_eq, concluded, settled⟩ := h.returned fresh few (by simp) returned
    refine ⟨more, ?_, ?_, length_eq, concluded.carried, concluded.kept, .inr settled⟩
    · rw [Multiplexer.live_append, moment.service]
    · rw [moment.service] at steady
      exact moment.steady.append steady

/-- The operations of a batch **commit nothing**. -/
theorem not_commits_of_appear {id : UInt32} {operations : List BatchOperation}
    {requests : List HeardRequest}
    (appear : List.Forall₂ (BatchOperation.Appears id) operations requests)
    {heard : HeardRequest} (mem : heard ∈ requests) :
    heard.command.header.messageType ≠ some .endBatch := by
  induction appear with
  | nil => cases mem
  | @cons operation first operations requests appears appear ih =>
    rcases List.mem_cons.mp mem with rfl | later
    · cases operation <;> simp [appears.messageType]
    · exact ih later

/-- Requests that make up **a whole batch**: one that opens it, one for each operation, and one that
commits so many. -/
def WholeBatch (id : UInt32) (operations : List BatchOperation) (requests : List HeardRequest) :
    Prop :=
  ∃ start middle finish, requests = start :: (middle ++ [finish]) ∧ start.StartsBatch id ∧
    List.Forall₂ (BatchOperation.Appears id) operations middle ∧
    finish.EndsBatch id operations.length

/-- **A committed batch is what its owner built.** Let a batch be opened with success at any moment
in the life of a connection that was started, let operations be added to it, whatever comes of each
call as long as its request fits into a frame, and let nothing else be submitted with the number of
the batch. Once a request that commits it has been written entirely, while the batch is being
committed or at any moment later, the requests written with its number are the one that opens it,
one for each operation, in order and with all that its owner gave, and the one that commits that
many operations. In whatever pieces the channel takes what it is offered, there is no other. -/
theorem committed_batch_is_whole {patience : Nat} {signer : Signer} {options : Options} {s : σ}
    {m now : Multiplexer σ (Callback (Option τ))}
    (started : Multiplexer.start patience signer options s = some (.ok m))
    {earlier later : List (Turn σ (Callback (Option τ)))} {calls : List (Addition σ τ)}
    {batch : OpenBatch} (built : Built m earlier calls b batch)
    (countable : calls.length < 2 ^ 32) (fit : ∀ call ∈ calls, call.fits batch.id = true)
    (since : b.SinceCommit batch later now)
    (spares : ∀ turn ∈ earlier ++ later, turn.Spares batch.id)
    (few : (Turn.submitted (earlier ++ later)).length + calls.length + 2 < 2 ^ 63)
    {stream : Bytes} (written : (gauge now.channel).accepted = (gauge m.channel).accepted ++ stream)
    {finish : HeardRequest} (hears : finish ∈ heardIn stream)
    (own : finish.command.header.batchId = some batch.id)
    (commits : finish.command.header.messageType = some .endBatch) :
    WholeBatch batch.id (calls.map Addition.operation)
      ((heardIn stream).filter (·.carries batch.id)) := by
  have fresh := Multiplexer.fresh_of_start started
  have coherent := Multiplexer.coherent_of_start started
  rw [Turn.submitted_append, List.length_append] at few
  obtain ⟨building, first, new, start, gathers, building_eq, first_heard, starts, appear, alive⟩ :=
    built.exists_turns fresh coherent (fun turn mem => spares turn (List.mem_append_left _ mem))
      (by omega)
  have built_eq : (Turn.submitted (earlier ++ building)).length =
      (Turn.submitted earlier).length + calls.length + 1 := by
    rw [Turn.submitted_append, List.length_append, building_eq]
    omega
  obtain ⟨committing, now_eq, steady, one, carried_eq, kept, settled⟩ :=
    since.exists_turns fresh gathers (by omega)
  have few_all : (Turn.submitted (earlier ++ building ++ committing ++ later)).length < 2 ^ 63 := by
    rw [Turn.submitted_append, Turn.submitted_append, List.length_append, List.length_append,
      built_eq, one]
    omega
  -- the meter says what the events say
  have stream_eq : stream =
      (Event.wire (m.live (earlier ++ building ++ committing ++ later)).events).map Prod.snd := by
    have shows := congrArg Gauge.accepted (gauge_live coherent steady)
    rw [now_eq, written, Gauge.accepted_afterAll] at shows
    exact List.append_cancel_left shows
  subst stream_eq
  have spares_later : ∀ turn ∈ later, turn.Spares batch.id :=
    fun turn mem => spares turn (List.mem_append_right _ mem)
  have front_commits_nothing : ∀ request ∈ first :: new, ∀ heard, request.heard? = some heard →
      heard.command.header.messageType ≠ some .endBatch := by
    intro request mem heard request_heard
    rcases List.mem_cons.mp mem with rfl | among
    · rw [first_heard] at request_heard
      rw [← Option.some.inj request_heard, starts.messageType]
      decide
    · exact not_commits_of_appear appear (List.mem_filterMap.mpr ⟨request, among, request_heard⟩)
  -- so what commits the batch is heard of the request that the call has queued
  obtain ⟨added, nothing⟩ := b.carried_submitting
    (gathers.moment.service ▸ (coherent.live (earlier ++ building)).outbox)
    (.endBatch batch.id batch.count) rfl
  obtain ⟨request, carried, request_heard⟩ := exists_carried_of_heard fresh hears
    (by simpa [HeardRequest.carries] using own)
  rw [Multiplexer.carried_append, carried_eq, Multiplexer.carried_of_spares spares_later,
    List.append_nil] at carried
  have last := (List.mem_append.mp carried).resolve_left fun among =>
    front_commits_nothing request among finish request_heard commits
  have queued : b.inner.service.failed = false ∧
      b.fits (.endBatch batch.id batch.count) = true := by
    by_contra refused
    rw [not_and_or, Bool.not_eq_false, Bool.not_eq_true] at refused
    rw [nothing refused] at last
    cases last
  obtain ⟨ending, ending_eq, -, -, ending_heard⟩ := added queued.1 queued.2
  rw [ending_eq] at carried_eq settled
  have whole := filter_heardIn_of_last fresh few_all spares_later carried_eq kept
    (settled.imp_right fun settled => settled ending (List.mem_singleton_self _)) hears
    (by simpa [HeardRequest.carries] using own)
    fun request mem request_heard => front_commits_nothing request mem finish request_heard commits
  have queues : calls.filter (·.queues batch.id) = calls := by
    rw [List.filter_eq_self]
    intro call mem
    simp [Addition.queues, alive queued.1 call mem, fit call mem]
  rw [queues] at appear
  have ends := b.endsBatch_hearing batch.id batch.count ending.sequence
  rw [built.count_eq, UInt32.toNat_ofNat_of_lt' countable] at ends
  refine ⟨start, _, _, ?_, starts, appear, by simpa using ends⟩
  rw [whole, List.filterMap_append]
  simp [first_heard, ending_heard, built.count_eq]

end Committed

/-! ## A batch that waits in the queue -/

section Granted

open Simulation (Drive)

/-- A drive that grants every request, and takes **nothing of the operations** of a batch until it
is committed. -/
def grantingDrive : Recorder Drive where
  channel :=
    { key := [1]
      queue := [.bytes hello]
      reply := [.frame
        { auth := .pin
          command := .response {} .echo (.given .empty) (some { code := .success }) }]
      writes := [.upTo 500, .block, .block, .upTo 20] }

def grantedPut : BatchOperation :=
  .put [1] [] .ignoreVersion { value := [2, 3], version := [4] }

def grantedDelete : BatchOperation := .delete [5] [6] .requireSameVersion

/-- A connection that waits for each answer, and **a batch opened** on it. -/
def opening (m : Multiplexer (Recorder Drive) (Callback (Option Nat))) :
    Option (Called (Recorder Drive) Nat OpenBatch) :=
  startBatch 2 (.ofConnection ⟨m, 0, .normal, none⟩ (.seconds 1))

/-- A batch is committed while one of its operations is being written and another one waits in the
queue, and behind the call that commits it **all of it has been written**. -/
theorem committed_batch_is_whole_granted :
    ∃ (m : Multiplexer (Recorder Drive) (Callback (Option Nat)))
      (calls : List (Addition (Recorder Drive) Nat)) (b : Blocking (Recorder Drive) Nat)
      (batch : OpenBatch) (called : Called (Recorder Drive) Nat Unit),
      Multiplexer.start 2 (.constant [7]) { hmacKey := [1] } grantingDrive = some (.ok m) ∧
      Built m [] calls b batch ∧ calls.map Addition.operation = [grantedPut, grantedDelete] ∧
      b.inner.service.outbox.queue.length = 1 ∧ b.commit 2 batch = some called ∧
      WholeBatch batch.id [grantedPut, grantedDelete]
        ((heardIn (gauge called.connection.inner.service.channel).accepted).filter
          (·.carries batch.id)) := by
  have check : ((Multiplexer.start 2 (.constant [7]) { hmacKey := [1] } grantingDrive :
      Option (Except Failure (Multiplexer (Recorder Drive) (Callback (Option Nat))))).any
        fun started => started.toOption.any fun m => (opening m).any fun opened =>
          opened.result.toOption.any fun batch =>
            let first := opened.connection.add batch grantedPut
            let second := first.1.connection.add first.2 grantedDelete
            (second.1.connection.commit 2 second.2).any fun called =>
              (heardIn (gauge called.connection.inner.service.channel).accepted).any fun finish =>
                decide ((gauge m.channel).accepted = [] ∧
                  opened.connection.fits (grantedPut.request batch.id) = true ∧
                  first.1.connection.fits (grantedDelete.request batch.id) = true ∧
                  second.1.connection.inner.service.outbox.queue.length = 1 ∧
                  finish.command.header.batchId = some batch.id ∧
                  finish.command.header.messageType = some .endBatch)) = true := by
    decide +kernel
  obtain ⟨m, started, check⟩ := exists_started check
  obtain ⟨opened, opens, check⟩ := (Option.any_eq_true _ _).mp check
  obtain ⟨batch, ok, check⟩ := (Option.any_eq_true _ _).mp check
  obtain ⟨called, commits, check⟩ := (Option.any_eq_true _ _).mp check
  obtain ⟨finish, hears, check⟩ := List.any_eq_true.mp check
  obtain ⟨empty, fits_put, fits_delete, waits, own, ends⟩ := of_decide_eq_true check
  have start : Moment m [] (.ofConnection ⟨m, 0, .normal, none⟩ (.seconds 1)) :=
    ⟨rfl, .of_none (by simp)⟩
  have adds := (Adds.none : opened.connection.Adds batch [] _ _).behind grantedPut
    |>.behind grantedDelete
  have built := built_of_adds start opens (eq_ok_of_toOption ok) adds
  have fit : ∀ call ∈ ([⟨opened.connection, grantedPut⟩,
      ⟨(opened.connection.add batch grantedPut).1.connection, grantedDelete⟩] :
        List (Addition (Recorder Drive) Nat)), call.fits batch.id = true := by
    simpa [Addition.fits] using ⟨fits_put, fits_delete⟩
  have since := SinceCommit.behind commits
    (.of_none (by simp) : called.connection.inner.service.Steady [])
  exact ⟨m, _, _, _, called, started, built, rfl, waits, commits,
    committed_batch_is_whole started built (by simp) fit since (by simp) (by simp [Turn.submitted])
      (by rw [empty]; rfl) hears own ends⟩

end Granted

end Blocking

end DriveLink
