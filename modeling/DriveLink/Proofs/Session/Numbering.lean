import DriveLink.Proofs.Session.Batches
import DriveLink.Proofs.Session.Headers

/-! # The numbers of batches

A connection gives each batch that is opened on it a number of its own. The numbers are used in
turn, from one on, whether the batch is opened or not. After the largest number of 32 bits comes one
again and never zero, so that no number comes back before all others have been used. Nothing else
that is done with the connection uses up a number, and what the drive hears of a call that opens a
batch is a request with the number that it was the turn of.

* `InTurn`, `InTurn.nodup_window` — numbers that are used in turn;
* `BatchCall`, `Errand`, `Blocking.Course` — what is done with a connection, one thing after the
  other, and the calls among it that open batches;
* `Blocking.Course.add` and its like — what is done with a batch, as errands;
* `Blocking.Course.inTurn` — the numbers of the calls that open batches;
* `BatchCall.Sends`, `Blocking.Course.sends` — what each of these calls sends;
* `Blocking.Stirs`, `Blocking.Traces` — what the connection below does in one errand, and in all;
* `Blocking.batches_are_numbered_in_turn` — the numbers of all batches, as the drive hears them. -/

namespace DriveLink

open Metered (gauge)
open Simulation (HeardRequest)

variable {σ τ : Type}

/-! ## One number after the other -/

/-- **The next number** is greater by one, unless there is no greater one: then it is one. -/
theorem toNat_nextBatchId (id : UInt32) :
    (nextBatchId id).toNat = id.toNat % (2 ^ 32 - 1) + 1 := by
  have bounded := id.toNat_lt
  have succ : (id + 1).toNat = (id.toNat + 1) % 2 ^ 32 := rfl
  rw [nextBatchId]
  split
  · rename_i wraps
    have zero : (id + 1).toNat = 0 := congrArg UInt32.toNat wraps
    have one : (1 : UInt32).toNat = 1 := rfl
    omega
  · rename_i goes_on
    have positive : (id + 1).toNat ≠ 0 := fun zero => goes_on (UInt32.toNat.inj zero)
    omega

/-- Numbers that are **used in turn**: all from one on, and then from one on again. -/
def InTurn (numbers : List UInt32) : Prop :=
  ∀ n number, numbers[n]? = some number → number.toNat = n % (2 ^ 32 - 1) + 1

namespace InTurn

variable {numbers : List UInt32} {number : UInt32}

theorem nil : InTurn [] := nofun

/-- Numbers stay in turn if **the one whose turn it is** comes behind them. -/
theorem concat (h : InTurn numbers) (next : number.toNat = numbers.length % (2 ^ 32 - 1) + 1) :
    InTurn (numbers ++ [number]) := by
  intro n other at_n
  rcases getElem?_of_concat at_n with before | ⟨rfl, rfl⟩
  · exact h n other before
  · exact next

/-- **No number comes back** before all others have been used. -/
theorem nodup_window (h : InTurn numbers) (n : Nat) :
    ((numbers.drop n).take (2 ^ 32 - 1)).Nodup := by
  rw [List.nodup_iff_getElem?_ne_getElem?]
  intro i j lt inside same
  have near : j < 2 ^ 32 - 1 := Nat.lt_of_lt_of_le inside (List.length_take_le ..)
  have at_j := List.getElem?_eq_getElem inside
  rw [at_j, List.getElem?_take_of_lt (Nat.lt_trans lt near), List.getElem?_drop] at same
  rw [List.getElem?_take_of_lt near, List.getElem?_drop] at at_j
  have first := h _ _ same
  have second := h _ _ at_j
  omega

end InTurn

/-! ## What is done with a connection -/

/-- **A call that opens a batch**: on which connection it is made, and what it comes to. -/
structure BatchCall (σ τ : Type) where
  connection : Blocking σ τ
  called : Called σ τ OpenBatch

/-- The **number** whose turn it is. -/
def BatchCall.number (call : BatchCall σ τ) : UInt32 := call.connection.nextBatch

/-- **What the drive is asked for** by one operation of a batch. -/
def BatchOperation.asked (id : UInt32) : BatchOperation → DriveOperation
  | put key currentVersion mode record => .batchPut id key currentVersion mode record
  | delete key version mode => .batchDelete id key version mode

/-- **What is done with a connection** that waits. To commit a batch or to discard it is a call like
any other. To add to a batch, or to abandon it, is to ask for something on the connection below
without waiting for it, and to run that connection. -/
inductive Errand (σ τ : Type)
  | openBatch (call : BatchCall σ τ)
  | call (operation : DriveOperation)
  /-- Something is done with the connection below, or its channel comes to another state. -/
  | use (use : Use σ (Option τ))
  | setNetworkTimeout (networkTimeout : Duration)

namespace Errand

/-- The call that opens a batch, if the errand is one. -/
def batchCall? : Errand σ τ → Option (BatchCall σ τ)
  | openBatch opens => some opens
  | _ => none

/-- **The calls that open batches**, in order. -/
def batchCalls (errands : List (Errand σ τ)) : List (BatchCall σ τ) := errands.filterMap batchCall?

/-- **What the drive is asked for**, if it is asked for anything. -/
def operation? : Errand σ τ → Option DriveOperation
  | openBatch opens => some (.startBatch opens.number)
  | call operation | use (.ask operation _) => some operation
  | _ => none

end Errand

/-- The drive hears a request **for this operation**. -/
structure Simulation.HeardRequest.AsksFor (heard : HeardRequest) (operation : DriveOperation) :
    Prop where
  messageType : heard.command.header.messageType = some operation.messageType
  batchId : heard.command.header.batchId = operation.batch?
  body : heard.command.body = operation.request.command.body.withoutDeviceLog
  value : heard.value = operation.request.value

/-- The drive hears a request for **what the errand asks for**. -/
def Errand.Asks (errand : Errand σ τ) (heard : HeardRequest) : Prop :=
  ∃ operation, errand.operation? = some operation ∧ heard.AsksFor operation

namespace Blocking

variable [Channel σ] [Metered σ] [Pollable σ]

/-- **One errand**, whatever it comes to. If the channel changes by itself, it takes nothing. -/
inductive Undergoes : Blocking σ τ → Errand σ τ → Blocking σ τ → Prop
  | openBatch {b : Blocking σ τ} {waits : Nat} {called : Called σ τ OpenBatch}
      (returned : b.startBatch waits = some called) :
      Undergoes b (.openBatch ⟨b, called⟩) called.connection
  | call {b : Blocking σ τ} (operation : DriveOperation) {policy : WaitPolicy} {waits : Nat}
      {called : Called σ τ operation.reply.Result}
      (returned : b.callWith waits policy operation.request = some called) :
      Undergoes b (.call operation) called.connection
  | use (b : Blocking σ τ) {use : Use σ (Option τ)}
      (still : ∀ s, use = .elapse s → gauge s = gauge b.inner.service.channel) :
      Undergoes b (.use use) { b with inner := (b.inner.use use).2 }
  | setNetworkTimeout (b : Blocking σ τ) (networkTimeout : Duration) :
      Undergoes b (.setNetworkTimeout networkTimeout) { b with networkTimeout }

/-- **Errands one after the other**, each on what the one before it has left. -/
inductive Course (b : Blocking σ τ) : List (Errand σ τ) → Blocking σ τ → Prop
  | nothing : Course b [] b
  | behind {errands : List (Errand σ τ)} {b₁ b₂ : Blocking σ τ} {errand : Errand σ τ}
      (earlier : Course b errands b₁) (undergoes : b₁.Undergoes errand b₂) :
      Course b (errands ++ [errand]) b₂

section Course

variable {b b₁ : Blocking σ τ} {errands : List (Errand σ τ)}

/-- **To commit a batch** is a call like any other. -/
theorem Undergoes.commit {batch : OpenBatch} {waits : Nat} {called : Called σ τ Unit}
    (returned : b.commit waits batch = some called) :
    b.Undergoes (.call (.endBatch batch.id batch.count)) called.connection :=
  .call (.endBatch batch.id batch.count) returned

/-- **To discard a batch** is a call like any other. -/
theorem Undergoes.abort {batch : OpenBatch} {waits : Nat} {called : Called σ τ Unit}
    (returned : b.abort waits batch = some called) :
    b.Undergoes (.call (.abortBatch batch.id)) called.connection :=
  .call (.abortBatch batch.id) returned

/-- What is **done with the connection below** may be done behind other errands, if it is not the
channel that changes. -/
theorem Course.use (h : b.Course errands b₁) (use : Use σ (Option τ))
    (acts : ∀ s, use ≠ .elapse s) :
    b.Course (errands ++ [.use use]) { b₁ with inner := (b₁.inner.use use).2 } :=
  h.behind (.use b₁ fun s elapses => absurd elapses (acts s))

/-- **To add to a batch** is to ask for something, and to run the connection. -/
theorem Course.add (h : b.Course errands b₁) (batch : OpenBatch) (operation : BatchOperation) :
    b.Course (errands ++ [.use (.ask (operation.asked batch.id) none)] ++ [.use .run])
      (b₁.add batch operation).1.connection := by
  have asks := (h.use (.ask (operation.asked batch.id) none) nofun).use .run nofun
  cases operation <;> exact asks

/-- **To abandon a batch** is to ask the drive to discard it, and to run the connection. -/
theorem Course.abandon (h : b.Course errands b₁) (batch : OpenBatch) :
    b.Course (errands ++ [.use (.ask (.abortBatch batch.id) none)] ++ [.use .run])
      (b₁.abandon batch).connection :=
  (h.use (.ask (.abortBatch batch.id) none) nofun).use .run nofun

end Course

/-! ## Whose turn it is -/

section Turns

variable {b b' : Blocking σ τ} {errand : Errand σ τ} {errands : List (Errand σ τ)} {reply : Reply}
  {policy : WaitPolicy} {request : Request reply}

omit [Channel σ] [Metered σ] in
/-- **Waiting uses up no number.** -/
theorem nextBatch_wait {readiness : Readiness} {timeout : Duration} {result : Except IoError Bool}
    (waits : b.wait readiness timeout = (result, b')) : b'.nextBatch = b.nextBatch := by
  cases waits
  rfl

omit [Metered σ] in
/-- Up to any run, a call **uses up no number**. -/
theorem CallRun.nextBatch_eq {timeout : Duration} {n : Nat}
    {done : List (Completion (Callback (Option τ)))}
    (h : b.CallRun timeout request n done b') : b'.nextBatch = b.nextBatch := by
  induction h with
  | first => rfl
  | next run alive none ready ih => exact (nextBatch_wait ready).trans ih

omit [Metered σ] in
/-- **A call uses up no number**, except to open a batch. -/
theorem nextBatch_callWith {waits : Nat} {called : Called σ τ reply.Result}
    (returned : b.callWith waits policy request = some called) :
    called.connection.nextBatch = b.nextBatch := by
  obtain ⟨awaited, ends, rfl⟩ := callWith_ends returned
  cases ends with
  | answered run alive found => exact run.nextBatch_eq
  | gaveUp givesUp completions status =>
    cases givesUp with
    | vain run alive none ready vain => exact (nextBatch_wait ready).trans run.nextBatch_eq
    | dead run dead => exact run.nextBatch_eq

/-- **An errand uses up a number** if and only if it is a call that opens a batch. -/
theorem Undergoes.nextBatch_eq (h : b.Undergoes errand b') :
    b'.nextBatch =
      if errand.batchCall?.isSome then nextBatchId b.nextBatch else b.nextBatch := by
  cases h with
  | openBatch returned =>
    obtain ⟨called, returned, same, -⟩ := exists_call_of_startBatch returned
    rw [same, nextBatch_callWith returned]
    rfl
  | call operation returned => exact nextBatch_callWith returned
  | use => rfl
  | setNetworkTimeout => rfl

/-- A call that opens a batch takes the number **whose turn it is on its connection**. -/
theorem Undergoes.number_eq (h : b.Undergoes errand b') {call : BatchCall σ τ}
    (opens : errand.batchCall? = some call) : call.number = b.nextBatch := by
  cases h <;> cases opens
  rfl

/-- **The numbers of the calls that open batches** are used in turn, and the next one is that whose
turn it is. -/
theorem Course.inTurn (h : b.Course errands b') (start : b.nextBatch = 1) :
    InTurn ((Errand.batchCalls errands).map BatchCall.number) ∧
      b'.nextBatch.toNat = (Errand.batchCalls errands).length % (2 ^ 32 - 1) + 1 := by
  induction h with
  | nothing => exact ⟨.nil, by rw [start]; rfl⟩
  | @behind errands b₁ b₂ errand earlier undergoes ih =>
    obtain ⟨inTurn, next⟩ := ih
    have next_eq := undergoes.nextBatch_eq
    rw [Errand.batchCalls, List.filterMap_append]
    cases opens : errand.batchCall? with
    | none =>
      rw [opens] at next_eq
      rw [List.filterMap_cons_none opens, List.filterMap_nil, List.append_nil, next_eq]
      exact ⟨inTurn, next⟩
    | some call =>
      rw [opens] at next_eq
      rw [List.filterMap_cons_some opens, List.filterMap_nil, List.map_append, List.length_append]
      constructor
      · refine inTurn.concat ?_
        rw [undergoes.number_eq opens, List.length_map]
        exact next
      · have one : b₂.nextBatch.toNat = b₁.nextBatch.toNat % (2 ^ 32 - 1) + 1 := by
          rw [next_eq]
          exact toNat_nextBatchId _
        rw [one, next, List.length_singleton]
        show _ = ((Errand.batchCalls errands).length + 1) % _ + 1
        omega

end Turns

end Blocking

/-! ## What the connection below does -/

namespace Multiplexer

variable {η : Type} [Channel σ]

/-- Where nothing is submitted, **nothing is queued**. -/
theorem requests_of_none {m : Multiplexer σ η} {turns : List (Turn σ η)}
    (none : Turn.submitted turns = []) : Event.requests (m.live turns).events = [] := by
  rw [List.eq_nil_iff_forall_not_mem]
  intro request mem
  obtain ⟨before, turn, after, rfl, now⟩ := exists_turn (Event.mem_requests.mp mem)
  obtain ⟨envelope, command, value, handler, rfl, -⟩ := prepare_of_queued now
  rw [Turn.submitted_append] at none
  cases (List.append_eq_nil_iff.mp none).2

end Multiplexer

/-- A request that begins to wait for its answer **is out**. -/
theorem Path.sent_of_tracked {η : Type} [Channel σ] {m m' : Multiplexer σ η}
    {events : List (Event η)} (h : Path m events m') {entry : OutstandingRequest η}
    (tracked : .tracked entry ∈ events) : .sent entry.sequence ∈ events := by
  obtain ⟨before, after, rfl⟩ := List.append_of_mem tracked
  obtain ⟨past, m₁, sooner, later, m₂, rest, so_far, move, -, rfl, -⟩ := h.exists_move rfl
  obtain ⟨request, writer, channel, -, -, rfl, same⟩ := move.of_tracked
  have sequence_eq : request.sequence = entry.sequence := congrArg Ticket.sequence same
  rw [← sequence_eq]
  simp

/-- **Whoever is answered has been written.** Let somebody be called with a response in some turns
whose request was submitted first in them. Then that request was queued in them, and is out. -/
theorem Multiplexer.exists_sent_of_answered {η : Type} [Channel σ] {m : Multiplexer σ η}
    (fresh : m.Fresh) {turns more : List (Turn σ η)}
    (few : (Turn.submitted (turns ++ more)).length < 2 ^ 63) {completion : Completion η}
    (mem : completion ∈ Event.completions ((m.live turns).service.live more).events)
    (own : completion.key = (m.live turns).service.nextKey) {response : Command}
    (answered : completion.outcome.response? = some response) :
    ∃ request ∈ Event.requests ((m.live turns).service.live more).events,
      .sent request.sequence ∈ (m.live (turns ++ more)).events := by
  have path := path_live m (turns ++ more)
  have happened : .completed completion ∈ (m.live (turns ++ more)).events := by
    rw [live_append]
    exact List.mem_append_right _ (Event.mem_completions.mp mem)
  obtain ⟨before, after, split⟩ := List.append_of_mem happened
  obtain ⟨request, frame, envelope, earlier, between, later, before_eq, answeredBy⟩ :=
    path.answered_by fresh split answered
  have queued : .queued request ∈ (m.live (turns ++ more)).events := by
    rw [split, before_eq]
    simp
  have tracked : .tracked ⟨request.sequence, completion.key, completion.handler⟩ ∈
      (m.live (turns ++ more)).events := by
    rw [split, before_eq]
    simp
  refine ⟨request, ?_, path.sent_of_tracked tracked⟩
  -- the keys of the requests that were queued before are smaller
  rw [live_append] at queued
  refine Event.mem_requests.mpr ((List.mem_append.mp queued).resolve_left fun sooner => ?_)
  have now := numbered_live fresh turns (by
    rw [Turn.submitted_append, List.length_append] at few
    omega)
  have lt := (now.bounded request.ticket (List.mem_filterMap.mpr ⟨_, sooner, rfl⟩)).2.2
  have key_eq : request.ticket.key = (m.live turns).service.nextKey := answeredBy.key.trans own
  rw [key_eq] at lt
  exact Nat.lt_irrefl _ lt

/-- **Some requests of an errand**: one at most, and what is heard of it is what the errand asks
for. -/
structure Errand.Queues {η : Type} (errand : Errand σ τ) (requests : List (QueuedRequest η)) :
    Prop where
  one : requests.length ≤ 1
  asks : ∀ request ∈ requests, ∃ heard, request.heard? = some heard ∧ errand.Asks heard

/-- Where an errand submits nothing, it **queues nothing**. -/
theorem Errand.queues_nil {η : Type} (errand : Errand σ τ) :
    errand.Queues ([] : List (QueuedRequest η)) where
  one := Nat.zero_le 1
  asks := nofun

/-- The turn in which an errand asks for something queues **at most the request for it**. -/
theorem Connection.queues_of_asks [Channel σ] {c : Connection σ (Option τ)}
    (operation : DriveOperation) {errand : Errand σ τ} (asks : errand.operation? = some operation)
    (handler : Option (Callback (Option τ))) :
    errand.Queues (Event.requests (c.service.turn (.submit operation.request.envelope
      (c.prepare operation.request.command) operation.request.value handler)).events) where
  one := by
    rcases c.service.requests_turn (.submit operation.request.envelope
      (c.prepare operation.request.command) operation.request.value handler) with
      none | ⟨request, one⟩
    · rw [none]
      exact Nat.zero_le 1
    · rw [one]
      exact Nat.le_refl 1
  asks request mem := by
    obtain ⟨envelope, command, value, handler', turn_eq, hears⟩ :=
      Multiplexer.exists_heard_of_queued (Event.mem_requests.mp mem)
    cases turn_eq
    rw [addressed_prepare] at hears
    exact ⟨_, QueuedRequest.heard?_of_heard hears, operation, asks, rfl, rfl, rfl, rfl⟩

/-- **What a call that opens a batch sends.** It submits one request, and nothing behind it. As long
as the connection is alive and the request fits into a frame, it is queued with the number of the
call. If the drive grants it, the batch has this number, too. -/
structure BatchCall.Sends [Channel σ] (call : BatchCall σ τ) : Prop where
  submits : ∃ rest, Turn.submitted rest = [] ∧ call.called.connection.inner.service =
    (call.connection.inner.service.live
      (call.connection.submitting (.startBatch call.number) :: rest)).service
  queues : call.connection.inner.service.failed = false →
    call.connection.fits (.startBatch call.number) = true →
      ∃ request heard, Event.requests (call.connection.inner.service.turn
          (call.connection.submitting (.startBatch call.number))).events = [request] ∧
        request.heard? = some heard ∧ heard.AsksFor (.startBatch call.number)
  opens : ∀ batch, call.called.result = .ok batch → batch = { id := call.number }

/-- Whoever **reads a result** has been called with a response. -/
theorem Outcome.exists_response_of_read {outcome : Outcome} {reply : Reply} {result : reply.Result}
    (ok : outcome.read reply = .ok result) :
    ∃ response, outcome.response? = some response := by
  cases outcome with
  | answered response value => exact ⟨response, rfl⟩
  | failed status response => cases ok

namespace Blocking

variable [Channel σ]

section Calls

variable {m : Multiplexer σ (Callback (Option τ))}
  {turns : List (Turn σ (Callback (Option τ)))} {b b' : Blocking σ τ} {errand : Errand σ τ}
  {reply : Reply} {policy : WaitPolicy} {request : Request reply}

/-- **What a call asks for** is all that is queued while it is made. -/
theorem requests_of_submitting (b : Blocking σ τ) (request : Request reply)
    {rest : List (Turn σ (Callback (Option τ)))} (nothing : Turn.submitted rest = []) :
    Event.requests (b.inner.service.live (b.submitting request :: rest)).events =
      Event.requests (b.inner.service.turn (b.submitting request)).events := by
  rw [Multiplexer.live_cons, Event.requests_append, Multiplexer.requests_of_none nothing,
    List.append_nil]

variable [Metered σ]

/-- If the errand opens a batch in these turns, **the request for it is out** behind them. -/
def SendsOut (m : Multiplexer σ (Callback (Option τ)))
    (turns more : List (Turn σ (Callback (Option τ)))) (errand : Errand σ τ) : Prop :=
  m.Fresh → (Turn.submitted (turns ++ more)).length < 2 ^ 63 →
    ∀ call batch, errand = .openBatch call → call.called.result = .ok batch →
      ∃ request ∈ Event.requests ((m.live turns).service.live more).events,
        .sent request.sequence ∈ (m.live (turns ++ more)).events

/-- **What is done with the connection below** in an errand: one request at most is submitted, and
what is queued is what the errand asks for. -/
structure Stirs (m : Multiplexer σ (Callback (Option τ)))
    (turns more : List (Turn σ (Callback (Option τ)))) (errand : Errand σ τ)
    (b : Blocking σ τ) : Prop where
  moment : Moment m (turns ++ more) b
  one : (Turn.submitted more).length ≤ 1
  queues : errand.Queues (Event.requests ((m.live turns).service.live more).events)
  out : SendsOut m turns more errand

/-- An errand that **submits a request**, and nothing behind it. -/
theorem Stirs.of_submitting (operation : DriveOperation) (start : Moment m turns b)
    {rest : List (Turn σ (Callback (Option τ)))} (nothing : Turn.submitted rest = [])
    (moment : Moment m (turns ++ b.submitting operation.request :: rest) b')
    (asks : errand.operation? = some operation)
    (out : SendsOut m turns (b.submitting operation.request :: rest) errand) :
    Stirs m turns (b.submitting operation.request :: rest) errand b' where
  moment := moment
  one := by
    rw [← List.singleton_append, Turn.submitted_append, nothing]
    exact Nat.le_refl 1
  queues := by
    rw [← start.service, requests_of_submitting b _ nothing]
    exact Connection.queues_of_asks operation asks _
  out := out

/-- An errand that **submits nothing**. -/
theorem Stirs.of_none {more : List (Turn σ (Callback (Option τ)))}
    (moment : Moment m (turns ++ more) b) (nothing : Turn.submitted more = [])
    (other : errand.batchCall? = none) : Stirs m turns more errand b where
  moment := moment
  one := by
    rw [nothing]
    exact Nat.zero_le 1
  queues := by
    rw [Multiplexer.requests_of_none nothing]
    exact errand.queues_nil
  out := by
    rintro - - call batch rfl
    cases other

/-- **Something done with the connection below** is an errand of one turn at most. -/
theorem exists_stirs_use (start : Moment m turns b) {use : Use σ (Option τ)}
    (still : ∀ s, use = .elapse s → gauge s = gauge b.inner.service.channel) :
    ∃ more, Stirs m turns more (.use use) { b with inner := (b.inner.use use).2 } := by
  have service_eq := (b.inner.use_eq use).1
  have moment : Moment m (turns ++ (b.inner.turn? use).toList)
      { b with inner := (b.inner.use use).2 } := by
    cases own : b.inner.turn? use with
    | none =>
      rw [own] at service_eq
      rw [Option.toList_none, List.append_nil]
      exact ⟨service_eq.trans start.service, start.steady⟩
    | some turn =>
      rw [own, Option.toList_some, Multiplexer.live_singleton] at service_eq
      refine start.concat (fun channel turn_eq => ?_) service_eq
      cases use with
      | elapse s =>
        cases own
        cases turn_eq
        exact still _ rfl
      | _ => cases own.trans (congrArg some turn_eq)
  cases use with
  | ask operation tag =>
    refine ⟨_, moment, Nat.le_refl 1, ?_, fun _ _ _ _ => nofun⟩
    rw [← start.service, Connection.turn?, Option.toList_some, Multiplexer.live_singleton]
    exact Connection.queues_of_asks operation rfl _
  | _ => exact ⟨_, .of_none moment rfl rfl⟩

variable [Pollable σ] [SteadyWaits σ]

/-- **A call that returns** has submitted its request, and nothing behind it. If it succeeds, then
somebody has been called with a response under its key. -/
theorem exists_turns_of_callWith (start : Moment m turns b) {waits : Nat}
    {called : Called σ τ reply.Result}
    (returned : b.callWith waits policy request = some called) :
    ∃ rest, Turn.submitted rest = [] ∧
      Moment m (turns ++ b.submitting request :: rest) called.connection ∧
      ∀ result, called.result = .ok result → ∃ completion ∈ Event.completions
          ((m.live turns).service.live (b.submitting request :: rest)).events,
        completion.key = b.inner.service.nextKey ∧
          ∃ response, completion.outcome.response? = some response := by
  cases callWith_returns start returned with
  | @answered holds rest waits moment completion mem own read =>
    exact ⟨rest, submitted_waits waits, moment, fun result ok =>
      ⟨completion, mem, own, Outcome.exists_response_of_read (read.symm.trans ok)⟩⟩
  | @gaveUp b₁ rest s givesUp waits before moment status failed =>
    refine ⟨rest ++ [.remove b.inner.service.nextKey, .elapse s], ?_, ?_, fun result ok => ?_⟩
    · rw [Turn.submitted_append, submitted_waits waits]
      rfl
    · rwa [List.append_assoc, List.cons_append] at moment
    · rw [failed] at ok
      cases ok

/-- A call **that opens a batch** submits the request for it. -/
theorem exists_stirs_openBatch (start : Moment m turns b) {waits : Nat}
    {called : Called σ τ OpenBatch} (returned : b.startBatch waits = some called) :
    ∃ rest, Turn.submitted rest = [] ∧
      Stirs m turns (b.submitting (.startBatch b.nextBatch) :: rest) (.openBatch ⟨b, called⟩)
        called.connection := by
  obtain ⟨inner, returned, same, result_eq⟩ := exists_call_of_startBatch returned
  -- that a number is used up, the connection below does not see
  have start' : Moment m turns { b with nextBatch := nextBatchId b.nextBatch } :=
    ⟨start.service, start.steady⟩
  obtain ⟨rest, nothing, moment, answered⟩ := exists_turns_of_callWith start' returned
  refine ⟨rest, nothing, .of_submitting (.startBatch b.nextBatch) start nothing
    (same ▸ moment) rfl ?_⟩
  rintro fresh few _ batch ⟨⟩ ok
  cases inner_eq : inner.result with
  | error status =>
    rw [result_eq, inner_eq] at ok
    cases ok
  | ok done =>
    obtain ⟨completion, mem, own, response, response_eq⟩ := answered done inner_eq
    exact Multiplexer.exists_sent_of_answered fresh few mem
      (own.trans (congrArg Multiplexer.nextKey start.service)) response_eq

/-- **Each errand** does such things with the connection below. -/
theorem Undergoes.exists_stirs (start : Moment m turns b) (h : b.Undergoes errand b') :
    ∃ more, Stirs m turns more errand b' := by
  cases h with
  | openBatch returned =>
    obtain ⟨rest, -, stirs⟩ := exists_stirs_openBatch start returned
    exact ⟨_, stirs⟩
  | call operation returned =>
    obtain ⟨rest, nothing, moment, -⟩ := exists_turns_of_callWith start returned
    exact ⟨_, .of_submitting operation start nothing moment rfl fun _ _ _ _ => nofun⟩
  | use still => exact exists_stirs_use start still
  | setNetworkTimeout =>
    exact ⟨[], .of_none (by rw [List.append_nil]; exact ⟨start.service, start.steady⟩) rfl rfl⟩

/-! ## What the drive hears -/

/-- **What some errands have left behind** on the connection below. Every request that was queued
goes back to an errand of its own, in the order of the errands, and what is heard of it is what that
errand asks for. Of every batch that was opened the request is out. -/
structure Traces (m : Multiplexer σ (Callback (Option τ)))
    (turns : List (Turn σ (Callback (Option τ))))
    (asked : List (Nat × QueuedRequest (Callback (Option τ)))) (errands : List (Errand σ τ))
    (b : Blocking σ τ) : Prop where
  moment : Moment m turns b
  few : (Turn.submitted turns).length ≤ errands.length
  requests : asked.map Prod.snd = Event.requests (m.live turns).events
  ordered : (asked.map Prod.fst).Pairwise (· < ·)
  asks : ∀ call ∈ asked, ∃ errand heard, errands[call.1]? = some errand ∧
    call.2.heard? = some heard ∧ errand.Asks heard
  sent : errands.length < 2 ^ 63 → ∀ place call batch,
    errands[place]? = some (.openBatch call) → call.called.result = .ok batch →
      ∃ request, (place, request) ∈ asked ∧ .sent request.sequence ∈ (m.live turns).events

variable {errands : List (Errand σ τ)}
  {asked : List (Nat × QueuedRequest (Callback (Option τ)))}

omit [Pollable σ] [SteadyWaits σ] in
/-- **One more errand** leaves its own request behind, if it queues one. -/
theorem Traces.concat (h : Traces m turns asked errands b) (fresh : m.Fresh)
    {more : List (Turn σ (Callback (Option τ)))} (stirs : Stirs m turns more errand b') :
    ∃ asked', Traces m (turns ++ more) asked' (errands ++ [errand]) b' := by
  obtain ⟨moment, one, queues, sent⟩ := stirs
  rw [SendsOut] at sent
  generalize new_eq : Event.requests ((m.live turns).service.live more).events = new at queues sent
  have few : (Turn.submitted (turns ++ more)).length ≤ (errands ++ [errand]).length := by
    rw [Turn.submitted_append, List.length_append, List.length_append]
    exact Nat.add_le_add h.few one
  have same {place : Nat} {other : Errand σ τ} (at_place : errands[place]? = some other) :
      (errands ++ [errand])[place]? = some other := by
    obtain ⟨inside, -⟩ := List.getElem?_eq_some_iff.mp at_place
    rwa [List.getElem?_append_left inside]
  have inside : ∀ call ∈ asked, call.1 < errands.length := fun call mem => by
    obtain ⟨other, -, at_place, -⟩ := h.asks call mem
    exact (List.getElem?_eq_some_iff.mp at_place).1
  refine ⟨asked ++ new.map (Prod.mk errands.length), moment, few, ?_,
    Connection.pairwise_places_concat h.ordered inside queues.one, ?_, ?_⟩
  · rw [List.map_append, h.requests, List.map_map, Multiplexer.live_append, Event.requests_append,
      new_eq]
    exact congrArg _ (List.map_id _)
  · refine List.forall_mem_append.mpr ⟨fun call mem => ?_, fun call mem => ?_⟩
    · obtain ⟨other, heard, at_place, hears, asks⟩ := h.asks call mem
      exact ⟨other, heard, same at_place, hears, asks⟩
    · obtain ⟨request, own, rfl⟩ := List.mem_map.mp mem
      obtain ⟨heard, hears, asks⟩ := queues.asks request own
      exact ⟨errand, heard, List.getElem?_concat_length, hears, asks⟩
  · intro countable place call batch at_place ok
    rcases getElem?_of_concat at_place with before | ⟨rfl, rfl⟩
    · rw [List.length_append] at countable
      obtain ⟨request, mem, out⟩ := h.sent (by omega) place call batch before ok
      refine ⟨request, List.mem_append_left _ mem, ?_⟩
      rw [Multiplexer.live_append]
      exact List.mem_append_left _ out
    · obtain ⟨request, mem, out⟩ := sent fresh (Nat.lt_of_le_of_lt few countable) call batch rfl ok
      exact ⟨request, List.mem_append_right _ (List.mem_map_of_mem mem), out⟩

/-- **All errands** leave such traces behind. -/
theorem Course.exists_traces (h : b.Course errands b') (fresh : b.inner.service.Fresh) :
    ∃ turns asked, Traces b.inner.service turns asked errands b' := by
  induction h with
  | nothing =>
    exact ⟨[], [], ⟨rfl, .of_none (by simp)⟩, Nat.le_refl 0, rfl, .nil, by simp,
      fun _ _ _ _ => nofun⟩
  | behind earlier undergoes ih =>
    obtain ⟨turns, asked, traces⟩ := ih
    obtain ⟨more, stirs⟩ := undergoes.exists_stirs traces.moment
    obtain ⟨asked', traces'⟩ := traces.concat fresh stirs
    exact ⟨turns ++ more, asked', traces'⟩

omit [Metered σ] [Pollable σ] [SteadyWaits σ] in
/-- A request that fits into a frame **is queued** on a connection that is alive. -/
theorem exists_request_of_fits
    (working : b.inner.service.failed = false → b.inner.service.outbox.failed = false)
    (alive : b.inner.service.failed = false) (fits : b.fits request = true) :
    ∃ queued, Event.requests (b.inner.service.turn (b.submitting request)).events = [queued] := by
  cases prepared : b.inner.service.outbox.prepare request.envelope
      (b.inner.prepare request.command) request.value
      (if reply = .silence then none else some { reply, tag := none })
      b.inner.service.nextKey b.inner.service.connectionId with
  | ok queued =>
    rw [submitting, Multiplexer.turn_submit_of_ok alive prepared]
    exact ⟨queued, rfl⟩
  | error status =>
    obtain ⟨failure, framed⟩ := Outbox.exists_failure_of_prepare (working alive) prepared
    rw [Blocking.fits, framed] at fits
    cases fits

/-- **Every call that opens a batch** sends such a request. -/
theorem sends_of_startBatch (coherent : m.Coherent) (start : Moment m turns b) {waits : Nat}
    {called : Called σ τ OpenBatch} (returned : b.startBatch waits = some called) :
    (⟨b, called⟩ : BatchCall σ τ).Sends where
  submits := by
    obtain ⟨rest, nothing, stirs⟩ := exists_stirs_openBatch start returned
    refine ⟨rest, nothing, stirs.moment.service.trans ?_⟩
    rw [Multiplexer.live_append, ← start.service]
    rfl
  queues alive fits := by
    obtain ⟨queued, one⟩ :=
      exists_request_of_fits (start.service ▸ (coherent.live turns).outbox) alive fits
    have queues : (Errand.openBatch ⟨b, called⟩).Queues (Event.requests
        (b.inner.service.turn (b.submitting (.startBatch b.nextBatch))).events) :=
      Connection.queues_of_asks (.startBatch b.nextBatch) rfl _
    obtain ⟨heard, hears, operation, ⟨⟩, asks⟩ :=
      queues.asks queued (one ▸ List.mem_singleton_self queued)
    exact ⟨queued, heard, one, hears, asks⟩
  opens batch ok := eq_of_startBatch returned ok

/-- **All calls among some errands that open batches** send such requests. -/
theorem Course.sends (h : b.Course errands b') (fresh : b.inner.service.Fresh)
    (coherent : b.inner.service.Coherent) : ∀ call ∈ Errand.batchCalls errands, call.Sends := by
  induction h with
  | nothing => simp [Errand.batchCalls]
  | behind earlier undergoes ih =>
    obtain ⟨turns, asked, traces⟩ := earlier.exists_traces fresh
    rw [Errand.batchCalls, List.filterMap_append]
    refine List.forall_mem_append.mpr ⟨ih, fun call mem => ?_⟩
    obtain ⟨errand, here, opens⟩ := List.mem_filterMap.mp mem
    rw [List.mem_singleton.mp here] at opens
    cases undergoes with
    | openBatch returned =>
      cases opens
      exact sends_of_startBatch coherent traces.moment returned
    | _ => cases opens

omit [Pollable σ] [SteadyWaits σ] in
/-- **What the drive hears** goes back to errands of their own, and among them are all that opened
batches. -/
theorem Traces.exists_places (h : Traces m turns asked errands b) (fresh : m.Fresh)
    (coherent : m.Coherent) {stream : Bytes} (written : (gauge b.inner.service.channel).accepted =
      (gauge m.channel).accepted ++ stream) :
    ∃ places : List Nat, places.Pairwise (· < ·) ∧
      List.Forall₂ (fun (place : Nat) (heard : HeardRequest) =>
        ∃ errand, errands[place]? = some errand ∧ errand.Asks heard) places (heardIn stream) ∧
      (errands.length < 2 ^ 63 → ∀ place call batch, errands[place]? = some (.openBatch call) →
        call.called.result = .ok batch → place ∈ places) := by
  -- what the meter has counted is what has been written
  have shows := congrArg Gauge.accepted (gauge_live coherent h.moment.steady)
  rw [← h.moment.service, written, Gauge.accepted_afterAll] at shows
  have stream_eq := List.append_cancel_left shows
  obtain ⟨out, begun, rest, whole, out_written, out_sub, whole_sub, -, heard_eq⟩ :=
    m.exists_whole fresh turns
  rw [← h.requests] at whole_sub
  obtain ⟨calls, calls_sub, rfl⟩ := List.sublist_map_iff.mp whole_sub
  refine ⟨calls.map Prod.fst, h.ordered.sublist (calls_sub.map _), ?_, ?_⟩
  · rw [stream_eq, heard_eq]
    refine Connection.forall₂_heard_of_calls fun call mem => ?_
    obtain ⟨errand, heard, at_place, hears, asks⟩ := h.asks call (calls_sub.subset mem)
    exact ⟨heard, hears, errand, at_place, asks⟩
  · intro countable place call batch at_place ok
    obtain ⟨request, mem, sent⟩ := h.sent countable place call batch at_place ok
    -- a request that is out has been heard, and it is queued in one place only
    have numbered := numbered_live fresh turns (Nat.lt_of_le_of_lt h.few countable)
    have known : request ∈ Event.requests (m.live turns).events :=
      h.requests ▸ List.mem_map_of_mem mem
    have out_mem := out_written.mem_out_of_sent numbered (Event.mem_requests.mp known) sent
    obtain ⟨call', mem', same⟩ := List.mem_map.mp (out_sub out_mem)
    have nodup : (asked.map Prod.snd).Nodup := h.requests ▸ numbered.nodup_requests.of_map
    have call_eq := List.inj_on_of_nodup_map nodup (calls_sub.subset mem') mem same
    exact List.mem_map.mpr ⟨call', mem', congrArg Prod.fst call_eq⟩

/-- **Batches are numbered in turn.** Take a connection that waits, as it has been started, and
whatever is done with it: any calls, whether they succeed or not, whatever is asked for and run
without waiting, and changes of the settings, in any order. The calls among it that open batches
have the numbers from one on, one after the other, and then from one on again behind the largest
number of 32 bits. So none of them is zero, and no number comes back before all others have been
used. Each of these calls sends a request with its number. Whatever the drive hears goes back to
errands of their own, in the order of the errands, and asks for just what they do, and of every
batch that was opened the drive has heard the request. -/
theorem batches_are_numbered_in_turn {patience : Nat} {signer : Signer} {options : Options} {s : σ}
    {c : Connection σ (Option τ)}
    (started : Connection.start patience signer options s = some (.ok c))
    {networkTimeout : Duration} {errands : List (Errand σ τ)} {b : Blocking σ τ}
    (course : (ofConnection c networkTimeout).Course errands b) {stream : Bytes}
    (written : (gauge b.inner.service.channel).accepted =
      (gauge c.service.channel).accepted ++ stream) :
    (∀ n call, (Errand.batchCalls errands)[n]? = some call →
      call.number.toNat = n % (2 ^ 32 - 1) + 1 ∧ call.number ≠ 0 ∧ call.Sends) ∧
    (∀ n, (((Errand.batchCalls errands).drop n).take (2 ^ 32 - 1)).map
      BatchCall.number |>.Nodup) ∧
    ∃ places : List Nat, places.Pairwise (· < ·) ∧
      List.Forall₂ (fun (place : Nat) (heard : HeardRequest) =>
        ∃ errand, errands[place]? = some errand ∧ errand.Asks heard) places (heardIn stream) ∧
      (errands.length < 2 ^ 63 → ∀ place call batch, errands[place]? = some (.openBatch call) →
        call.called.result = .ok batch → place ∈ places) := by
  have starts := Connection.service_of_start started
  have fresh := Multiplexer.fresh_of_start starts
  have coherent := Multiplexer.coherent_of_start starts
  have inTurn := (course.inTurn rfl).1
  refine ⟨fun n call at_n => ?_, fun n => ?_, ?_⟩
  · have number_eq := inTurn n call.number (by rw [List.getElem?_map, at_n]; rfl)
    refine ⟨number_eq, fun zero => ?_,
      course.sends fresh coherent call (List.mem_of_getElem? at_n)⟩
    rw [zero] at number_eq
    exact absurd number_eq (Nat.succ_ne_zero _).symm
  · rw [List.map_take, List.map_drop]
    exact inTurn.nodup_window n
  · obtain ⟨turns, asked, traces⟩ := course.exists_traces fresh
    exact traces.exists_places fresh coherent written

end Calls

/-! ## A batch that is refused -/

section Refused

open Simulation (Drive)

/-- What a drive answers with a status, and without a signature. -/
def plainAnswer (code : DriveCode) : Simulation.Item :=
  .frame
    { auth := .pin
      command := .response {} .echo (.given .empty) (some { code }) }

/-- A drive that opens the first batch that it is asked for, and **refuses the second one**. What
belongs to a batch it does not answer. -/
def refusingDrive : Recorder Drive where
  channel :=
    { key := [1]
      queue := [.bytes hello]
      replies := [[plainAnswer .success], [], [plainAnswer .noSpace], [plainAnswer .success]] }

/-- The number of a batch is used up even though the drive refuses it: the next batch has **the
number behind it**, and that is what the drive hears. -/
theorem batches_are_numbered_in_turn_refused :
    ∃ (c : Connection (Recorder Drive) (Option Nat)) (errands : List (Errand (Recorder Drive) Nat))
      (b : Blocking (Recorder Drive) Nat)
      (first second third : BatchCall (Recorder Drive) Nat),
      Connection.start 2 (.constant [7]) { hmacKey := [1] } refusingDrive = some (.ok c) ∧
      (ofConnection c (.seconds 1)).Course errands b ∧
      Errand.batchCalls errands = [first, second, third] ∧
      first.called.result = .ok { id := 1 } ∧
      (errorIn second.called.result).isSome = true ∧
      third.called.result = .ok { id := 3 } ∧
      ∃ heard ∈ heardIn (gauge b.inner.service.channel).accepted,
        heard.AsksFor (.startBatch 3) := by
  have check : ((Connection.start 2 (.constant [7]) { hmacKey := [1] } refusingDrive :
      Option (Except Failure (Connection (Recorder Drive) (Option Nat)))).any fun started =>
      started.toOption.any fun c =>
        ((ofConnection c (.seconds 1)).startBatch 2).any fun first =>
          first.result.toOption.any fun batch =>
            ((first.connection.abandon batch).connection.startBatch 2).any fun second =>
              (second.connection.startBatch 2).any fun third =>
                decide ((gauge c.service.channel).accepted = [] ∧
                  (errorIn second.result).isSome = true ∧
                  third.result.toOption.isSome = true)) = true := by
    decide +kernel
  obtain ⟨c, started, check⟩ := exists_started check
  obtain ⟨first, opens, check⟩ := (Option.any_eq_true _ _).mp check
  obtain ⟨batch, ok, check⟩ := (Option.any_eq_true _ _).mp check
  obtain ⟨second, opens', check⟩ := (Option.any_eq_true _ _).mp check
  obtain ⟨third, opens'', check⟩ := (Option.any_eq_true _ _).mp check
  obtain ⟨empty, refused, granted⟩ := of_decide_eq_true check
  obtain ⟨batch'', ok''⟩ := Option.isSome_iff_exists.mp granted
  have course := (((Course.nothing.behind (.openBatch opens)).abandon batch).behind
    (.openBatch opens')).behind (.openBatch opens'')
  obtain ⟨numbered, -, places, -, hears, among⟩ :=
    batches_are_numbered_in_turn started course (by rw [empty, List.nil_append])
  obtain ⟨first_eq, -, sends⟩ := numbered 0 _ rfl
  obtain ⟨third_eq, -, sends''⟩ := numbered 2 _ rfl
  have first_eq : BatchCall.number ⟨ofConnection c (.seconds 1), first⟩ = 1 :=
    UInt32.toNat.inj first_eq
  have third_eq : BatchCall.number ⟨second.connection, third⟩ = 3 := UInt32.toNat.inj third_eq
  have first_ok := eq_ok_of_toOption ok
  have third_ok := eq_ok_of_toOption ok''
  refine ⟨c, _, _, _, _, _, started, course, rfl, ?_, refused, ?_, ?_⟩
  · rw [first_ok, sends.opens batch first_ok, first_eq]
  · rw [third_ok, sends''.opens batch'' third_ok, third_eq]
  · obtain ⟨i, inside, at_i⟩ :=
      List.mem_iff_getElem.mp (among (show 5 < 2 ^ 63 by decide) 4 _ batch'' rfl third_ok)
    obtain ⟨errand, at_place, asks⟩ := hears.get inside (hears.length_eq ▸ inside)
    rw [List.get_eq_getElem, at_i] at at_place
    cases at_place
    obtain ⟨operation, ⟨⟩, asks⟩ := asks
    rw [third_eq] at asks
    exact ⟨_, List.get_mem _ _, asks⟩

end Refused

end Blocking

end DriveLink
