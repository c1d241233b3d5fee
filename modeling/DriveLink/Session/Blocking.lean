import DriveLink.Session.Connection

/-! # Connections that wait for each answer

A `Blocking` connection turns each request into a call: it submits the request and then runs and
waits in turn, until the outcome is in or waiting is in vain. Other requests may be under way on the
same connection; their completions come along with the result of the call.

A call may wait for as long as the channel keeps becoming ready without an answer, so it takes a
bound on the number of its waits, `patience`, and answers `none` if that is not enough.

* `WaitPolicy` — how long a wait may take, and what it means if it takes longer;
* `Blocking.awaitOutcome` — waits for the outcome of one request;
* `Blocking.call` — submits a request and waits for its outcome;
* `Blocking.startBatch`, `OpenBatch` — batches. -/

namespace DriveLink

/-- How long **one wait** may take, and what it means if it takes longer. -/
structure WaitPolicy where
  timeout : Duration
  onTimeout : ClientFault

/-- A **connection that waits** for each answer. A tag of `none` marks the requests of its own
calls. -/
structure Blocking (σ τ : Type) where
  inner : Connection σ (Option τ)
  waiter : Waiter := { registrar := .calls }
  networkTimeout : Duration
  /-- The number of the next batch, never zero. -/
  nextBatch : UInt32 := 1

/-- What a call came to, and what else was completed meanwhile. -/
structure Called (σ τ ρ : Type) where
  result : Except Status ρ
  completions : List (Completion (Callback (Option τ)))
  connection : Blocking σ τ

/-- What a wait for an outcome came to. -/
abbrev Awaited (σ τ : Type) : Type := Called σ τ Outcome

/-- The outcome of the request with the key, if it is among the completions. -/
def outcomeOf {η : Type} (key : RequestKey) (completions : List (Completion η)) : Option Outcome :=
  (completions.find? (·.key = key)).map (·.outcome)

namespace Blocking

variable {σ τ : Type}

/-- A connection that waits, made of one that does not. -/
def ofConnection (inner : Connection σ (Option τ)) (networkTimeout : Duration) : Blocking σ τ :=
  { inner, networkTimeout }

/-- The connection without its waiting. -/
def toConnection (b : Blocking σ τ) : Connection σ (Option τ) := b.inner

/-- Change the channel. -/
def withChannel (b : Blocking σ τ) (s : σ) : Blocking σ τ :=
  { b with inner := { b.inner with service := { b.inner.service with channel := s } } }

variable [Channel σ] [Pollable σ]

/-- **Wait once** for the channel. -/
def wait (b : Blocking σ τ) (readiness : Readiness) (timeout : Duration) :
    Except IoError Bool × Blocking σ τ :=
  let (result, waiter, s) := b.waiter.wait readiness timeout b.inner.service.channel
  (result, { b.withChannel s with waiter })

/-- Release the source, so that somebody else may register it. -/
def releaseSource (b : Blocking σ τ) : Blocking σ τ :=
  let (waiter, s) := b.waiter.release b.inner.service.channel
  { b.withChannel s with waiter }

/-- **Give up** on a request. -/
def giveUp (b : Blocking σ τ) (key : RequestKey)
    (completions : List (Completion (Callback (Option τ)))) (status : Status) : Awaited σ τ :=
  ⟨.error status, completions, { b with inner := (b.inner.remove key).2 }⟩

/-- **Wait and run** in turn until the outcome of a request is in. `readiness` is what the last run
asked for, and `completions` what was completed so far. -/
def awaitOutcome (key : RequestKey) (policy : WaitPolicy) :
    (patience : Nat) → Readiness → List (Completion (Callback (Option τ))) → Blocking σ τ →
      Option (Awaited σ τ)
  | 0, _, completions, b => (outcomeOf key completions).map fun o => ⟨.ok o, completions, b⟩
  | patience + 1, readiness, completions, b =>
    match outcomeOf key completions with
    | some outcome => some ⟨.ok outcome, completions, b⟩
    | none =>
      match b.wait readiness policy.timeout with
      | (.error error, b) =>
        some (b.giveUp key completions (.client .ioError ("wait failed: " ++ error.message)))
      | (.ok false, b) =>
        some (b.giveUp key completions
          (.client policy.onTimeout ("no response within " ++ policy.timeout.text)))
      | (.ok true, b) =>
        let (next, fired, inner) := b.inner.run
        let b := { b with inner }
        let completions := completions ++ fired
        match next with
        | some readiness => awaitOutcome key policy patience readiness completions b
        | none =>
          some (b.giveUp key completions (.client .connectionFailed "connection failed"))

/-- **Submit a request and wait** for its outcome. The first run may find the connection dead: then
the request has failed already, and with it the wait ends. -/
def callWith {reply : Reply} (patience : Nat) (b : Blocking σ τ) (policy : WaitPolicy)
    (request : Request reply) : Option (Called σ τ reply.Result) :=
  let (key, refused, inner) := b.inner.submit request none
  let (readiness, fired, inner) := inner.run
  let b := { b with inner, waiter := b.waiter.reset }
  match awaitOutcome key policy patience (readiness.getD .forRead) (refused ++ fired) b with
  | none => none
  | some awaited =>
    some
      { result :=
          match awaited.result with
          | .ok outcome => outcome.read reply
          | .error status => .error status
        completions := awaited.completions
        connection := awaited.connection.releaseSource }

/-- **Call**: submit a request and wait for its outcome, each time for the connection's own
timeout. -/
def call {reply : Reply} (patience : Nat) (b : Blocking σ τ) (request : Request reply) :
    Option (Called σ τ reply.Result) :=
  b.callWith patience ⟨b.networkTimeout, .networkTimeout⟩ request

/-- **Write out** what waits to be written, without waiting for anything. -/
def pump (b : Blocking σ τ) : Called σ τ Unit :=
  let (readiness, completions, inner) := b.inner.run
  let result : Except Status Unit :=
    match readiness with
    | some _ => .ok ()
    | none => .error (.client .connectionFailed "connection failed")
  ⟨result, completions, { b with inner }⟩

end Blocking

/-! ## Batches -/

/-- How long a wait for the **end of a batch** may take: 20 s. -/
def batchTimeout : Duration := .seconds 20

/-- A **batch** that is open on the drive. -/
structure OpenBatch where
  id : UInt32
  /-- How many operations were added. -/
  count : UInt32 := 0
  deriving DecidableEq, Repr

/-- Whether nothing was added. -/
def OpenBatch.isEmpty (batch : OpenBatch) : Bool := batch.count = 0

/-- The number of the batch after another. Numbers are used in turn, and zero is none. -/
def nextBatchId (id : UInt32) : UInt32 := if id + 1 = 0 then 1 else id + 1

namespace Blocking

variable {σ τ : Type} [Channel σ] [Pollable σ]

/-- **Open a batch.** Its number is used up even if the drive refuses. -/
def startBatch (patience : Nat) (b : Blocking σ τ) : Option (Called σ τ OpenBatch) :=
  let id := b.nextBatch
  match { b with nextBatch := nextBatchId id }.call patience (.startBatch id) with
  | none => none
  | some called => some { called with result := called.result.map fun () => { id } }

/-- **Add** an operation to a batch and write out what can be written. -/
def addToBatch (b : Blocking σ τ) (batch : OpenBatch) (request : Request .silence) :
    Called σ τ Unit × OpenBatch :=
  let (_, refused, inner) := b.inner.submit request none
  let pumped := { b with inner }.pump
  ({ pumped with completions := refused ++ pumped.completions },
    { batch with count := batch.count + 1 })

/-- **Store a record** as part of a batch. -/
def batchPut (b : Blocking σ τ) (batch : OpenBatch) (key currentVersion : Bytes)
    (mode : WriteMode) (record : Record) : Called σ τ Unit × OpenBatch :=
  b.addToBatch batch (.batchPut batch.id key currentVersion mode record)

/-- **Delete a key** as part of a batch. -/
def batchDelete (b : Blocking σ τ) (batch : OpenBatch) (key version : Bytes) (mode : WriteMode) :
    Called σ τ Unit × OpenBatch :=
  b.addToBatch batch (.batchDelete batch.id key version mode)

/-- Wait for the end of a batch. Its timeouts count as failures of the channel. -/
def batchPolicy : WaitPolicy := ⟨batchTimeout, .ioError⟩

/-- **Commit** a batch. -/
def commit (patience : Nat) (b : Blocking σ τ) (batch : OpenBatch) : Option (Called σ τ Unit) :=
  b.callWith patience batchPolicy (.endBatch batch.id batch.count)

/-- **Discard** a batch. -/
def abort (patience : Nat) (b : Blocking σ τ) (batch : OpenBatch) : Option (Called σ τ Unit) :=
  b.callWith patience batchPolicy (.abortBatch batch.id)

/-- **Abandon** a batch that was neither committed nor discarded: the drive is told to discard it,
and nobody waits for the answer. -/
def abandon (b : Blocking σ τ) (batch : OpenBatch) : Called σ τ Unit :=
  let (_, refused, inner) := b.inner.submit (.abortBatch batch.id) none
  let pumped := { b with inner }.pump
  { pumped with completions := refused ++ pumped.completions }

end Blocking

end DriveLink
