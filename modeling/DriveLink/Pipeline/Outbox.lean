import DriveLink.Pipeline.Inbox

/-! # The outbound half of a connection

An `Outbox` numbers requests, signs and frames them when they come in, and writes the frames out in
that order, one after the other. Until its first byte is out, a request can be taken back. Once a
frame is out, its request waits for the answer in the inbox — or is done, if it has no handler.

* `InFlight` — a request while it is written;
* `Outbox.frameOf`, `Outbox.prepare` — the bytes of a request, and the request made of them;
* `Outbox.enqueue`, `Outbox.remove` — put a request in, take it back;
* `Outbox.send` — writes as far as the channel allows. -/

namespace DriveLink

/-- The request that is **being written**. -/
structure InFlight (η : Type) where
  writer : FrameWriter
  sequence : Int64
  key : RequestKey
  handler : Option η

/-- A request whose turn has come. -/
def QueuedRequest.begin {η : Type} (request : QueuedRequest η) : InFlight η :=
  { writer := ⟨request.frame⟩, sequence := request.sequence, key := request.key
    handler := request.handler }

/-- The **outbound half** of a connection. -/
structure Outbox (η : Type) where
  signer : Signer
  /-- Whom the key belongs to. -/
  identity : Int64
  hmacKey : Bytes
  /-- The requests that wait for their turn, the next one first. -/
  queue : List (QueuedRequest η) := []
  current : Option (InFlight η) := none
  /-- The number of the next request. No number is used twice. -/
  nextSequence : Int64 := 0
  failed : Bool := false

/-- What a call to send did. -/
structure Sent (η σ : Type) where
  activity : Activity
  events : List (Event η)
  outbox : Outbox η
  inbox : Inbox η
  channel : σ

/-- The requests that a call to send completed. -/
def Sent.completions {η σ : Type} (sent : Sent η σ) : List (Completion η) :=
  Event.completions sent.events

namespace Outbox

variable {η σ : Type}

/-- How many requests are not entirely written. -/
def pending (outbox : Outbox η) : Nat :=
  outbox.queue.length + if outbox.current.isSome then 1 else 0

/-! ## Putting requests in and taking them back -/

/-- The envelope of a request, with the command in it and, where it is to be signed, the digest. -/
def sealed (outbox : Outbox η) (envelope : Envelope) (command : Command) : Envelope :=
  let bytes := command.encode
  let signed :=
    if envelope.auth = .hmac then
      some ⟨outbox.identity, outbox.signer.sign bytes outbox.hmacKey⟩
    else envelope.signed
  { envelope with signed, command := bytes }

/-- The **bytes of a request**, unless a part of it is too long for a frame. -/
def frameOf (outbox : Outbox η) (envelope : Envelope) (command : Command) (value : Bytes) :
    Except Failure Bytes :=
  let bytes := (outbox.sealed envelope command).encode
  match Frame.checkLengths bytes.length value.length with
  | .ok () => .ok (Frame.encode ⟨bytes, value⟩)
  | .error error => .error (.serialization error.message)

/-- The command of a request, with its number and the number of the connection. -/
def addressed (command : Command) (sequence : Int64) (connectionId : Option Int64) : Command :=
  { command with header := { command.header with connectionId, sequence := some sequence } }

/-- **Make a request** that waits for its turn, under the next number. A dead outbox makes none, and
there is none that does not fit into a frame; the status says which. -/
def prepare (outbox : Outbox η) (envelope : Envelope) (command : Command) (value : Bytes)
    (handler : Option η) (key : RequestKey) (connectionId : Option Int64) :
    Except Status (QueuedRequest η) :=
  let sequence := outbox.nextSequence
  if outbox.failed then .error (.client .shutdown "sender has failed")
  else
    match outbox.frameOf envelope (addressed command sequence connectionId) value with
    | .ok frame => .ok ⟨frame, sequence, key, handler⟩
    | .error failure =>
      .error (.client .internalError ("failed to build request frame: " ++ failure.message))

/-- **Put a request in**: it is numbered, signed and framed, and waits for its turn. A dead outbox
fails it at once, and so does one that cannot frame it; its number is used up all the same. -/
def enqueue (outbox : Outbox η) (envelope : Envelope) (command : Command) (value : Bytes)
    (handler : Option η) (key : RequestKey) (connectionId : Option Int64) :
    Int64 × List (Completion η) × Outbox η :=
  let nextSequence := outbox.nextSequence + 1
  match outbox.prepare envelope command value handler key connectionId with
  | .ok request =>
    (outbox.nextSequence, [], { outbox with queue := outbox.queue ++ [request], nextSequence })
  | .error status =>
    (outbox.nextSequence, Completion.failIfAny key handler status, { outbox with nextSequence })

/-- **Take a request back** that waits for its turn, and say whether there was one. -/
def remove (outbox : Outbox η) (key : RequestKey) : Bool × Outbox η :=
  if outbox.queue.any (·.key = key) then
    (true, { outbox with queue := outbox.queue.eraseP (·.key = key) })
  else (false, outbox)

/-- The failures of requests that are not entirely written, in the order of their numbers. -/
def failures (current : Option (InFlight η)) (queue : List (QueuedRequest η)) (status : Status) :
    List (Completion η) :=
  (match current with
    | some request => Completion.failIfAny request.key request.handler status
    | none => []) ++
  queue.flatMap fun request => Completion.failIfAny request.key request.handler status

/-- Fail every request that is not entirely written, because there is an end to the connection. -/
def shutDown (outbox : Outbox η) : List (Completion η) :=
  failures outbox.current outbox.queue (.client .shutdown "connection shut down")

/-! ## Writing -/

/-- What becomes of a request whose **frame is out**: it waits for its answer, if it has a
handler. -/
def release (request : InFlight η) (inbox : Inbox η) : List (Event η) × Inbox η :=
  match request.handler with
  | none => ([], inbox)
  | some handler =>
    let waiting : OutstandingRequest η := ⟨request.sequence, request.key, handler⟩
    match inbox.track waiting with
    | some inbox => ([.tracked waiting], inbox)
    | none =>
      ([.completed (.fail request.key handler
        (.client .internalError "could not track response for request"))], inbox)

/-- Where writing stopped. -/
structure Stopped (η σ : Type) where
  activity : Activity
  events : List (Event η)
  current : Option (InFlight η)
  queue : List (QueuedRequest η)
  inbox : Inbox η
  channel : σ

/-- **Write** the current request and those behind it, until the channel stops or all are out. -/
def sendFrom [Channel σ] (request : InFlight η) (queue : List (QueuedRequest η))
    (inbox : Inbox η) (s : σ) : Stopped η σ :=
  match request.writer.write s with
  | (outcome, writer, s) =>
    let took : Event η := .took request.sequence (request.writer.taken writer)
    match outcome with
    | .pending => ⟨.waiting, [took], some { request with writer }, queue, inbox, s⟩
    | .failed error =>
      let status := Status.client .ioError ("I/O write error: " ++ error.message)
      let failed := failures (some request) queue status
      ⟨.failed, took :: failed.map .completed, none, [], inbox, s⟩
    | .done =>
      let (released, inbox) := release request inbox
      let events := took :: .sent request.sequence :: released
      match queue with
      | [] => ⟨.idle, events, none, [], inbox, s⟩
      | next :: queue =>
        let later := sendFrom next.begin queue inbox s
        { later with events := events ++ later.events }

/-- **Send** as far as the channel allows. A dead outbox sends nothing. -/
def send [Channel σ] (outbox : Outbox η) (inbox : Inbox η) (s : σ) : Sent η σ :=
  if outbox.failed then ⟨.failed, [], outbox, inbox, s⟩
  else
    let stopped : Stopped η σ :=
      match outbox.current, outbox.queue with
      | some request, queue => sendFrom request queue inbox s
      | none, next :: queue => sendFrom next.begin queue inbox s
      | none, [] => ⟨.idle, [], none, [], inbox, s⟩
    ⟨stopped.activity, stopped.events,
      { outbox with
        current := stopped.current
        queue := stopped.queue
        failed := stopped.activity = .failed },
      stopped.inbox, stopped.channel⟩

end Outbox

end DriveLink
