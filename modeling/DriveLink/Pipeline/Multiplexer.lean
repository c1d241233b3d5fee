import DriveLink.Pipeline.Greeting
import DriveLink.Pipeline.Outbox

/-! # One channel for many requests

A `Multiplexer` joins a channel and the two halves of a connection. It never blocks and does nothing
by itself: its owner submits requests, runs it when the channel is ready, and waits for what the run
asks for. Once either half has failed the whole is dead for good.

* `Multiplexer.start` — takes a channel over and waits for the drive's greeting;
* `Multiplexer.submit`, `Multiplexer.run`, `Multiplexer.remove`, `Multiplexer.shutDown` — its life;
* `Multiplexer.register` and its like — its source, for an owner that polls. -/

namespace DriveLink

/-- A **connection for many requests** at once over one channel. -/
structure Multiplexer (σ η : Type) where
  outbox : Outbox η
  inbox : Inbox η
  channel : σ
  /-- What the drive greeted the client with. -/
  greeting : Command
  /-- The key of the next request. -/
  nextKey : RequestKey := 0
  /-- Whether the connection is dead. Nothing brings it back. -/
  failed : Bool := false

/-- What a run did: what to wait for before the next one, or `none` if the connection is dead. -/
structure Ran (σ η : Type) where
  readiness : Option Readiness
  events : List (Event η)
  service : Multiplexer σ η

/-- The requests that a run completed. -/
def Ran.completions {σ η : Type} (ran : Ran σ η) : List (Completion η) :=
  Event.completions ran.events

namespace Multiplexer

variable {σ η : Type}

/-- **Start** a connection over a channel. The answer is `none` if the greeting takes more waits
than `patience`. -/
def start [Channel σ] [Pollable σ] (patience : Nat) (signer : Signer) (options : Options) (s : σ) :
    Option (Except Failure (Multiplexer σ η)) :=
  match greet patience signer options s with
  | none => none
  | some (.error failure, _) => some (.error failure)
  | some (.ok greeted, s) =>
    some (.ok
      { outbox := { signer, identity := options.userId, hmacKey := options.hmacKey }
        inbox := greeted.inbox
        channel := s
        greeting := greeted.greeting })

/-- Whether the connection is alive. -/
def isAlive (m : Multiplexer σ η) : Bool := !m.failed

/-- The number of the connection, as far as it is known. -/
def connectionId (m : Multiplexer σ η) : Option Int64 := m.inbox.connectionId

/-- How many requests are not entirely written. -/
def pendingWrites (m : Multiplexer σ η) : Nat := m.outbox.pending

/-- How many requests wait for their answers. -/
def outstanding (m : Multiplexer σ η) : Nat := m.inbox.outstanding

/-- **Submit a request**, which is written by the next run. A dead connection fails it at once; a
key it gets all the same. -/
def submit (m : Multiplexer σ η) (envelope : Envelope) (command : Command) (value : Bytes)
    (handler : Option η) : RequestKey × List (Completion η) × Multiplexer σ η :=
  let key := m.nextKey
  let m := { m with nextKey := key + 1 }
  if m.failed then
    (key, Completion.failIfAny key handler (.client .shutdown "connection has failed"), m)
  else
    let (_, completions, outbox) :=
      m.outbox.enqueue envelope command value handler key m.connectionId
    (key, completions, { m with outbox })

/-- **Run** as far as the channel allows: first write, then read. -/
def run [Channel σ] (m : Multiplexer σ η) : Ran σ η :=
  if m.failed then ⟨none, [], m⟩
  else
    let sent := m.outbox.send m.inbox m.channel
    let m := { m with outbox := sent.outbox, inbox := sent.inbox, channel := sent.channel }
    if sent.activity = .failed then ⟨none, sent.events, { m with failed := true }⟩
    else
      let received := m.inbox.receive m.channel
      let m := { m with inbox := received.inbox, channel := received.channel }
      let events := sent.events ++ received.events
      if received.activity = .failed then ⟨none, events, { m with failed := true }⟩
      else
        ⟨some { read := received.activity = .waiting, write := sent.activity = .waiting },
          events, m⟩

/-- **Take a request back**, wherever it is but half written, and say whether it was there. -/
def remove (m : Multiplexer σ η) (key : RequestKey) : Bool × Multiplexer σ η :=
  let (removed, outbox) := m.outbox.remove key
  if removed then (true, { m with outbox })
  else
    let (removed, inbox) := m.inbox.remove key
    (removed, { m with inbox })

/-- **End** the connection: every request fails, those that are not entirely written first. -/
def shutDown (m : Multiplexer σ η) : List (Completion η) := m.outbox.shutDown ++ m.inbox.shutDown

/-! ## The source -/

variable [Pollable σ]

/-- Whether the channel has a source. -/
def hasSource (m : Multiplexer σ η) : Bool := Pollable.hasSource m.channel

/-- Call the source for an interest. Without a source, or an interest, nothing happens. -/
def callSource (m : Multiplexer σ η) (readiness : Readiness)
    (call : σ → Registrar → Interest → Except IoError Unit × σ) :
    Except IoError Unit × Multiplexer σ η :=
  match m.hasSource, readiness.interest? with
  | true, some interest =>
    let (result, channel) := call m.channel .owner interest
    (result, { m with channel })
  | _, _ => (.ok (), m)

/-- **Register** the source with the owner's poll. -/
def register (m : Multiplexer σ η) (readiness : Readiness) :
    Except IoError Unit × Multiplexer σ η :=
  m.callSource readiness Pollable.register

/-- **Change** the registration after a run. -/
def reregister (m : Multiplexer σ η) (readiness : Readiness) :
    Except IoError Unit × Multiplexer σ η :=
  m.callSource readiness Pollable.reregister

/-- **Take the registration back.** -/
def deregister (m : Multiplexer σ η) : Except IoError Unit × Multiplexer σ η :=
  if m.hasSource then
    let (result, channel) := Pollable.deregister m.channel .owner
    (result, { m with channel })
  else (.ok (), m)

end Multiplexer

end DriveLink
