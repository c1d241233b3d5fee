import DriveLink.Pipeline.Multiplexer
import DriveLink.Session.Request

/-! # Connections that never block

A `Connection` sends typed requests over a multiplexer and adds to each what holds for the whole
connection: the cluster version, the priority and the time that the drive may spend. Who asked is
told by a callback, which knows the shape of the answer and whatever tag its owner gave it.

* `Callback`, `Callback.result` — who wants to know, and what they learn;
* `Connection.start`, `Connection.submit`, `Connection.run`, … — a connection's life;
* `Connection.prepare` — what a connection adds to a command. -/

namespace DriveLink

/-- **Who wants to know** the outcome of a request: the shape of its answer, and the owner's tag. -/
structure Callback (τ : Type) where
  reply : Reply
  tag : τ

/-- What an outcome says to somebody who expects an answer of the given shape. -/
def Outcome.read (outcome : Outcome) (reply : Reply) : Except Status reply.Result :=
  match outcome with
  | .answered response value => reply.decode response value
  | .failed status _ => .error status

/-- What a callback **learns**. -/
def Callback.result {τ : Type} (completion : Completion (Callback τ)) :
    Except Status completion.handler.reply.Result :=
  completion.outcome.read completion.handler.reply

/-- A **connection** to one drive, which never blocks. -/
structure Connection (σ τ : Type) where
  service : Multiplexer σ (Callback τ)
  /-- The cluster version that is sent with each request. -/
  clusterVersion : Int64
  priority : Priority
  requestTimeout : Option Duration

namespace Connection

variable {σ τ : Type}

/-- **Start** a connection over a channel. The answer is `none` if the greeting takes more waits
than `patience`. -/
def start [Channel σ] [Pollable σ] (patience : Nat) (signer : Signer) (options : Options) (s : σ) :
    Option (Except Failure (Connection σ τ)) :=
  match Multiplexer.start patience signer options s with
  | none => none
  | some (.error failure) => some (.error failure)
  | some (.ok service) =>
    some (.ok
      { service
        clusterVersion := options.clusterVersion
        priority := options.priority
        requestTimeout := options.requestTimeout })

/-- Whether the connection is alive. -/
def isAlive (c : Connection σ τ) : Bool := c.service.isAlive

/-- The number of the connection, as far as it is known. -/
def connectionId (c : Connection σ τ) : Option Int64 := c.service.connectionId

/-- The largest signed word. -/
def maxWord : Nat := 0x7FFFFFFFFFFFFFFF

/-- A time limit as it is sent: whole milliseconds, as many as fit. -/
def milliseconds (limit : Duration) : Int64 := Int64.ofNat (min limit.wholeMilliseconds maxWord)

/-- A command with what holds for **every request** of the connection. -/
def prepare (c : Connection σ τ) (command : Command) : Command :=
  { command with
    header := { command.header with
      clusterVersion := some c.clusterVersion
      priority := some c.priority
      timeout := c.requestTimeout.map milliseconds } }

/-- **Submit a request**; the tag comes back with its outcome, unless the drive says nothing to
it. -/
def submit {reply : Reply} (c : Connection σ τ) (request : Request reply) (tag : τ) :
    RequestKey × List (Completion (Callback τ)) × Connection σ τ :=
  let callback := if reply = .silence then none else some { reply, tag }
  let (key, completions, service) :=
    c.service.submit request.envelope (c.prepare request.command) request.value callback
  (key, completions, { c with service })

/-- **Run** as far as the channel allows. -/
def run [Channel σ] (c : Connection σ τ) :
    Option Readiness × List (Completion (Callback τ)) × Connection σ τ :=
  let ran := c.service.run
  (ran.readiness, ran.completions, { c with service := ran.service })

/-- **Take a request back**, and say whether it was there. -/
def remove (c : Connection σ τ) (key : RequestKey) : Bool × Connection σ τ :=
  let (removed, service) := c.service.remove key
  (removed, { c with service })

/-- **End** the connection: every request fails. -/
def shutDown (c : Connection σ τ) : List (Completion (Callback τ)) := c.service.shutDown

end Connection

end DriveLink
