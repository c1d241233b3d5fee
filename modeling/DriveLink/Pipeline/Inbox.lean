import DriveLink.Digest.Signer
import DriveLink.Pipeline.Event
import DriveLink.Protocol.Layout

/-! # The inbound half of a connection

An `Inbox` holds the requests that are out, reads the drive's frames and hands each response to the
request that it acknowledges, in whatever order responses come. What it does with a frame that is
not a proper response depends on how bad it is:

* the channel fails, or a frame does not start as one: every request fails, and the inbox is dead;
* a digest does not verify, an envelope or a command does not decode, a response acknowledges
  nothing: every request fails, and the inbox stays usable;
* a frame is too large: the request that it answers fails, or every one if that cannot be told;
* a response acknowledges a request that is not out: it is passed over.

* `Correlator` — the requests that are out, and what is needed to tell which of them is answered;
* `Correlator.accept` — what the end of a frame does;
* `Inbox`, `Inbox.receive` — reads frame after frame, as far as the channel allows. -/

namespace DriveLink

/-- The sequence that everything the drive says **without being asked** counts as answering. -/
def greetingSequence : Int64 := -1

/-- How far a half of a connection came. -/
inductive Activity
  /-- There is nothing to wait for. -/
  | idle
  /-- The channel has to become ready first. -/
  | waiting
  /-- The half is dead. -/
  | failed
  deriving DecidableEq, Repr

/-- Why a frame is **no response**. -/
inductive ResponseFault
  | malformed (error : DecodeError)
  | badDigest
  deriving DecidableEq, Repr

/-- The status that requests fail with because of it. -/
def ResponseFault.status : ResponseFault → Status
  | malformed error => .client .ioError ("malformed response: " ++ error.message)
  | badDigest => .client .badDigest "response HMAC did not verify"

/-! ## Telling which request is answered -/

/-- The requests that are out, and **what is needed to tell** which of them a frame answers. -/
structure Correlator (η : Type) where
  signer : Signer
  hmacKey : Bytes
  outstanding : Outstanding η
  /-- The number of the connection, as the latest response that has one gives it. -/
  connectionId : Option Int64

/-- What the **end of a frame** did. -/
structure Accepted (η : Type) where
  correlator : Correlator η
  completions : List (Completion η)
  /-- Whether to stop reading. -/
  stop : Bool

namespace Correlator

variable {η : Type}

/-- Fail **every request** that is out. -/
def failAll (c : Correlator η) (status : Status) : List (Completion η) × Correlator η :=
  let (requests, outstanding) := c.outstanding.drain
  (requests.map fun request => .fail request.key request.handler status, { c with outstanding })

/-- The envelope and the command in the command section of a frame, if they decode and the envelope,
should it claim to be signed, carries the digest that it should. -/
def openResponse (c : Correlator η) (bytes : Bytes) :
    Except ResponseFault (Envelope × Command) :=
  match Envelope.decode bytes with
  | .error e => .error (.malformed e)
  | .ok envelope =>
    if envelope.auth = .hmac && !c.signer.verifies c.hmacKey envelope then .error .badDigest
    else
      match envelope.inner with
      | .error e => .error (.malformed e)
      | .ok command => .ok (envelope, command)

/-- The **sequence that a response answers**. -/
def answeredSequence (envelope : Envelope) (command : Command) : Option Int64 :=
  if envelope.auth = .unsolicited then some greetingSequence else command.header.ackSequence

/-- Keep the number of the connection, if a response has one. -/
def learn (c : Correlator η) (response : Command) : Correlator η :=
  match response.header.connectionId with
  | some id => { c with connectionId := some id }
  | none => c

/-- Fail every request because of one frame, and stop reading. -/
def giveUp (c : Correlator η) (status : Status) : Accepted η :=
  let (completions, c) := c.failAll status
  ⟨c, completions, true⟩

/-- **Hand a response over** to the request that it answers. -/
def dispatch (c : Correlator η) (frame : Frame) : Accepted η :=
  match c.openResponse frame.command with
  | .error fault => c.giveUp fault.status
  | .ok (envelope, command) =>
    let c := c.learn command
    match answeredSequence envelope command with
    | none => c.giveUp (.client .noAckSequence "response had no ack sequence")
    | some sequence =>
      match c.outstanding.removeBySequence sequence with
      | none => ⟨c, [], false⟩
      | some (request, outstanding) =>
        ⟨{ c with outstanding }, [.answer request.key request.handler command frame.value], false⟩

/-- The status that requests fail with because a response was too large. -/
def tooLargeStatus : Status :=
  .client .responseTooLarge "response exceeded the maximum frame size"

/-- The sequence in the header of the response whose command section this is, if it is there and
can be trusted. -/
def acknowledgedIn (c : Correlator η) (bytes : Option Bytes) : Option Int64 :=
  match bytes with
  | none => none
  | some bytes =>
    match c.openResponse bytes with
    | .error _ => none
    | .ok (_, command) => command.header.ackSequence

/-- **Fail the request** that a frame answers which was too large, or all if that cannot be told. -/
def dispatchTooLarge (c : Correlator η) (bytes : Option Bytes) : Accepted η :=
  match c.acknowledgedIn bytes with
  | none =>
    let (completions, c) := c.failAll tooLargeStatus
    ⟨c, completions, false⟩
  | some sequence =>
    match c.outstanding.removeBySequence sequence with
    | none => ⟨c, [], false⟩
    | some (request, outstanding) =>
      ⟨{ c with outstanding }, [.fail request.key request.handler tooLargeStatus], false⟩

/-- What the **end of a frame** does. Any other outcome of a read does nothing here. -/
def accept (c : Correlator η) : ReadOutcome → Accepted η
  | .frame frame => c.dispatch frame
  | .tooLarge bytes _ _ => c.dispatchTooLarge bytes
  | .pending | .failed _ => ⟨c, [], true⟩

end Correlator

/-! ## Reading frame after frame -/

/-- The **inbound half** of a connection. -/
structure Inbox (η : Type) where
  correlator : Correlator η
  reader : FrameReader
  failed : Bool := false

/-- What a call to receive did. -/
structure Received (η σ : Type) where
  activity : Activity
  events : List (Event η)
  inbox : Inbox η
  channel : σ

/-- The requests that a call to receive completed. -/
def Received.completions {η σ : Type} (received : Received η σ) : List (Completion η) :=
  Event.completions received.events

namespace Inbox

variable {η σ : Type}

/-- An inbox that waits for the drive's greeting or has nothing out yet. -/
def new (signer : Signer) (hmacKey : Bytes) (maxFrameSize : Nat) (outstanding : Outstanding η) :
    Inbox η :=
  { correlator := { signer, hmacKey, outstanding, connectionId := none }
    reader := { maxFrameSize } }

/-- How many requests are out. -/
def outstanding (inbox : Inbox η) : Nat := inbox.correlator.outstanding.size

/-- The number of the connection, as far as it is known. -/
def connectionId (inbox : Inbox η) : Option Int64 := inbox.correlator.connectionId

/-- Let a request **wait for its answer**. If one of its names is taken, nothing changes and the
answer is `none`. -/
def track (inbox : Inbox η) (request : OutstandingRequest η) : Option (Inbox η) :=
  match inbox.correlator.outstanding.insert request with
  | some outstanding => some { inbox with correlator := { inbox.correlator with outstanding } }
  | none => none

/-- **Take a request back** that is out, and say whether it was. Its answer will be passed over. -/
def remove (inbox : Inbox η) (key : RequestKey) : Bool × Inbox η :=
  match inbox.correlator.outstanding.removeByKey key with
  | some (_, outstanding) =>
    (true, { inbox with correlator := { inbox.correlator with outstanding } })
  | none => (false, inbox)

/-- Fail every request that is out, because there is an end to the connection. -/
def shutDown (inbox : Inbox η) : List (Completion η) :=
  (inbox.correlator.failAll (.client .shutdown "connection shut down")).1

/-- **Read and hand over** frame after frame, until the channel has no more, or a frame says to
stop, or there is nothing to read for. -/
def receiveFrom [Channel σ] (c : Correlator η) (reader : FrameReader) (s : σ) : Received η σ :=
  if !reader.inProgress && c.outstanding.isEmpty then
    ⟨.idle, [], { correlator := c, reader }, s⟩
  else
    let read := reader.read s
    if _ends : read.1.endsFrame = true then
      let accepted := c.accept read.1
      let events := .received read.1 :: accepted.completions.map .completed
      if accepted.stop then
        ⟨.idle, events, { correlator := accepted.correlator, reader := read.2.1 }, read.2.2⟩
      else
        let later := receiveFrom accepted.correlator read.2.1 read.2.2
        { later with events := events ++ later.events }
    else
      match read.1 with
      | .failed error =>
        let (failed, c) := c.failAll (.client .ioError ("I/O read error: " ++ error.message))
        ⟨.failed, .received read.1 :: failed.map .completed,
          { correlator := c, reader := read.2.1, failed := true }, read.2.2⟩
      | _ => ⟨.waiting, [], { correlator := c, reader := read.2.1 }, read.2.2⟩
termination_by reader.work s
decreasing_by exact FrameReader.work_read_lt _ends

/-- **Receive** what the channel holds. A dead inbox receives nothing. -/
def receive [Channel σ] (inbox : Inbox η) (s : σ) : Received η σ :=
  if inbox.failed then ⟨.failed, [], inbox, s⟩
  else receiveFrom inbox.correlator inbox.reader s

end Inbox

end DriveLink
