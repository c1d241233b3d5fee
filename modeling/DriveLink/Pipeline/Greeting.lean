import DriveLink.Channel.Waiter
import DriveLink.Options
import DriveLink.Pipeline.Inbox

/-! # The drive's greeting

A drive opens a connection by saying its status without being asked. Until it has, there is no
connection: the client waits for it as for the answer to a request, with the sequence that
unsolicited frames count as answering, and passes over whatever answers something else.

* `Greeted` — an inbox that has been greeted, and the greeting;
* `awaitGreeting` — waits for the greeting until its time is up;
* `greet` — the same with a waiter of its own, which it releases. -/

namespace DriveLink

/-- The **inbox of a new connection**, and what the drive greeted it with. -/
structure Greeted (η : Type) where
  inbox : Inbox η
  greeting : Command

/-- What became of the wait for the greeting. -/
structure GreetingStep (σ : Type) where
  result : Except Failure (Inbox Unit × Command)
  waiter : Waiter
  channel : σ

/-- An inbox that waits for nothing but the **greeting**. -/
def Inbox.forGreeting (signer : Signer) (options : Options) : Inbox Unit :=
  .new signer options.hmacKey options.maxFrameSize ⟨[⟨greetingSequence, greetingKey, ()⟩]⟩

/-- Whether the greeting is in, and what it is. -/
def greetingResult (received : List (Completion Unit)) : Option (Except Status Command) :=
  match received with
  | [] => none
  | completion :: _ =>
    match completion.outcome with
    | .answered greeting _ => some (.ok greeting)
    | .failed status _ => some (.error status)

/-- **Wait for the greeting** until the deadline. The answer is `none` if it takes more waits than
`patience`. -/
def awaitGreeting {σ : Type} [Channel σ] [Pollable σ] (timeout : Duration) (deadline : Nat) :
    (patience : Nat) → Inbox Unit → Waiter → σ → Option (GreetingStep σ)
  | 0, _, _, _ => none
  | patience + 1, inbox, waiter, s =>
    let received := inbox.receive s
    let s := received.channel
    let stop (failure : Failure) : Option (GreetingStep σ) := some ⟨.error failure, waiter, s⟩
    match greetingResult received.completions with
    | some (.ok greeting) => some ⟨.ok (received.inbox, greeting), waiter, s⟩
    | some (.error status) => stop (.handshake status)
    | none =>
      if received.activity = .failed then
        stop (.handshake (.client .ioError "connection failed during handshake"))
      else
        let now := Pollable.now s
        if deadline ≤ now then
          stop (.handshake (.client .networkTimeout
            ("no handshake from drive within " ++ timeout.text)))
        else
          match waiter.wait .forRead ⟨deadline - now⟩ s with
          | (.ok _, waiter, s) => awaitGreeting timeout deadline patience received.inbox waiter s
          | (.error error, waiter, s) => some ⟨.error (.io error), waiter, s⟩

/-- **Be greeted** on a new channel. Afterwards nothing waits for an answer and the source is free.
The answer is `none` if it takes more waits than `patience`. -/
def greet {η σ : Type} [Channel σ] [Pollable σ] (patience : Nat) (signer : Signer)
    (options : Options) (s : σ) : Option (Except Failure (Greeted η) × σ) :=
  let timeout := options.handshakeTimeout
  match awaitGreeting timeout (Pollable.now s + timeout.nanoseconds) patience
      (.forGreeting signer options) { registrar := .greeting } s with
  | none => none
  | some step =>
    let (_, s) := step.waiter.release step.channel
    match step.result with
    | .error failure => some (.error failure, s)
    | .ok (inbox, greeting) =>
      let correlator : Correlator η := { inbox.correlator with outstanding := .empty }
      some (.ok ⟨{ inbox with correlator }, greeting⟩, s)

end DriveLink
