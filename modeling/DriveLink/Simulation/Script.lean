import DriveLink.Digest.Signer
import DriveLink.Frame.Basic
import DriveLink.Protocol.Layout

/-! # What a scripted drive sends

A simulated drive sends what its script says: frames that it builds and signs, perhaps damages and
cuts, raw bytes, and between them reads that would block or fail.

* `Damage` — what is done to bytes before they are sent;
* `FrameScript`, `FrameScript.render` — a frame to be built, and its bytes;
* `Item`, `Item.render` — one thing that the drive sends, and what of it reaches a reader;
* `Delivery` — that. -/

namespace DriveLink.Simulation

/-- **What is done to bytes**: one bit turned over, all but the first few cut off, others put behind
them, in this order. -/
structure Damage where
  /-- The place of the byte whose lowest bit is turned over, counted around the end. -/
  flip : Option Nat := none
  /-- How many bytes are kept. -/
  cut : Option Nat := none
  trail : Bytes := []
  deriving Repr

/-- The bytes after the damage. -/
def Damage.apply (damage : Damage) (bytes : Bytes) : Bytes :=
  let flipped :=
    match damage.flip with
    | none => bytes
    | some i => bytes.modify (i % bytes.length) (· ^^^ 1)
  let kept :=
    match damage.cut with
    | none => flipped
    | some n => flipped.take n
  kept ++ damage.trail

/-- Something that a script gives, or that is taken from the **request that is answered**. -/
inductive Scripted (α : Type)
  | given (value : α)
  | echo

/-- What a script gives, or what the request has. -/
def Scripted.resolve {α : Type} (scripted : Scripted α) (ofRequest : α) : α :=
  match scripted with
  | given value => value
  | echo => ofRequest

/-- The **digest** of a scripted frame. -/
inductive DigestScript
  /-- The one that the command should have, if the envelope is to be signed. -/
  | genuine
  | absent
  | given (digest : Bytes)

/-- The **command** of a scripted frame. -/
inductive CommandScript
  | whole (command : Command)
  /-- A response, put together from its parts. -/
  | response (header : Header) (ack : Scripted (Option Int64)) (body : Scripted Body)
    (status : Option StatusBlock)

/-- A **frame to be built**. -/
structure FrameScript where
  auth : AuthType := .hmac
  identity : Int64 := 1
  digest : DigestScript := .genuine
  /-- The key that signs it, if that is not the key of the drive. -/
  key : Option Bytes := none
  pin : Option Bytes := none
  command : CommandScript
  /-- Bytes that take the place of the serialized command. -/
  rawCommand : Option Bytes := none
  commandDamage : Damage := {}
  /-- What is done to the serialized envelope. -/
  damage : Damage := {}
  value : Scripted Bytes := .given []

/-- A **request** that the drive has read. -/
structure HeardRequest where
  command : Command
  value : Bytes

/-- The command of a frame, in answer to a request or to none. -/
def CommandScript.build (script : CommandScript) (request : Option HeardRequest) : Command :=
  match script with
  | whole command => command
  | response header ack body status =>
    let sequence := request.bind (·.command.header.sequence)
    let echoed := (request.map (·.command.body)).getD .empty
    { header := { header with ackSequence := ack.resolve sequence }
      body := body.resolve echoed
      status }

/-- The **bytes of a frame**, signed under a key unless it names its own. -/
def FrameScript.render (script : FrameScript) (key : Bytes) (request : Option HeardRequest) :
    Bytes :=
  let serialized := script.rawCommand.getD (script.command.build request).encode
  let command := script.commandDamage.apply serialized
  let signed : Option SignedDigest :=
    match script.digest with
    | .absent => none
    | .given digest => some ⟨script.identity, digest⟩
    | .genuine =>
      if script.auth = .hmac then
        some ⟨script.identity, Signer.hmacSha1.sign command (script.key.getD key)⟩
      else none
  let envelope : Envelope := { auth := script.auth, signed, pin := script.pin, command }
  let value := script.value.resolve ((request.map (·.value)).getD [])
  Frame.encode ⟨script.damage.apply envelope.encode, value⟩

/-- **One thing that the drive sends.** -/
inductive Item
  | bytes (content : Bytes)
  | frame (script : FrameScript)
  /-- The bytes of a frame from one place to another. -/
  | cutFrame (script : FrameScript) (first last : Nat)
  | block
  | zero
  | fail (text : String)

/-- What a drive **greets a client with** unless told otherwise: success, on connection 4242 in a
cluster of version 0. -/
def Item.greeting : Item :=
  .frame
    { auth := .unsolicited
      command := .response { clusterVersion := some 0, connectionId := some 4242 } .echo
        (.given .empty) (some { code := .success }) }

/-- What of it **reaches a reader**. -/
inductive Delivery
  | bytes (content : Bytes)
  | block
  | zero
  | fail (text : String)
  deriving DecidableEq, Repr

/-- How many bytes a delivery has. -/
def Delivery.size : Delivery → Nat
  | bytes content => content.length
  | _ => 0

/-- Bytes as a delivery, unless there are none. -/
def Delivery.ofBytes (bytes : Bytes) : List Delivery :=
  if bytes.isEmpty then [] else [.bytes bytes]

/-- What of an item reaches a reader. -/
def Item.render (item : Item) (key : Bytes) (request : Option HeardRequest) : List Delivery :=
  match item with
  | bytes content => Delivery.ofBytes content
  | frame script => Delivery.ofBytes (script.render key request)
  | cutFrame script first last =>
    Delivery.ofBytes (((script.render key request).take last).drop first)
  | block => [.block]
  | zero => [.zero]
  | fail text => [.fail text]

end DriveLink.Simulation
