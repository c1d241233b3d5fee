import DriveLink.Wire.Basic
import DriveLink.Protocol.Fields

/-! # How commands and envelopes are laid out

The serialized form of every type of the protocol. A structure is its fields in order, so its form
is that of their tuple (`Wire.ofFields`); a body is the number of its shape and the form of that
shape. Only a push contains itself: it is written by recursion on the push, and read by recursion on
a bound on its depth, for which the number of bytes is always enough.

* `Command.encode`, `Command.decode` — a command and its bytes;
* `Envelope.encode`, `Envelope.decode` — an envelope and its bytes;
* `Envelope.inner` — the command inside an envelope. -/

namespace DriveLink

/-! ## Names -/

instance : Wire MessageType := .choice MessageType.all
instance : Wire Priority := .choice Priority.all
instance : Wire Algorithm := .choice Algorithm.all
instance : Wire Synchronization := .choice Synchronization.all
instance : Wire Permission := .choice Permission.all
instance : Wire HmacAlgorithm := .choice HmacAlgorithm.all
instance : Wire LogType := .choice LogType.all
instance : Wire PinAction := .choice PinAction.all
instance : Wire DriveCode := .choice DriveCode.all
instance : Wire AuthType := .choice AuthType.all

/-! ## Structures -/

/-- The form of a type that is **made of fields**. -/
@[reducible] def Wire.ofFields {α τ : Type} [Fields α τ] [Wire τ] : Wire α :=
  .via Fields.ofTuple Fields.tuple

instance : Wire Header := .ofFields
instance : Wire KeyValue := .ofFields
instance : Wire KeyRange := .ofFields
instance : Wire Setup := .ofFields
instance : Wire Scope := .ofFields
instance : Wire Acl := .ofFields
instance : Wire Security := .ofFields
instance : Wire Utilization := .ofFields
instance : Wire Temperature := .ofFields
instance : Wire Capacity := .ofFields
instance : Wire Configuration := .ofFields
instance : Wire Statistics := .ofFields
instance : Wire Limits := .ofFields
instance : Wire DriveLog := .ofFields
instance : Wire LogRequest := .ofFields
instance : Wire StatusBlock := .ofFields
instance : Wire Peer := .ofFields
instance : Wire Batch := .ofFields

/-! ## Pushes -/

mutual

/-- The bytes of one **operation of a push**. -/
def PushOperation.encode : PushOperation → Bytes
  | ⟨key, version, newKey, force, status, nested⟩ =>
    Wire.encode key ++ (Wire.encode version ++ (Wire.encode newKey ++ (Wire.encode force ++
      (Wire.encode status ++ Push.encodeNested nested))))

/-- The bytes of a **push**. -/
def Push.encode : Push → Bytes
  | ⟨peer, operations, allSucceeded⟩ =>
    Wire.encode peer ++ ((Wire.encodeCount operations.length ++ Push.encodeOperations operations) ++
      Wire.encode allSucceeded)

/-- The bytes of the push that may follow an operation. -/
def Push.encodeNested : Option Push → Bytes
  | none => [0]
  | some push => 1 :: push.encode

/-- The bytes of the operations of a push, one after the other. -/
def Push.encodeOperations : List PushOperation → Bytes
  | [] => []
  | operation :: rest => operation.encode ++ Push.encodeOperations rest

end

/-- The form of an operation, given the form of the push inside it. -/
@[reducible] def PushOperation.wire (_nested : Wire Push) : Wire PushOperation := .ofFields

/-- The form of a push, given the form of its operations. -/
@[reducible] def Push.wire (_operation : Wire PushOperation) : Wire Push := .ofFields

/-- Read a push that nests fewer than `depth` others inside each other. -/
def Push.decodeWithin : (depth : Nat) → Bytes → Except DecodeError (Push × Bytes)
  | 0, _ => .error .inputEnded
  | depth + 1, bytes =>
    (Push.wire (PushOperation.wire ⟨Push.encode, Push.decodeWithin depth⟩)).decode bytes

/-- Every push inside a push takes up bytes of it, so no push is deeper than it is long. -/
instance : Wire Push where
  encode := Push.encode
  decode bytes := Push.decodeWithin (bytes.length + 1) bytes

instance : Wire PushOperation := PushOperation.wire inferInstance

/-! ## Bodies and commands -/

/-- The number of a body's shape. -/
def Body.variant : Body → Nat
  | .empty => 0
  | .keyValue _ => 1
  | .range _ => 2
  | .setup _ => 3
  | .security _ => 4
  | .log _ => 5
  | .push _ => 6
  | .pin _ => 7
  | .batch _ => 8

/-- The bytes of what a body holds, behind the number of its shape. -/
def Body.encodeContent : Body → Bytes
  | .empty => []
  | .keyValue kv => Wire.encode kv
  | .range bounds => Wire.encode bounds
  | .setup change => Wire.encode change
  | .security change => Wire.encode change
  | .log request => Wire.encode request
  | .push copies => Wire.encode copies
  | .pin action => Wire.encode action
  | .batch closing => Wire.encode closing

/-- Read what a body of the shape numbered `variant` holds. -/
def Body.decodeContent (variant : Nat) (bytes : Bytes) : Except DecodeError (Body × Bytes) :=
  match variant with
  | 0 => .ok (.empty, bytes)
  | 1 => read Body.keyValue
  | 2 => read Body.range
  | 3 => read Body.setup
  | 4 => read Body.security
  | 5 => read Body.log
  | 6 => read Body.push
  | 7 => read Body.pin
  | 8 => read Body.batch
  | other => .error (.badVariant (UInt32.ofNat other) 9)
where
  read {α : Type} [Wire α] (make : α → Body) : Except DecodeError (Body × Bytes) :=
    match Wire.decode bytes with
    | .ok (content, rest) => .ok (make content, rest)
    | .error e => .error e

instance : Wire Body where
  encode body := Wire.encode (UInt32.ofNat body.variant) ++ body.encodeContent
  decode bytes :=
    match Wire.decode (α := UInt32) bytes with
    | .error e => .error e
    | .ok (variant, rest) => Body.decodeContent variant.toNat rest

instance : Wire Command := .ofFields

/-- The bytes of a **command**, which are what gets signed and put into an envelope. -/
def Command.encode (command : Command) : Bytes := Wire.encode command

/-- Read a **command** off the front of some bytes. -/
def Command.decode (bytes : Bytes) : Except DecodeError Command := Wire.decodeFront bytes

/-! ## Envelopes -/

instance : Wire SignedDigest := .ofFields

instance : Wire Envelope := .ofFields

/-- The bytes of an **envelope**, for the command section of a frame. -/
def Envelope.encode (envelope : Envelope) : Bytes := Wire.encode envelope

/-- Read an **envelope** off the front of some bytes. -/
def Envelope.decode (bytes : Bytes) : Except DecodeError Envelope := Wire.decodeFront bytes

/-- The **command inside** an envelope. -/
def Envelope.inner (envelope : Envelope) : Except DecodeError Command :=
  Command.decode envelope.command

end DriveLink
