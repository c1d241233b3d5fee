import DriveLink.Bytes
import DriveLink.Protocol.Names

/-! # Commands

A command is the signed part of everything that is sent: a `Header` that orders and correlates, a
`Body` whose shape depends on the message type, and on responses the drive's `StatusBlock`.

* `Header`, `Body`, `StatusBlock`, `Command` — a command and its parts;
* `KeyValue`, `KeyRange`, `Setup`, `Security`, `LogRequest`, `Push`, `Batch` — the bodies;
* `Command.request` — a request that carries nothing but its type and body;
* `Command.isSuccess` — whether a response reports success. -/

namespace DriveLink

/-- A single-precision number, kept as its **IEEE 754 bits** so that it travels unchanged. -/
abbrev SingleBits : Type := UInt32

/-- The **header** of a command. -/
structure Header where
  /-- The version of the cluster that the sender believes in. -/
  clusterVersion : Option Int64 := none
  /-- The connection, as the drive numbers it. -/
  connectionId : Option Int64 := none
  /-- The place of a request among the requests of its connection. -/
  sequence : Option Int64 := none
  /-- The sequence of the request that a response answers. -/
  ackSequence : Option Int64 := none
  messageType : Option MessageType := none
  /-- Milliseconds that the drive may spend on the request. -/
  timeout : Option Int64 := none
  priority : Option Priority := none
  earlyExit : Option Bool := none
  /-- The batch that the request belongs to. -/
  batchId : Option UInt32 := none
  deriving DecidableEq, Repr

/-! ## Bodies -/

/-- The body of reads and writes of **one key**. -/
structure KeyValue where
  key : Option Bytes := none
  /-- The version that a write stores. -/
  newVersion : Option Bytes := none
  /-- The version that is stored, as the drive reports it or as a write expects it. -/
  dbVersion : Option Bytes := none
  /-- Whether a write ignores the stored version. -/
  force : Option Bool := none
  tag : Option Bytes := none
  algorithm : Option Algorithm := none
  metadataOnly : Option Bool := none
  synchronization : Option Synchronization := none
  deriving DecidableEq, Repr

/-- The body of a listing of the **keys between two keys**. -/
structure KeyRange where
  startKey : Bytes := []
  endKey : Bytes := []
  startInclusive : Bool := false
  endInclusive : Bool := false
  maxReturned : UInt32 := 0
  reverse : Bool := false
  /-- The keys found, filled in by the drive. -/
  keys : List Bytes := []
  deriving DecidableEq, Repr

/-- The body of a change to the **drive's setup**. -/
structure Setup where
  newClusterVersion : Option Int64 := none
  /-- Whether the value payload is a firmware image. -/
  firmwareDownload : Bool := false
  deriving DecidableEq, Repr

/-- The permissions of an identity over keys that hold `value` at `offset`. -/
structure Scope where
  offset : Int64 := 0
  value : Bytes := []
  permissions : List Permission := []
  tlsRequired : Bool := false
  deriving DecidableEq, Repr

/-- An **access control entry**: an identity, its key and what it may do. -/
structure Acl where
  identity : Int64 := 0
  key : Bytes := []
  hmacAlgorithm : HmacAlgorithm := .hmacSha1
  scopes : List Scope := []
  maxPriority : Option Priority := none
  deriving DecidableEq, Repr

/-- The body of a change to **access control or PINs**. -/
structure Security where
  acls : List Acl := []
  oldLockPin : Option Bytes := none
  newLockPin : Option Bytes := none
  oldErasePin : Option Bytes := none
  newErasePin : Option Bytes := none
  deriving DecidableEq, Repr

/-! ## The drive log -/

/-- How busy a part of the drive is. -/
structure Utilization where
  name : String := ""
  value : SingleBits := 0
  deriving DecidableEq, Repr

/-- A temperature sensor and its bounds. -/
structure Temperature where
  name : String := ""
  current : SingleBits := 0
  minimum : SingleBits := 0
  maximum : SingleBits := 0
  target : SingleBits := 0
  deriving DecidableEq, Repr

/-- How much the drive stores. -/
structure Capacity where
  nominalBytes : UInt64 := 0
  portionFull : SingleBits := 0
  deriving DecidableEq, Repr

/-- Who made the drive and what runs on it. -/
structure Configuration where
  vendor : String := ""
  model : String := ""
  serialNumber : Bytes := []
  worldWideName : Bytes := []
  version : String := ""
  compilationDate : String := ""
  sourceHash : String := ""
  protocolVersion : String := ""
  port : UInt32 := 0
  tlsPort : UInt32 := 0
  deriving DecidableEq, Repr

/-- How often a message type was used. -/
structure Statistics where
  messageType : MessageType
  count : UInt64 := 0
  bytes : UInt64 := 0
  deriving DecidableEq, Repr

/-- What the drive accepts at most. -/
structure Limits where
  maxKeySize : UInt32 := 0
  maxValueSize : UInt32 := 0
  maxVersionSize : UInt32 := 0
  maxTagSize : UInt32 := 0
  maxConnections : UInt32 := 0
  maxOutstandingReadRequests : UInt32 := 0
  maxOutstandingWriteRequests : UInt32 := 0
  maxMessageSize : UInt32 := 0
  maxKeyRangeCount : UInt32 := 0
  maxIdentityCount : UInt32 := 0
  maxPinSize : UInt32 := 0
  maxOperationCountPerBatch : UInt32 := 0
  maxBatchCountPerDevice : UInt32 := 0
  deriving DecidableEq, Repr

/-- The **drive log**, as far as a request asked for it. -/
structure DriveLog where
  utilizations : List Utilization := []
  temperatures : List Temperature := []
  capacity : Option Capacity := none
  configuration : Option Configuration := none
  statistics : List Statistics := []
  messages : Bytes := []
  limits : Option Limits := none
  /-- The name of the vendor's own log that was asked for. -/
  deviceName : Option Bytes := none
  /-- The contents of that log. They travel as the value payload and not in the command. -/
  deviceLog : Option Bytes := none
  deriving DecidableEq, Repr

/-- The body of a **log request** and of its response. -/
structure LogRequest where
  types : List LogType := []
  log : DriveLog := {}
  deriving DecidableEq, Repr

/-! ## Status -/

/-- The **status block** of a response. -/
structure StatusBlock where
  code : DriveCode
  message : Option String := none
  detail : Option Bytes := none
  deriving DecidableEq, Repr

/-! ## Pushes from drive to drive -/

/-- Another drive that keys are copied to. -/
structure Peer where
  hostname : String := ""
  port : UInt32 := 0
  tls : Bool := false
  deriving DecidableEq, Repr

mutual

/-- **One key copied to a peer**, and perhaps a push that the peer starts once it has the key. -/
structure PushOperation where
  key : Bytes
  version : Option Bytes
  newKey : Option Bytes
  force : Bool
  status : Option StatusBlock
  nested : Option Push

/-- The body of a **push**: the peer, the operations in order, and the drive's summary. -/
structure Push where
  peer : Peer
  operations : List PushOperation
  allSucceeded : Option Bool

end

/-! ## Batches and PINs -/

/-- The body of the **end of a batch**. -/
structure Batch where
  /-- How many operations the batch has. -/
  count : UInt32 := 0
  /-- The sequences of its operations, filled in by the drive. -/
  sequences : List Int64 := []
  failedSequence : Option Int64 := none
  deriving DecidableEq, Repr

/-! ## Commands -/

/-- The **body** of a command, one shape for each family of message types. -/
inductive Body
  | empty
  | keyValue (kv : KeyValue)
  | range (range : KeyRange)
  | setup (setup : Setup)
  | security (security : Security)
  | log (request : LogRequest)
  | push (push : Push)
  | pin (action : PinAction)
  | batch (batch : Batch)

/-- A **command**: request or response. -/
structure Command where
  header : Header := {}
  body : Body := .empty
  status : Option StatusBlock := none

namespace Command

/-- A **request** that carries its type and body, and nothing else yet. -/
def request (type : MessageType) (body : Body) : Command :=
  { header := { messageType := some type }, body }

/-- Whether the drive **reports success**. -/
def isSuccess (command : Command) : Bool :=
  match command.status with
  | some status => status.code = .success
  | none => false

/-- The key-value body, if there is one. -/
def keyValue? (command : Command) : Option KeyValue :=
  match command.body with
  | .keyValue kv => some kv
  | _ => none

/-- The key range body, if there is one. -/
def range? (command : Command) : Option KeyRange :=
  match command.body with
  | .range range => some range
  | _ => none

/-- The log body, if there is one. -/
def log? (command : Command) : Option LogRequest :=
  match command.body with
  | .log request => some request
  | _ => none

/-- The push body, if there is one. -/
def push? (command : Command) : Option Push :=
  match command.body with
  | .push push => some push
  | _ => none

end Command

end DriveLink
