/-! # The names of the protocol

The finite vocabularies that commands and envelopes are written in. Each type lists its members in
the order that numbers them on the wire (`all`), which is part of the format, and has a word for
each (`Vocabulary`).

* `MessageType` — what a command asks or answers;
* `Priority`, `Algorithm`, `Synchronization`, `Permission`, `HmacAlgorithm`, `LogType`,
  `PinAction` — the choices inside a command;
* `DriveCode` — how the drive reports the outcome of a request;
* `AuthType` — how an envelope is authenticated;
* `Vocabulary` — a type with its members and their words. -/

namespace DriveLink

/-- A **finite vocabulary**: its members in order, and a word for each. -/
class Vocabulary (α : Type) where
  members : List α
  words : List String
  /-- No member lacks a word. -/
  length_words : words.length = members.length

namespace Vocabulary

variable {α : Type} [DecidableEq α] [Vocabulary α]

/-- The **word** for a member. -/
def word (a : α) : String := ((members.zip (words α)).lookup a).getD ""

/-- The member that a word is for. -/
def ofWord? (word : String) : Option α := ((words α).zip members).lookup word

end Vocabulary

/-- What a command **asks or answers**. -/
inductive MessageType
  | get | getResponse
  | put | putResponse
  | delete | deleteResponse
  | getNext | getNextResponse
  | getPrevious | getPreviousResponse
  | getKeyRange | getKeyRangeResponse
  | getVersion | getVersionResponse
  | setup | setupResponse
  | getLog | getLogResponse
  | security | securityResponse
  | peerToPeerPush | peerToPeerPushResponse
  | noOp | noOpResponse
  | flushAllData | flushAllDataResponse
  | pinOp | pinOpResponse
  | startBatch | startBatchResponse
  | endBatch | endBatchResponse
  | abortBatch | abortBatchResponse
  deriving DecidableEq, Repr

/-- Every message type, each request before its response. -/
def MessageType.all : List MessageType :=
  [.get, .getResponse, .put, .putResponse, .delete, .deleteResponse, .getNext, .getNextResponse,
    .getPrevious, .getPreviousResponse, .getKeyRange, .getKeyRangeResponse, .getVersion,
    .getVersionResponse, .setup, .setupResponse, .getLog, .getLogResponse, .security,
    .securityResponse, .peerToPeerPush, .peerToPeerPushResponse, .noOp, .noOpResponse,
    .flushAllData, .flushAllDataResponse, .pinOp, .pinOpResponse, .startBatch,
    .startBatchResponse, .endBatch, .endBatchResponse, .abortBatch, .abortBatchResponse]

instance : Vocabulary MessageType where
  members := MessageType.all
  words :=
    ["Get", "GetResponse", "Put", "PutResponse", "Delete", "DeleteResponse", "GetNext",
      "GetNextResponse", "GetPrevious", "GetPreviousResponse", "GetKeyRange",
      "GetKeyRangeResponse", "GetVersion", "GetVersionResponse", "Setup", "SetupResponse",
      "GetLog", "GetLogResponse", "Security", "SecurityResponse", "PeerToPeerPush",
      "PeerToPeerPushResponse", "NoOp", "NoOpResponse", "FlushAllData", "FlushAllDataResponse",
      "PinOp", "PinOpResponse", "StartBatch", "StartBatchResponse", "EndBatch",
      "EndBatchResponse", "AbortBatch", "AbortBatchResponse"]
  length_words := rfl

/-- How **urgent** a request is to the drive's scheduler. -/
inductive Priority
  | lowest | lower | normal | higher | highest
  deriving DecidableEq, Repr

/-- Every priority, the least urgent first. -/
def Priority.all : List Priority := [.lowest, .lower, .normal, .higher, .highest]

instance : Vocabulary Priority :=
  ⟨Priority.all, ["Lowest", "Lower", "Normal", "Higher", "Highest"], rfl⟩

/-- The digest algorithm that a record's **tag** was computed with. -/
inductive Algorithm
  | sha1 | sha2 | sha3 | crc32 | crc64 | crc32c
  deriving DecidableEq, Repr

/-- Every tag algorithm. -/
def Algorithm.all : List Algorithm := [.sha1, .sha2, .sha3, .crc32, .crc64, .crc32c]

instance : Vocabulary Algorithm where
  members := Algorithm.all
  words :=
    ["Sha1", "Sha2", "Sha3", "Crc32", "Crc64", "Crc32c"]
  length_words := rfl

/-- **How durable** a write has to be before the drive acknowledges it. -/
inductive Synchronization
  | writeThrough | writeBack | flush
  deriving DecidableEq, Repr

/-- Every durability. -/
def Synchronization.all : List Synchronization := [.writeThrough, .writeBack, .flush]

instance : Vocabulary Synchronization :=
  ⟨Synchronization.all, ["WriteThrough", "WriteBack", "Flush"], rfl⟩

/-- What an identity may be **allowed to do**. -/
inductive Permission
  | read | write | delete | range | setup | peerToPeer | getLog | security
  deriving DecidableEq, Repr

/-- Every permission. -/
def Permission.all : List Permission :=
  [.read, .write, .delete, .range, .setup, .peerToPeer, .getLog, .security]

instance : Vocabulary Permission where
  members := Permission.all
  words :=
    ["Read", "Write", "Delete", "Range", "Setup", "P2POp", "GetLog", "Security"]
  length_words := rfl

/-- The keyed digest that an **access control entry** prescribes. -/
inductive HmacAlgorithm
  | hmacSha1
  deriving DecidableEq, Repr

/-- Every keyed digest. -/
def HmacAlgorithm.all : List HmacAlgorithm := [.hmacSha1]

instance : Vocabulary HmacAlgorithm := ⟨HmacAlgorithm.all, ["HmacSha1"], rfl⟩

/-- A section of the **drive log**. -/
inductive LogType
  | utilizations | temperatures | capacities | configuration | statistics | messages | limits
  | device
  deriving DecidableEq, Repr

/-- Every log section. -/
def LogType.all : List LogType :=
  [.utilizations, .temperatures, .capacities, .configuration, .statistics, .messages, .limits,
    .device]

instance : Vocabulary LogType where
  members := LogType.all
  words :=
    ["Utilizations", "Temperatures", "Capacities", "Configuration", "Statistics", "Messages",
      "Limits", "Device"]
  length_words := rfl

/-- What a **PIN** is presented for. -/
inductive PinAction
  | unlock | lock | erase | secureErase
  deriving DecidableEq, Repr

/-- Every action that takes a PIN. -/
def PinAction.all : List PinAction := [.unlock, .lock, .erase, .secureErase]

instance : Vocabulary PinAction :=
  ⟨PinAction.all, ["Unlock", "Lock", "Erase", "SecureErase"], rfl⟩

/-- How the **drive reports** the outcome of a request. -/
inductive DriveCode
  | invalidStatusCode | notAttempted | success | hmacFailure | notAuthorized | versionFailure
  | internalError | headerRequired | notFound | versionMismatch | serviceBusy | expired | dataError
  | permDataError | remoteConnectionError | noSpace | noSuchHmacAlgorithm | invalidRequest
  | nestedOperationErrors | deviceLocked | deviceAlreadyUnlocked | connectionTerminated
  | invalidBatch
  deriving DecidableEq, Repr

/-- Every code of the drive. -/
def DriveCode.all : List DriveCode :=
  [.invalidStatusCode, .notAttempted, .success, .hmacFailure, .notAuthorized, .versionFailure,
    .internalError, .headerRequired, .notFound, .versionMismatch, .serviceBusy, .expired,
    .dataError, .permDataError, .remoteConnectionError, .noSpace, .noSuchHmacAlgorithm,
    .invalidRequest, .nestedOperationErrors, .deviceLocked, .deviceAlreadyUnlocked,
    .connectionTerminated, .invalidBatch]

instance : Vocabulary DriveCode where
  members := DriveCode.all
  words :=
    ["InvalidStatusCode", "NotAttempted", "Success", "HmacFailure", "NotAuthorized",
      "VersionFailure", "InternalError", "HeaderRequired", "NotFound", "VersionMismatch",
      "ServiceBusy", "Expired", "DataError", "PermDataError", "RemoteConnectionError", "NoSpace",
      "NoSuchHmacAlgorithm", "InvalidRequest", "NestedOperationErrors", "DeviceLocked",
      "DeviceAlreadyUnlocked", "ConnectionTerminated", "InvalidBatch"]
  length_words := rfl

/-- How an envelope is **authenticated**. -/
inductive AuthType
  /-- By a keyed digest over the command bytes. -/
  | hmac
  /-- By the bare PIN, for erasing and locking. -/
  | pin
  /-- Not at all: the drive speaks without having been asked. -/
  | unsolicited
  deriving DecidableEq, Repr

/-- Every kind of authentication. -/
def AuthType.all : List AuthType := [.hmac, .pin, .unsolicited]

instance : Vocabulary AuthType :=
  ⟨AuthType.all, ["HmacAuth", "PinAuth", "UnsolicitedStatus"], rfl⟩

end DriveLink
