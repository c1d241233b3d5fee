import DriveLink.Protocol.Fields

/-! # The outcome of a request

Whatever becomes of a request, its caller learns it as one `Status`: a code that says who noticed
and what, and a text. The codes are told apart by who produced them, the client (`ClientFault`) or
the drive (`DriveFault`).

* `StatusCode`, `Status` — the outcome of a request;
* `Status.ofBlock` — what a status block of the drive means;
* `Status.ofResponse` — what a whole response means;
* `StatusCode.name`, `Status.message` — the wording. -/

namespace DriveLink

/-- What the **client** noticed. -/
inductive ClientFault
  | ioError
  | shutdown
  | internalError
  /-- The digest of a response does not verify. -/
  | badDigest
  | responseTooLarge
  | networkTimeout
  | connectionFailed
  /-- A response does not say which request it answers. -/
  | noAckSequence
  deriving DecidableEq, Repr

/-- Everything that the client may notice. -/
def ClientFault.all : List ClientFault :=
  [.ioError, .shutdown, .internalError, .badDigest, .responseTooLarge, .networkTimeout,
    .connectionFailed, .noAckSequence]

/-- What the **drive** reported. -/
inductive DriveFault
  | hmacError | notAuthorized | clusterVersionMismatch | internalError | headerRequired | notFound
  | versionMismatch | serviceBusy | expired | dataError | permDataError | remoteConnectionError
  | noSpace | noSuchHmacAlgorithm | invalidRequest | nestedOperationErrors | deviceLocked
  | deviceAlreadyUnlocked | connectionTerminated | invalidBatch | otherError
  deriving DecidableEq, Repr

/-- Everything that the drive may report. -/
def DriveFault.all : List DriveFault :=
  [.hmacError, .notAuthorized, .clusterVersionMismatch, .internalError, .headerRequired, .notFound,
    .versionMismatch, .serviceBusy, .expired, .dataError, .permDataError, .remoteConnectionError,
    .noSpace, .noSuchHmacAlgorithm, .invalidRequest, .nestedOperationErrors, .deviceLocked,
    .deviceAlreadyUnlocked, .connectionTerminated, .invalidBatch, .otherError]

/-- The **code** of an outcome. -/
inductive StatusCode
  | ok
  | client (fault : ClientFault)
  | remote (fault : DriveFault)
  deriving DecidableEq, Repr

/-- Every code: success, then what the client may notice, then what the drive may report. -/
def StatusCode.all : List StatusCode :=
  .ok :: ClientFault.all.map .client ++ DriveFault.all.map .remote

/-- The name of what the client noticed. -/
def ClientFault.name : ClientFault → String
  | ioError => "ClientIoError"
  | shutdown => "ClientShutdown"
  | internalError => "ClientInternalError"
  | badDigest => "ClientResponseHmacVerificationError"
  | responseTooLarge => "ClientResponseTooLarge"
  | networkTimeout => "ClientNetworkTimeout"
  | connectionFailed => "ClientConnectionFailed"
  | noAckSequence => "ProtocolErrorResponseNoAckSequence"

/-- The name of what the drive reported. -/
def DriveFault.name : DriveFault → String
  | hmacError => "RemoteHmacError"
  | notAuthorized => "RemoteNotAuthorized"
  | clusterVersionMismatch => "RemoteClusterVersionMismatch"
  | internalError => "RemoteInternalError"
  | headerRequired => "RemoteHeaderRequired"
  | notFound => "RemoteNotFound"
  | versionMismatch => "RemoteVersionMismatch"
  | serviceBusy => "RemoteServiceBusy"
  | expired => "RemoteExpired"
  | dataError => "RemoteDataError"
  | permDataError => "RemotePermDataError"
  | remoteConnectionError => "RemoteRemoteConnectionError"
  | noSpace => "RemoteNoSpace"
  | noSuchHmacAlgorithm => "RemoteNoSuchHmacAlgorithm"
  | invalidRequest => "RemoteInvalidRequest"
  | nestedOperationErrors => "RemoteNestedOperationErrors"
  | deviceLocked => "RemoteDeviceLocked"
  | deviceAlreadyUnlocked => "RemoteDeviceAlreadyUnlocked"
  | connectionTerminated => "RemoteConnectionTerminated"
  | invalidBatch => "RemoteInvalidBatch"
  | otherError => "RemoteOtherError"

/-- The **name** of a code. -/
def StatusCode.name : StatusCode → String
  | ok => "Ok"
  | client fault => fault.name
  | remote fault => fault.name

instance : Vocabulary StatusCode where
  members := StatusCode.all
  words := StatusCode.all.map StatusCode.name
  length_words := List.length_map ..

/-- Whether the **drive** produced the code. -/
def StatusCode.isRemote : StatusCode → Bool
  | remote _ => true
  | _ => false

/-- What a code of the drive **means to the caller**. -/
def StatusCode.ofDrive : DriveCode → StatusCode
  | .success => .ok
  | .hmacFailure => .remote .hmacError
  | .notAuthorized => .remote .notAuthorized
  | .versionFailure => .remote .clusterVersionMismatch
  | .internalError => .remote .internalError
  | .headerRequired => .remote .headerRequired
  | .notFound => .remote .notFound
  | .versionMismatch => .remote .versionMismatch
  | .serviceBusy => .remote .serviceBusy
  | .expired => .remote .expired
  | .dataError => .remote .dataError
  | .permDataError => .remote .permDataError
  | .remoteConnectionError => .remote .remoteConnectionError
  | .noSpace => .remote .noSpace
  | .noSuchHmacAlgorithm => .remote .noSuchHmacAlgorithm
  | .invalidRequest => .remote .invalidRequest
  | .nestedOperationErrors => .remote .nestedOperationErrors
  | .deviceLocked => .remote .deviceLocked
  | .deviceAlreadyUnlocked => .remote .deviceAlreadyUnlocked
  | .connectionTerminated => .remote .connectionTerminated
  | .invalidBatch => .remote .invalidBatch
  | .invalidStatusCode | .notAttempted => .remote .otherError

/-- The **outcome** of a request. -/
structure Status where
  code : StatusCode
  text : String := ""
  /-- The cluster version that the drive would have accepted, where the code is about that. -/
  expectedClusterVersion : Option Int64 := none
  deriving DecidableEq, Repr

instance : Fields Status (StatusCode × String × Option Int64) where
  names := ["code", "message", "expected_cluster_version"]
  tuple s := (s.code, s.text, s.expectedClusterVersion)
  ofTuple := fun (code, text, expectedClusterVersion) => ⟨code, text, expectedClusterVersion⟩

namespace Status

/-- Success. -/
def ok : Status := { code := .ok }

/-- What the **client** noticed, in words. -/
def client (fault : ClientFault) (text : String) : Status := { code := .client fault, text }

/-- What the **drive** reported, in words. -/
def remote (fault : DriveFault) (text : String) : Status := { code := .remote fault, text }

/-- The drive is in a cluster of **another version**. -/
def clusterVersionMismatch (text : String) (expected : Int64) : Status :=
  { code := .remote .clusterVersionMismatch, text, expectedClusterVersion := some expected }

/-- What a **status block** means. -/
def ofBlock (block : StatusBlock) : Status :=
  { code := .ofDrive block.code, text := block.message.getD "" }

/-- What a **response** means. The cluster version in its header is the expected one where its
status block complains about the version. -/
def ofResponse (response : Command) : Status :=
  match response.status with
  | none => remote .otherError "response carried no status"
  | some block =>
    let status := ofBlock block
    match status.code, response.header.clusterVersion with
    | .remote .clusterVersionMismatch, some expected => clusterVersionMismatch status.text expected
    | _, _ => status

/-- Whether the outcome is success. -/
def isOk (status : Status) : Bool := status.code = .ok

/-- Success as a value, every other outcome as an error. -/
def toExcept (status : Status) : Except Status Unit :=
  if status.isOk then .ok () else .error status

/-- The **wording** of an outcome: its code, and its text if it has one. -/
def message (status : Status) : String :=
  if status.text.isEmpty then status.code.name else status.code.name ++ ": " ++ status.text

end Status

end DriveLink
