import DriveLink.Session.Reply
import DriveLink.Protocol.Envelope

/-! # Requests

Everything that a drive can be asked, each as a value that carries the shape of its answer in its
type. A request says nothing yet about the connection that it is sent on.

* `Request` — an envelope, a command and a value payload;
* `Request.get`, `Request.put`, … — one function for each thing to ask;
* `WriteMode` — whether a write looks at the stored version. -/

namespace DriveLink

/-- A **request** whose answer has the given shape. -/
structure Request (reply : Reply) where
  envelope : Envelope := .hmac
  command : Command
  value : Bytes := []

/-- Whether a write **looks at the stored version** first. -/
inductive WriteMode
  /-- The write fails unless the stored version is the expected one. -/
  | requireSameVersion
  | ignoreVersion
  deriving DecidableEq, Repr

instance : Vocabulary WriteMode :=
  ⟨[.requireSameVersion, .ignoreVersion], ["RequireSameVersion", "IgnoreVersion"], rfl⟩

namespace Request

/-- A signed request with the given type and body. -/
def ofBody {reply : Reply} (type : MessageType) (body : Body) : Request reply :=
  { command := .request type body }

/-- The request, as **part of a batch**. -/
def inBatch {reply : Reply} (request : Request reply) (batch : UInt32) : Request reply :=
  { request with
    command := { request.command with
      header := { request.command.header with batchId := some batch } } }

/-! ## Keys and values -/

/-- Ask for **nothing**, to see whether the drive answers. -/
def noOp : Request .acknowledgement := ofBody .noOp .empty

/-- A request about one key. -/
def aboutKey {reply : Reply} (type : MessageType) (key : Bytes) : Request reply :=
  ofBody type (.keyValue { key := some key })

/-- Ask for a key's **record**. -/
def get (key : Bytes) : Request .record := aboutKey .get key

/-- Ask for the **first key after** a key, and its record. -/
def getNext (key : Bytes) : Request .record := aboutKey .getNext key

/-- Ask for the **last key before** a key, and its record. -/
def getPrevious (key : Bytes) : Request .record := aboutKey .getPrevious key

/-- Ask for a key's **version**. -/
def getVersion (key : Bytes) : Request .version := aboutKey .getVersion key

/-- Ask for the **keys between two keys**, at most so many of them. -/
def getKeyRange (startKey : Bytes) (startInclusive : Bool) (endKey : Bytes) (endInclusive : Bool)
    (reverse : Bool) (maxReturned : UInt32) : Request .keys :=
  ofBody .getKeyRange
    (.range { startKey, endKey, startInclusive, endInclusive, maxReturned, reverse })

/-- **Store a record** under a key. -/
def put (key currentVersion : Bytes) (mode : WriteMode) (record : Record)
    (persist : Synchronization) : Request .acknowledgement :=
  { command := .request .put
      (.keyValue
        { key := some key
          newVersion := some record.version
          dbVersion := some currentVersion
          force := some (mode = .ignoreVersion)
          tag := some record.tag
          algorithm := record.algorithm
          synchronization := some persist })
    value := record.value }

/-- **Delete** a key. -/
def delete (key version : Bytes) (mode : WriteMode) (persist : Synchronization) :
    Request .acknowledgement :=
  ofBody .delete
    (.keyValue
      { key := some key
        dbVersion := some version
        force := some (mode = .ignoreVersion)
        synchronization := some persist })

/-- Have the drive **make durable** all that it has acknowledged. -/
def flush : Request .acknowledgement := ofBody .flushAllData .empty

/-! ## Administration -/

/-- A request that a **PIN** authenticates. -/
def withPin (action : PinAction) (pin : Bytes) : Request .acknowledgement :=
  { envelope := .withPin pin, command := .request .pinOp (.pin action) }

/-- A change to access control or PINs. -/
def secure (change : Security) : Request .acknowledgement := ofBody .security (.security change)

/-- Change the PIN for **erasing**. -/
def setErasePin (old new : Bytes) : Request .acknowledgement :=
  secure { oldErasePin := some old, newErasePin := some new }

/-- Change the PIN for **locking**. -/
def setLockPin (old new : Bytes) : Request .acknowledgement :=
  secure { oldLockPin := some old, newLockPin := some new }

/-- Replace the **access control list**. -/
def setAcls (acls : List Acl) : Request .acknowledgement := secure { acls }

/-- Change the drive's **cluster version**. -/
def setClusterVersion (version : Int64) : Request .acknowledgement :=
  ofBody .setup (.setup { newClusterVersion := some version })

/-- Send a **firmware image**. -/
def updateFirmware (image : Bytes) : Request .acknowledgement :=
  { command := .request .setup (.setup { firmwareDownload := true }), value := image }

/-- Ask for sections of the **drive log**. -/
def getLog (types : List LogType) : Request .log := ofBody .getLog (.log { types })

/-- Ask for the **vendor's log** with the given name. -/
def getDeviceLog (name : Bytes) : Request .log :=
  ofBody .getLog (.log { types := [.device], log := { deviceName := some name } })

/-- Have the drive **copy keys** to a peer. -/
def push (peer : Peer) (operations : List PushOperation) : Request .pushStatuses :=
  ofBody .peerToPeerPush (.push ⟨peer, operations, none⟩)

/-! ## Batches -/

/-- **Begin** a batch. -/
def startBatch (batch : UInt32) : Request .acknowledgement :=
  (ofBody .startBatch .empty).inBatch batch

/-- A request that the drive says nothing to, because it **belongs to a batch**: what became of it
shows when the batch ends. -/
def operation {reply : Reply} (batch : UInt32) (request : Request reply) : Request .silence :=
  let request := request.inBatch batch
  { envelope := request.envelope, command := request.command, value := request.value }

/-- **Store a record** as part of a batch. -/
def batchPut (batch : UInt32) (key currentVersion : Bytes) (mode : WriteMode) (record : Record) :
    Request .silence :=
  operation batch (put key currentVersion mode record .writeBack)

/-- **Delete a key** as part of a batch. -/
def batchDelete (batch : UInt32) (key version : Bytes) (mode : WriteMode) : Request .silence :=
  operation batch (delete key version mode .writeBack)

/-- **Commit** a batch of so many operations. -/
def endBatch (batch count : UInt32) : Request .acknowledgement :=
  (ofBody .endBatch (.batch { count })).inBatch batch

/-- **Discard** a batch. -/
def abortBatch (batch : UInt32) : Request .acknowledgement :=
  (ofBody .abortBatch .empty).inBatch batch

end Request

end DriveLink
