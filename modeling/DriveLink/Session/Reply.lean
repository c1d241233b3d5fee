import DriveLink.Record
import DriveLink.Status

/-! # What a caller learns from a response

Each request implies the shape of its answer, and the shape says what is read off a successful
response. A response that lacks the body its shape implies is an error of the client.

* `Reply`, `Reply.Result` — the shapes, and what a caller gets from each;
* `Reply.decode` — reads it off a response. -/

namespace DriveLink

/-- The **shape of an answer**. -/
inductive Reply
  /-- The success is the whole answer. -/
  | acknowledgement
  /-- The key that was found, and its record. -/
  | record
  | version
  | keys
  | log
  /-- One status for each operation of a push. -/
  | pushStatuses
  /-- The drive says nothing to it. -/
  | silence
  deriving DecidableEq, Repr

namespace Reply

/-- **What a caller gets** from an answer of the shape. -/
abbrev Result : Reply → Type
  | acknowledgement => Unit
  | record => Bytes × Record
  | version => Bytes
  | keys => List Bytes
  | log => DriveLog
  | pushStatuses => List Status
  | silence => Unit

/-- A response lacks something. -/
def missing {α : Type} (what : String) : Except Status α :=
  .error (.client .internalError ("response carried no " ++ what))

/-- The **key and the record** that were found. -/
def decodeRecord (response : Command) (value : Bytes) : Except Status (Bytes × Record) :=
  match response.keyValue? with
  | none => missing "key/value body"
  | some kv =>
    match kv.key with
    | none => missing "key"
    | some key =>
      .ok (key,
        { value
          version := kv.dbVersion.getD []
          tag := kv.tag.getD []
          algorithm := kv.algorithm })

/-- The **version** that is stored. -/
def decodeVersion (response : Command) : Except Status Bytes :=
  match response.keyValue? with
  | none => missing "key/value body"
  | some kv => .ok (kv.dbVersion.getD [])

/-- The **keys** that were found. -/
def decodeKeys (response : Command) : Except Status (List Bytes) :=
  match response.range? with
  | none => missing "range body"
  | some range => .ok range.keys

/-- The **drive log**. The vendor's own log is the value payload, if there is any. -/
def decodeLog (response : Command) (value : Bytes) : Except Status DriveLog :=
  match response.log? with
  | none => missing "log body"
  | some request =>
    .ok (if value.isEmpty then request.log else { request.log with deviceLog := some value })

/-- What became of one operation of a push. One that the drive says nothing about was not
attempted. -/
def operationStatus (operation : PushOperation) : Status :=
  match operation.status with
  | some block => .ofBlock block
  | none => .remote .otherError "operation not attempted"

/-- The **statuses of a push**, one for each operation that the response has. -/
def decodePushStatuses (response : Command) : Except Status (List Status) :=
  match response.push? with
  | none => missing "peer-to-peer body"
  | some push => .ok (push.operations.map operationStatus)

/-- **Read the answer** off a successful response. -/
def decode (reply : Reply) (response : Command) (value : Bytes) : Except Status reply.Result :=
  match reply with
  | acknowledgement => .ok ()
  | record => decodeRecord response value
  | version => decodeVersion response
  | keys => decodeKeys response
  | log => decodeLog response value
  | pushStatuses => decodePushStatuses response
  | silence => .ok ()

end Reply

end DriveLink
