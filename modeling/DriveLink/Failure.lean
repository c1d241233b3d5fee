import DriveLink.Status

/-! # Why no connection came about

A request that fails is reported as a `Status`. Where there is no connection to send a request on,
or a value cannot be serialized, the reason is a `Failure`; where a channel fails, an `IoError`.

* `SystemError`, `IoError` — failures of a channel;
* `Failure` — why a connection could not be opened;
* `IoError.message`, `Failure.message` — their wording. -/

namespace DriveLink

/-- A failure that the **operating system** reports. -/
inductive SystemError
  | noSuchFile
  | fileExists
  | brokenPipe
  | networkUnreachable
  | notConnected
  deriving DecidableEq, Repr

/-- The number of a system error. -/
def SystemError.number : SystemError → Nat
  | noSuchFile => 2
  | fileExists => 17
  | brokenPipe => 32
  | networkUnreachable => 101
  | notConnected => 107

/-- The description of a system error. -/
def SystemError.description : SystemError → String
  | noSuchFile => "No such file or directory"
  | fileExists => "File exists"
  | brokenPipe => "Broken pipe"
  | networkUnreachable => "Network is unreachable"
  | notConnected => "Transport endpoint is not connected"

/-- How a **channel failed**. -/
inductive IoError
  /-- As the operating system reported it. -/
  | system (error : SystemError)
  /-- As the channel itself put it. -/
  | told (text : String)
  deriving DecidableEq, Repr

/-- The wording of a channel's failure. -/
def IoError.message : IoError → String
  | system error => s!"{error.description} (os error {error.number})"
  | told text => text

/-- **Why a connection could not be opened**, or a value not be read. -/
inductive Failure
  | io (error : IoError)
  | tls (text : String)
  /-- The drive did not greet the client as it should. -/
  | handshake (status : Status)
  | serialization (text : String)
  /-- The options are none that a connection could be opened with. -/
  | config (text : String)
  deriving DecidableEq, Repr

/-- The wording of a failure. -/
def Failure.message : Failure → String
  | io error => "IO error: " ++ error.message
  | tls text => "TLS error: " ++ text
  | handshake status => "Handshake failed: " ++ status.message
  | serialization text => "Serialization error: " ++ text
  | config text => "Configuration error: " ++ text

end DriveLink
