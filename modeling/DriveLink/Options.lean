import DriveLink.Duration
import DriveLink.Failure
import DriveLink.Trust.Certificate

/-! # Connection options

* `Options` — where the drive is, who connects, and the limits and defaults of the connection;
* `Options.validate` — refuses options that no connection could be opened with. -/

namespace DriveLink

/-- The plain port of a drive. -/
def defaultPort : UInt16 := 8123

/-- The port of a drive that speaks TLS. -/
def defaultTlsPort : UInt16 := 8443

/-- The most bytes of command and value that a frame from the drive may have, unless told
otherwise: 2 MiB. -/
def defaultMaxFrameSize : Nat := 2 * 1024 * 1024

/-- The **options** of one connection. -/
structure Options where
  host : String := "localhost"
  port : UInt16 := defaultPort
  /-- Who may vouch for the drive. If there is such a list, the connection is over TLS. -/
  trust : Option (List TrustAnchor) := none
  /-- The identity that the key belongs to. -/
  userId : Int64 := 1
  hmacKey : Bytes := "asdfasdf".toByteArray.data.toList
  /-- Sent with every request; the drive refuses any other than its own. -/
  clusterVersion : Int64 := 0
  /-- The most bytes of command and value that a frame from the drive may have. -/
  maxFrameSize : Nat := defaultMaxFrameSize
  connectTimeout : Duration := .seconds 10
  /-- How long to wait for the drive's greeting. -/
  handshakeTimeout : Duration := .seconds 30
  /-- How long a blocking call waits for the channel to become ready. -/
  networkTimeout : Duration := .seconds 30
  priority : Priority := .normal
  /-- How long the drive may spend on a request, if it is told. -/
  requestTimeout : Option Duration := none
  deriving DecidableEq, Repr

/-- **Refuse** options that no connection could be opened with, for the first reason found. -/
def Options.validate (options : Options) : Except Failure Unit :=
  if options.host.isEmpty then .error (.config "host must not be empty")
  else if options.port = 0 then .error (.config "port must not be zero")
  else if options.hmacKey.isEmpty then .error (.config "HMAC key must not be empty")
  else if options.maxFrameSize = 0 then
    .error (.config "maximum frame size must not be zero")
  else if options.handshakeTimeout.isZero || options.networkTimeout.isZero then
    .error (.config "timeouts must not be zero")
  else .ok ()

end DriveLink
