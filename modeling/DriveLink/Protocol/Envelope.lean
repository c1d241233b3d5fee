import DriveLink.Protocol.Command

/-! # Envelopes

What the command section of a frame holds: a serialized command and what authenticates it. Only the
command bytes are ever signed, never the envelope around them.

* `SignedDigest` — a digest and the identity whose key made it;
* `Envelope` — the outer container;
* `Envelope.hmac`, `Envelope.withPin`, `Envelope.unsolicited` — envelopes with no command yet. -/

namespace DriveLink

/-- A **digest** and the identity whose key made it. -/
structure SignedDigest where
  identity : Int64
  digest : Bytes
  deriving DecidableEq, Repr

/-- The **outer container** of a command. -/
structure Envelope where
  auth : AuthType
  signed : Option SignedDigest := none
  pin : Option Bytes := none
  /-- The serialized command. -/
  command : Bytes := []
  deriving DecidableEq, Repr

namespace Envelope

/-- For a request that is to be **signed**; the digest is attached once the command is final. -/
def hmac : Envelope := { auth := .hmac }

/-- For a request that is authenticated by a **PIN**. -/
def withPin (pin : Bytes) : Envelope := { auth := .pin, pin := some pin }

/-- For what the drive says **without being asked**. -/
def unsolicited : Envelope := { auth := .unsolicited }

/-- The digest that the envelope carries, if any. -/
def digest? (envelope : Envelope) : Option Bytes := envelope.signed.map SignedDigest.digest

end Envelope

end DriveLink
