import DriveLink.Trust.Der

/-! # Whom to trust

A certificate that is trusted from the start says who may vouch for drives. Of such a certificate
only its shape is checked and nobody's signature: it is either of the third version, with extensions
of which the critical ones must be known, or of the first, with none.

* `TrustAnchor` — who may vouch for others;
* `TrustAnchor.ofCertificate` — reads it off a certificate;
* `CertificateFault` — why a certificate is none. -/

namespace DriveLink

/-- **Why a certificate is none** that can be trusted. -/
inductive CertificateFault
  /-- The bytes are no certificate. -/
  | encoding
  /-- The certificate is not of the third version. -/
  | version
  /-- The certificate names one way to sign within its signed part and another one without. -/
  | signatureAlgorithm
  /-- An extension is critical and unknown. -/
  | criticalExtension
  /-- An extension is there twice. -/
  | repeatedExtension
  deriving DecidableEq, Repr

/-- The wording of a fault. -/
def CertificateFault.message (fault : CertificateFault) : String :=
  let other (name : String) : String := "Other(OtherError(" ++ name ++ "))"
  "invalid peer certificate: " ++
    match fault with
    | encoding | version => "BadEncoding"
    | signatureAlgorithm => other "SignatureAlgorithmMismatch"
    | criticalExtension => other "UnsupportedCriticalExtension"
    | repeatedExtension => other "ExtensionValueInvalid"

/-- **Who may vouch** for drives: a name, a public key, and perhaps the names that it may vouch
for. -/
structure TrustAnchor where
  subject : Bytes
  publicKey : Bytes
  nameConstraints : Option Bytes := none
  deriving DecidableEq, Repr

namespace Certificate

/-- What is **read off the front** of some bytes, of which the rest is left for what comes next. -/
abbrev Reader : Type → Type := StateT Bytes (Except CertificateFault)

/-- **An element** of the given tag. -/
def element (tag : UInt8) : Reader Bytes := fun input =>
  match Der.expect? tag input with
  | some read => .ok read
  | none => .error .encoding

/-- **Read to the end**; something left over is the given fault. -/
def entire {α : Type} (fault : CertificateFault) (read : Reader α) (input : Bytes) :
    Except CertificateFault α :=
  match read.run input with
  | .error e => .error e
  | .ok (value, []) => .ok value
  | .ok (_, _ :: _) => .error fault

/-- **What is inside an element**, which must be read to its end. A missing element is the given
fault, and so is something left over. -/
def inside {α : Type} (tag : UInt8) (fault : CertificateFault) (read : Reader α) : Reader α :=
  fun input =>
    match Der.expect? tag input with
    | none => .error fault
    | some (contents, rest) => (entire fault read contents).map (·, rest)

/-- All that is left. -/
def remainder : Reader Bytes := fun input => .ok (input, [])

/-! ## Extensions -/

/-- An **extension**: its name, whether it must be understood, and its value. -/
structure Extension where
  name : Bytes
  critical : Bool
  value : Bytes
  deriving DecidableEq, Repr

/-- The byte of a truth value. -/
def truth : Reader Bool := fun
  | 0xFF :: rest => .ok (true, rest)
  | 0x00 :: rest => .ok (false, rest)
  | _ => .error .encoding

/-- A truth value, which is no if it is not there. -/
def flag : Reader Bool := fun input =>
  if input.head? = some Der.boolean then inside Der.boolean .encoding truth input
  else .ok (false, input)

/-- An extension. -/
def extension : Reader Extension := do
  let name ← element Der.objectIdentifier
  let critical ← flag
  let value ← element Der.octetString
  return ⟨name, critical, value⟩

/-- The name of an extension that is registered under a number. -/
def registered (n : UInt8) : Bytes := [0x55, 0x1D, n]

/-- The use of the key. -/
def keyUsage : Bytes := registered 15

/-- The names that others may be vouched for under. -/
def nameConstraints : Bytes := registered 30

/-- The names of the **extensions that are understood**: the use of the key, further names, the
place in a chain of certificates, the constraints on names, where lists of revoked certificates are,
and further uses. -/
def known : List Bytes :=
  [keyUsage, registered 17, registered 19, nameConstraints, registered 31, registered 37]

/-- The value of a known extension: whatever it is for the use of the key, a row of elements for
the others. -/
def knownValue (extension : Extension) : Except CertificateFault Bytes :=
  if extension.name = keyUsage then .ok extension.value
  else entire .encoding (element Der.sequence) extension.value

/-- **Take note of an extension.** -/
def note (seen : List (Bytes × Bytes)) (extension : Extension) :
    Except CertificateFault (List (Bytes × Bytes)) :=
  if extension.name ∈ known then
    if (seen.lookup extension.name).isSome then .error .repeatedExtension
    else (knownValue extension).map fun value => (extension.name, value) :: seen
  else if extension.critical then .error .criticalExtension
  else .ok seen

/-- **Extensions in a row**, each noted before the next is read. -/
def extensionRow (seen : List (Bytes × Bytes)) (input : Bytes) :
    Except CertificateFault (List (Bytes × Bytes)) :=
  if input.isEmpty then .ok seen
  else
    match _read : Der.expect? Der.sequence input with
    | none => .error .encoding
    | some (contents, rest) =>
      match entire .encoding (extension >>= fun e => note seen e) contents with
      | .error e => .error e
      | .ok seen => extensionRow seen rest
termination_by input.length
decreasing_by exact Der.length_lt_of_expect? _read

/-- The extensions at the end of a certificate, if it has any. -/
def extensionsAtEnd : Reader (List (Bytes × Bytes)) := fun input =>
  if input.isEmpty then .ok ([], [])
  else
    inside (Der.contextual 3) .encoding
      (inside Der.sequence .encoding (remainder >>= fun row => extensionRow [] row)) input

/-! ## Certificates -/

/-- A whole number that is one byte and not negative. -/
def smallNumber : Reader UInt8 := do
  match ← element Der.integer with
  | [n] => if n < 0x80 then return n else throw .encoding
  | [0x00, n] => if 0x80 ≤ n then return n else throw .encoding
  | _ => throw .encoding

/-- The mark of the **third version**, which is the number two. -/
def thirdVersion : Reader Unit :=
  inside (Der.contextual 0) .version do
    if (← smallNumber) = 2 then return () else throw .version

/-- A string of whole bytes. -/
def wholeBytes : Reader Bytes :=
  inside Der.bitString .encoding do
    match ← remainder with
    | 0x00 :: bytes => return bytes
    | _ => throw .encoding

/-- The **signed part** of a certificate of the third version, given how it is signed. -/
def signedPart (algorithm : Bytes) : Reader TrustAnchor := do
  thirdVersion
  let _serial ← element Der.integer
  let signature ← element Der.sequence
  if signature ≠ algorithm then throw .signatureAlgorithm
  let _issuer ← element Der.sequence
  let _validity ← element Der.sequence
  let subject ← element Der.sequence
  let publicKey ← element Der.sequence
  let extensions ← extensionsAtEnd
  return { subject, publicKey, nameConstraints := extensions.lookup nameConstraints }

/-- The **frame** of a certificate: its signed part, and how it is signed. -/
def frame : Reader (Bytes × Bytes) :=
  inside Der.sequence .encoding do
    let part ← element Der.sequence
    let algorithm ← element Der.sequence
    let _signature ← wholeBytes
    return (part, algorithm)

/-- A certificate of the **third version**. Its frame is read before anything in it. -/
def third (certificate : Bytes) : Except CertificateFault TrustAnchor := do
  let (part, algorithm) ← entire .encoding frame certificate
  entire .encoding (signedPart algorithm) part

/-- The signed part of a certificate of the **first version**, which has no mark of its version and
no extensions. -/
def firstPart : Reader TrustAnchor := do
  let _serial ← element Der.integer
  let _signature ← element Der.sequence
  let _issuer ← element Der.sequence
  let _validity ← element Der.sequence
  let subject ← element Der.sequence
  let publicKey ← element Der.sequence
  return { subject, publicKey }

/-- A certificate of the **first version**. -/
def first (certificate : Bytes) : Except CertificateFault TrustAnchor :=
  entire .encoding (inside Der.sequence .encoding do
    let anchor ← inside Der.sequence .encoding firstPart
    let _algorithm ← element Der.sequence
    let _signature ← element Der.bitString
    return anchor) certificate

end Certificate

/-- **Whom a certificate makes trusted.** What is not of the third version may be of the first. -/
def TrustAnchor.ofCertificate (certificate : Bytes) : Except CertificateFault TrustAnchor :=
  match Certificate.third certificate with
  | .error .version =>
    match Certificate.first certificate with
    | .ok anchor => .ok anchor
    | .error _ => .error .encoding
  | result => result

end DriveLink
