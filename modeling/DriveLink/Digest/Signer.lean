import DriveLink.Digest.Hmac
import DriveLink.Protocol.Envelope

/-! # Signatures

Every signed envelope carries a keyed digest of its command bytes. What is digested is the length of
the command, four bytes with the highest first, and then the command.

* `Signer` — a way to make digests;
* `Signer.hmacSha1` — the one that drives use;
* `digestsAgree` — compares two digests byte by byte;
* `Signer.verifies` — whether an envelope carries the digest that its command should have. -/

namespace DriveLink

/-- A **way to make digests**: of command bytes, under a key. -/
structure Signer where
  sign : (command key : Bytes) → Bytes

/-- The signer of drives: **HMAC-SHA1** over the command's length and the command. -/
def Signer.hmacSha1 : Signer where
  sign command key := DriveLink.hmacSha1 key (Bytes.ofNatBE 4 command.length ++ command)

/-- A signer that gives every command the same digest. -/
def Signer.constant (digest : Bytes) : Signer where
  sign _ _ := digest

/-- Whether two **digests agree**: neither is empty, they are equally long, and no byte differs.
Every byte is looked at, wherever the first difference is. -/
def digestsAgree (expected received : Bytes) : Bool :=
  if expected.isEmpty || expected.length != received.length then false
  else
    (expected.zip received).foldl (fun (difference : UInt8) (x, y) => difference ||| (x ^^^ y)) 0
      == 0

/-- Whether an envelope **carries the digest** of its command under the key. One without a digest
never does. -/
def Signer.verifies (signer : Signer) (key : Bytes) (envelope : Envelope) : Bool :=
  match envelope.digest? with
  | none => false
  | some received => digestsAgree (signer.sign envelope.command key) received

end DriveLink
