import DriveLink.Digest.Sha1

/-! # HMAC-SHA1

The keyed digest of RFC 2104 over SHA-1: the message is hashed together with the key twice, each
time with the key masked differently.

* `hmacSha1` — the keyed digest, always 20 bytes (`length_hmacSha1`). -/

namespace DriveLink

namespace Hmac

/-- The key as exactly one block: a longer key is hashed first, a shorter one filled with zeros. -/
def blockKey (key : Bytes) : Bytes :=
  let short := if key.length > 64 then sha1 key else key
  short ++ List.replicate (64 - short.length) 0

/-- A block with every byte combined with the same mask. -/
def masked (mask : UInt8) (block : Bytes) : Bytes := block.map (· ^^^ mask)

end Hmac

/-- The **HMAC-SHA1 digest** of a message under a key of any length. -/
def hmacSha1 (key message : Bytes) : Bytes :=
  let block := Hmac.blockKey key
  sha1 (Hmac.masked 0x5C block ++ sha1 (Hmac.masked 0x36 block ++ message))

/-- An HMAC-SHA1 digest has 20 bytes. -/
@[simp] theorem length_hmacSha1 (key message : Bytes) : (hmacSha1 key message).length = 20 := by
  simp [hmacSha1]

end DriveLink
