import DriveLink.Bytes

/-! # SHA-1

The hash function of FIPS 180-4 with 160 bits: the message is padded to whole blocks of 64 bytes,
and each block is folded into a state of five words.

* `Sha1.State` — the five words;
* `Sha1.pad` — the message as whole blocks;
* `Sha1.compress` — folds one block in;
* `sha1` — the digest, always 20 bytes (`length_sha1`). -/

namespace DriveLink

namespace Sha1

/-- The **five words** that a hash computation carries from block to block. -/
structure State where
  a : UInt32
  b : UInt32
  c : UInt32
  d : UInt32
  e : UInt32
  deriving DecidableEq, Repr

/-- The state before the first block. -/
def State.initial : State := ⟨0x67452301, 0xEFCDAB89, 0x98BADCFE, 0x10325476, 0xC3D2E1F0⟩

/-- The digest that a state stands for. -/
def State.toBytes (s : State) : Bytes :=
  Bytes.ofNatBE 4 s.a.toNat ++ Bytes.ofNatBE 4 s.b.toNat ++ Bytes.ofNatBE 4 s.c.toNat ++
    Bytes.ofNatBE 4 s.d.toNat ++ Bytes.ofNatBE 4 s.e.toNat

/-- Turn the bits of a word `n` places to the left. -/
def rotate (w : UInt32) (n : UInt32) : UInt32 := (w <<< n) ||| (w >>> (32 - n))

/-- The message, a one bit, zeros, and its length in bits, as **whole blocks**. -/
def pad (message : Bytes) : Bytes :=
  let n := message.length
  message ++ 0x80 :: List.replicate ((119 - n % 64) % 64) 0 ++ Bytes.ofNatBE 8 (8 * n)

/-- The sixteen words of a block. -/
def blockWords (block : Bytes) : Array UInt32 :=
  Array.ofFn fun i : Fin 16 => UInt32.ofNat (Bytes.toNatBE ((block.drop (4 * i)).take 4))

/-- Stretch the words of a block by `n` more, each mixed from four before it. -/
def extend : (n : Nat) → Array UInt32 → Array UInt32
  | 0, words => words
  | n + 1, words =>
    let back (n : Nat) : UInt32 := words.getD (words.size - n) 0
    extend n (words.push (rotate (back 3 ^^^ back 8 ^^^ back 14 ^^^ back 16) 1))

/-- The choice function and the constant of round `t`. -/
def mix (t : Nat) (b c d : UInt32) : UInt32 × UInt32 :=
  if t < 20 then ((b &&& c) ||| ((~~~b) &&& d), 0x5A827999)
  else if t < 40 then (b ^^^ c ^^^ d, 0x6ED9EBA1)
  else if t < 60 then ((b &&& c) ||| (b &&& d) ||| (c &&& d), 0x8F1BBCDC)
  else (b ^^^ c ^^^ d, 0xCA62C1D6)

/-- One round, with the word that belongs to it. -/
def round (s : State) (t : Nat) (w : UInt32) : State :=
  let (f, k) := mix t s.b s.c s.d
  ⟨rotate s.a 5 + f + s.e + k + w, s.a, rotate s.b 30, s.c, s.d⟩

/-- Fold **one block** into the state. -/
def compress (s : State) (block : Bytes) : State :=
  let words := extend 64 (blockWords block)
  let r := (List.range 80).foldl (fun r t => round r t (words.getD t 0)) s
  ⟨s.a + r.a, s.b + r.b, s.c + r.c, s.d + r.d, s.e + r.e⟩

/-- Fold `n` blocks into the state. -/
def compressBlocks : (n : Nat) → State → Bytes → State
  | 0, s, _ => s
  | n + 1, s, bytes => compressBlocks n (compress s (bytes.take 64)) (bytes.drop 64)

end Sha1

/-- The **SHA-1 digest** of a message. -/
def sha1 (message : Bytes) : Bytes :=
  let blocks := Sha1.pad message
  (Sha1.compressBlocks (blocks.length / 64) .initial blocks).toBytes

/-- A SHA-1 digest has 20 bytes. -/
@[simp] theorem length_sha1 (message : Bytes) : (sha1 message).length = 20 := by
  simp [sha1, Sha1.State.toBytes]

end DriveLink
