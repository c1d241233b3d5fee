import DriveLink.Bytes

/-! # Bytes written in sixty-four characters

Three bytes are written as four characters of six bits each. A reader is lenient about white space,
which it skips, and about the padding at the end, which may be left out whole; and the bits of the
last character that belong to no byte are not looked at.

* `Base64.sextet?` — the six bits of a character;
* `Base64.decode` — the bytes of a text. -/

namespace DriveLink.Base64

/-- White space within the text. -/
def isBlank (b : UInt8) : Bool := b = 0x20 || (0x09 ≤ b && b ≤ 0x0D)

/-- The character that fills up the last four. -/
def padding : UInt8 := 0x3D

/-- **The six bits of a character**: letters, small letters, digits, plus and slash, in this
order. -/
def sextet? (b : UInt8) : Option Nat :=
  if 0x41 ≤ b && b ≤ 0x5A then some (b.toNat - 0x41)
  else if 0x61 ≤ b && b ≤ 0x7A then some (b.toNat - 0x61 + 26)
  else if 0x30 ≤ b && b ≤ 0x39 then some (b.toNat - 0x30 + 52)
  else if b = 0x2B then some 62
  else if b = 0x2F then some 63
  else none

/-- The bytes of some sextets. Two left over make one byte and three make two; one is none. -/
def assemble : List Nat → Option Bytes
  | [] => some []
  | [_] => none
  | [a, b] => some (Bytes.ofNatBE 1 ((64 * a + b) / 16))
  | [a, b, c] => some (Bytes.ofNatBE 2 ((64 * (64 * a + b) + c) / 4))
  | a :: b :: c :: d :: rest =>
    (assemble rest).map (Bytes.ofNatBE 3 (64 * (64 * (64 * a + b) + c) + d) ++ ·)

/-- **The bytes of a text**, unless it holds other characters or is padded to anything but a
multiple of four. -/
def decode (text : Bytes) : Option Bytes :=
  let symbols := text.filter (!isBlank ·)
  let digits := symbols.takeWhile (· != padding)
  let pad := symbols.dropWhile (· != padding)
  if pad.all (· = padding) && (pad.isEmpty || (pad.length ≤ 2 && symbols.length % 4 = 0)) then
    (digits.mapM sextet?).bind assemble
  else none

end DriveLink.Base64
