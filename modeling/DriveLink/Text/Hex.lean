import DriveLink.Bytes

/-! # Bytes as hexadecimal digits

* `Hex.write`, `Hex.read?` — two small digits for each byte, and back. -/

namespace DriveLink.Hex

/-- The two digits of a byte. -/
def digits (b : UInt8) : List Char :=
  [Nat.digitChar (b.toNat / 16), Nat.digitChar (b.toNat % 16)]

/-- The **digits** of some bytes. -/
def write (bytes : Bytes) : String := String.ofList (bytes.flatMap digits)

/-- The number that a digit stands for. -/
def digit? (c : Char) : Option Nat :=
  if '0' ≤ c ∧ c ≤ '9' then some (c.toNat - '0'.toNat)
  else if 'a' ≤ c ∧ c ≤ 'f' then some (c.toNat - 'a'.toNat + 10)
  else none

/-- The bytes of some digits, behind those that were read already. -/
def readInto (done : Array UInt8) : List Char → Option (Array UInt8)
  | [] => some done
  | [_] => none
  | high :: low :: rest =>
    match digit? high, digit? low with
    | some h, some l => readInto (done.push (UInt8.ofNat (16 * h + l))) rest
    | _, _ => none

/-- The **bytes** of some digits, if they are an even number of digits. -/
def read? (text : String) : Option Bytes := (readInto #[] text.toList).map Array.toList

end DriveLink.Hex
