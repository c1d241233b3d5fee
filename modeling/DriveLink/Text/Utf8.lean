import DriveLink.Bytes

/-! # Where a byte string stops being UTF-8

A text is read from bytes by the core function `String.fromUTF8?`. When it refuses, a reader wants
to know why: `Utf8.faultOf` names the first byte of the first sequence that is not a character, and
how many bytes of it were wrong — none if the string merely ended inside a character.

* `Utf8.Fault` — the place and kind of the first bad sequence;
* `Utf8.faultOf` — finds it;
* `Utf8.Fault.message` — its wording. -/

namespace DriveLink.Utf8

/-- The **first bad sequence** of a byte string that is no UTF-8. -/
structure Fault where
  /-- How many bytes before it form whole characters. -/
  index : Nat
  /-- How many bytes of the sequence are wrong, `none` if the string ends inside a character. -/
  length : Option Nat
  deriving DecidableEq, Repr

/-- The wording of a fault. -/
def Fault.message (fault : Fault) : String :=
  match fault.length with
  | some n => s!"invalid utf-8 sequence of {n} bytes from index {fault.index}"
  | none => s!"incomplete utf-8 byte sequence from index {fault.index}"

/-- The bytes that continue a character after its second byte. -/
def isContinuation (b : UInt8) : Bool := 0x80 ≤ b && b ≤ 0xBF

/-- **The second byte after a lead byte** of three or four bytes: it must lie in a narrower range
where the full one would write a surrogate, a number above the last character, or a character that
a shorter sequence writes. -/
def secondOk (lead second : UInt8) : Bool :=
  if lead = 0xE0 then 0xA0 ≤ second && second ≤ 0xBF
  else if lead = 0xED then 0x80 ≤ second && second ≤ 0x9F
  else if lead = 0xF0 then 0x90 ≤ second && second ≤ 0xBF
  else if lead = 0xF4 then 0x80 ≤ second && second ≤ 0x8F
  else isContinuation second

/-- How many bytes the sequence of a lead byte has, `0` if no character starts with it. -/
def sequenceLength (lead : UInt8) : Nat :=
  if lead < 0x80 then 1
  else if 0xC2 ≤ lead && lead ≤ 0xDF then 2
  else if 0xE0 ≤ lead && lead ≤ 0xEF then 3
  else if 0xF0 ≤ lead && lead ≤ 0xF4 then 4
  else 0

/-- How many bytes of a sequence are wrong: what stands before the first byte that does not fit.
`none` stands for a string that ends first, `some none` for a whole character. -/
def sequenceFault (lead : UInt8) : Bytes → Option (Option Nat)
  | [] => if sequenceLength lead = 1 then some none
      else if sequenceLength lead = 0 then some (some 1) else none
  | second :: more =>
    match sequenceLength lead with
    | 1 => some none
    | 2 => if isContinuation second then some none else some (some 1)
    | 3 =>
      if secondOk lead second then
        match more with
        | [] => none
        | third :: _ => if isContinuation third then some none else some (some 2)
      else some (some 1)
    | 4 =>
      if secondOk lead second then
        match more with
        | [] => none
        | third :: rest =>
          if isContinuation third then
            match rest with
            | [] => none
            | fourth :: _ => if isContinuation fourth then some none else some (some 3)
          else some (some 2)
      else some (some 1)
    | _ => some (some 1)

/-- Scan from `index`, with `skip` bytes left of a character that was seen to be whole. A string of
whole characters has its fault at its end. -/
def faultFrom (index skip : Nat) : Bytes → Fault
  | [] => ⟨index, none⟩
  | b :: rest =>
    match skip with
    | skip + 1 => faultFrom (index + 1) skip rest
    | 0 =>
      match sequenceFault b rest with
      | none => ⟨index, none⟩
      | some (some n) => ⟨index, some n⟩
      | some none => faultFrom (index + 1) (sequenceLength b - 1) rest

/-- The **first fault** of a byte string that is no UTF-8. -/
def faultOf (bytes : Bytes) : Fault := faultFrom 0 0 bytes

end DriveLink.Utf8
