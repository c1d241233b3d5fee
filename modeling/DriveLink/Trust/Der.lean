import DriveLink.Bytes

/-! # Tagged elements

A certificate is made of elements: a tag, the length of the contents, and the contents. There is one
way to write a length, and an element may have less than 65535 bytes of contents.

* `Der.length?` — reads a length;
* `Der.element?` — reads an element of any tag;
* `Der.expect?` — reads an element of a given tag. -/

namespace DriveLink.Der

/-- The tag of a truth value. -/
def boolean : UInt8 := 0x01

/-- The tag of a whole number. -/
def integer : UInt8 := 0x02

/-- The tag of a string of bits. -/
def bitString : UInt8 := 0x03

/-- The tag of a string of bytes. -/
def octetString : UInt8 := 0x04

/-- The tag of a name in the tree of registered names. -/
def objectIdentifier : UInt8 := 0x06

/-- The tag of elements in a row. -/
def sequence : UInt8 := 0x30

/-- The tag of an element that its place within another gives a meaning. -/
def contextual (n : UInt8) : UInt8 := 0xA0 + n

/-- The most bytes that an element has, and one more. -/
def sizeLimit : Nat := 0xFFFF

/-- The least length that is written in so many bytes of its own. -/
def leastLength (width : Nat) : Nat := if width = 1 then 0x80 else Nat.pow 256 (width - 1)

/-- **Read a length.** Below 128 it is one byte; otherwise that byte says how many follow, at most
four and no more than needed. -/
def length? : Bytes → Option (Nat × Bytes)
  | [] => none
  | first :: rest =>
    if first < 0x80 then some (first.toNat, rest)
    else
      let width := first.toNat - 0x80
      let length := Bytes.toNatBE (rest.take width)
      if width = 0 ∨ 4 < width ∨ rest.length < width ∨ length < leastLength width then none
      else some (length, rest.drop width)

/-- An **element** without its length. -/
structure Element where
  tag : UInt8
  contents : Bytes
  deriving DecidableEq, Repr

/-- **Read an element**, whose tag must be a single byte. -/
def element? : Bytes → Option (Element × Bytes)
  | [] => none
  | tag :: rest =>
    if tag &&& 0x1F = 0x1F then none
    else
      match length? rest with
      | none => none
      | some (length, rest) =>
        if sizeLimit ≤ length ∨ rest.length < length then none
        else some (⟨tag, rest.take length⟩, rest.drop length)

/-- **Read an element** of the given tag. -/
def expect? (tag : UInt8) (input : Bytes) : Option (Bytes × Bytes) :=
  match element? input with
  | some (element, rest) => if element.tag = tag then some (element.contents, rest) else none
  | none => none

/-- What follows a length is shorter than what it was read from. -/
theorem length_lt_of_length? {input rest : Bytes} {n : Nat} (h : length? input = some (n, rest)) :
    rest.length < input.length := by
  cases input with
  | nil => simp [length?] at h
  | cons first tail =>
    simp only [length?] at h
    split at h
    · simp only [Option.some.injEq, Prod.mk.injEq] at h
      simp [h.2]
    · split at h
      · simp at h
      · simp only [Option.some.injEq, Prod.mk.injEq] at h
        simp only [← h.2, List.length_drop, List.length_cons]
        omega

/-- What follows an element is shorter than what it was read from. -/
theorem length_lt_of_element? {input rest : Bytes} {element : Element}
    (h : element? input = some (element, rest)) : rest.length < input.length := by
  cases input with
  | nil => simp [element?] at h
  | cons tag tail =>
    simp only [element?] at h
    split at h
    · simp at h
    · split at h
      · simp at h
      · rename_i n after read
        split at h
        · simp at h
        · simp only [Option.some.injEq, Prod.mk.injEq] at h
          have := length_lt_of_length? read
          simp only [← h.2, List.length_drop, List.length_cons]
          omega

/-- What follows an element is shorter than what it was read from. -/
theorem length_lt_of_expect? {tag : UInt8} {input contents rest : Bytes}
    (h : expect? tag input = some (contents, rest)) : rest.length < input.length := by
  unfold expect? at h
  split at h
  · rename_i read
    split at h
    · simp only [Option.some.injEq, Prod.mk.injEq] at h
      rw [← h.2]
      exact length_lt_of_element? read
    · simp at h
  · simp at h

end DriveLink.Der
