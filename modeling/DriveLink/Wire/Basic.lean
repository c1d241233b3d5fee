import DriveLink.Wire.Error

/-! # Serialized values

A type that travels has one written form (`Wire.encode`) and one reader (`Wire.decode`), which takes
a value off the front of a byte string and returns the bytes after it. The form is self-delimiting:
numbers have a fixed width and their lowest byte first, optional values a tag byte, sequences and
texts a count of eight bytes, alternatives a number of four bytes. So the forms of composite types
are put together from those of their parts.

* `Wire` — a type with its serialized form;
* `Wire.word`, `Wire.bool`, `Wire.text`, `Wire.choice` — forms of single values;
* `Wire.pair`, `Wire.option`, `Wire.list`, `Wire.via` — forms put together from others. -/

namespace DriveLink

/-- A type with a **serialized form**. -/
class Wire (α : Type) where
  /-- The bytes of a value. -/
  encode : α → Bytes
  /-- Read one value from the front of the bytes, and return the bytes after it. -/
  decode : Bytes → Except DecodeError (α × Bytes)

namespace Wire

variable {α β : Type}

/-- Read one value and **ignore what follows it**. -/
def decodeFront [Wire α] (bytes : Bytes) : Except DecodeError α :=
  match decode bytes with
  | .ok (value, _) => .ok value
  | .error e => .error e

/-! ## Numbers -/

/-- The first `width` bytes, and those after them. -/
def splitFront (width : Nat) (bytes : Bytes) : Except DecodeError (Bytes × Bytes) :=
  let front := bytes.take width
  if front.length = width then .ok (front, bytes.drop width) else .error .inputEnded

instance byte : Wire UInt8 where
  encode b := [b]
  decode
    | [] => .error .inputEnded
    | b :: rest => .ok (b, rest)

/-- A **word** of fixed width, lowest byte first. -/
@[reducible] def word (width : Nat) (toNat : α → Nat) (ofNat : Nat → α) : Wire α where
  encode value := Bytes.ofNatLE width (toNat value)
  decode bytes :=
    match splitFront width bytes with
    | .ok (front, rest) => .ok (ofNat (Bytes.toNatLE front), rest)
    | .error e => .error e

instance word32 : Wire UInt32 := word 4 UInt32.toNat UInt32.ofNat

instance word64 : Wire UInt64 := word 8 UInt64.toNat UInt64.ofNat

/-! ## Putting forms together -/

/-- Two values, one after the other. -/
instance pair [Wire α] [Wire β] : Wire (α × β) where
  encode value := encode value.1 ++ encode value.2
  decode bytes :=
    match decode bytes with
    | .error e => .error e
    | .ok (first, rest) =>
      match decode rest with
      | .error e => .error e
      | .ok (second, rest) => .ok ((first, second), rest)

/-- **The form of another type**: written as what `unpack` makes of a value, and read back through
`pack`. -/
@[reducible] def via [Wire α] (pack : α → β) (unpack : β → α) : Wire β where
  encode value := encode (unpack value)
  decode bytes :=
    match decode bytes with
    | .error e => .error e
    | .ok (value, rest) => .ok (pack value, rest)

/-- A **signed word** is written as the unsigned word with the same bits. -/
instance signed64 : Wire Int64 := via UInt64.toInt64 Int64.toUInt64

/-- A **truth value** is one byte, 0 or 1. -/
instance bool : Wire Bool where
  encode b := [if b then 1 else 0]
  decode
    | [] => .error .inputEnded
    | b :: rest =>
      if b = 0 then .ok (false, rest)
      else if b = 1 then .ok (true, rest)
      else .error (.badBool b)

/-- An **optional value** is a tag byte, and the value if the tag is 1. -/
instance option [Wire α] : Wire (Option α) where
  encode
    | none => [0]
    | some value => 1 :: encode value
  decode
    | [] => .error .inputEnded
    | tag :: rest =>
      if tag = 0 then .ok (none, rest)
      else if tag = 1 then
        match decode rest with
        | .error e => .error e
        | .ok (value, rest) => .ok (some value, rest)
      else .error (.badOptionTag tag)

/-! ## Sequences and texts -/

/-- The length of a sequence, as the word in front of it. -/
def encodeCount (n : Nat) : Bytes := encode (UInt64.ofNat n)

/-- Read `n` values and put them behind those read before, which are kept last first. -/
def decodeInto [Wire α] : (n : Nat) → (reversed : List α) → Bytes →
    Except DecodeError (List α × Bytes)
  | 0, reversed, bytes => .ok (reversed.reverse, bytes)
  | n + 1, reversed, bytes =>
    match decode bytes with
    | .error e => .error e
    | .ok (value, rest) => decodeInto n (value :: reversed) rest

@[simp] theorem decodeInto_zero [Wire α] (reversed : List α) (bytes : Bytes) :
    decodeInto 0 reversed bytes = .ok (reversed.reverse, bytes) := rfl

theorem decodeInto_succ [Wire α] (n : Nat) (reversed : List α) (bytes : Bytes) :
    decodeInto (n + 1) reversed bytes =
      match decode (α := α) bytes with
      | .error e => .error e
      | .ok (value, rest) => decodeInto n (value :: reversed) rest := rfl

/-- A **sequence** is its length and its elements, one after the other. A byte string is the
sequence of its bytes. -/
instance list [Wire α] : Wire (List α) where
  encode values := encodeCount values.length ++ values.flatMap encode
  decode bytes :=
    match decode (α := UInt64) bytes with
    | .error e => .error e
    | .ok (count, rest) => decodeInto count.toNat [] rest

/-- A **text** is the length of its UTF-8 form and that form. -/
instance text : Wire String where
  encode s := encodeCount s.toByteArray.size ++ s.toByteArray.data.toList
  decode bytes :=
    match decode (α := UInt64) bytes with
    | .error e => .error e
    | .ok (count, rest) =>
      match splitFront count.toNat rest with
      | .error _ => .error .textCutShort
      | .ok (front, rest) =>
        match String.fromUTF8? ⟨front.toArray⟩ with
        | some s => .ok (s, rest)
        | none => .error (.badText (Utf8.faultOf front))

/-! ## Alternatives -/

/-- One of finitely many **names**, written as its place in the list of them all. -/
@[reducible] def choice [DecidableEq α] (all : List α) : Wire α where
  encode value := encode (UInt32.ofNat (all.idxOf value))
  decode bytes :=
    match decode (α := UInt32) bytes with
    | .error e => .error e
    | .ok (index, rest) =>
      match all[index.toNat]? with
      | some value => .ok (value, rest)
      | none => .error (.badVariant index all.length)

end Wire

end DriveLink
