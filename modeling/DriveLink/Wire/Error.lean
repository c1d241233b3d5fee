import DriveLink.Text.Utf8

/-! # What can be wrong with serialized bytes

* `DecodeError` — the causes for which reading a serialized value fails;
* `DecodeError.endOfInput` — which of them only say that the bytes ended too early;
* `DecodeError.message` — their wording. -/

namespace DriveLink

/-- **Why serialized bytes could not be read.** A reader reports the first fault in field order. -/
inductive DecodeError
  /-- The bytes ended inside a number, a tag or an element of a sequence. -/
  | inputEnded
  /-- The bytes ended inside the characters of a text. -/
  | textCutShort
  /-- A truth value is written as neither 0 nor 1. -/
  | badBool (found : UInt8)
  /-- The tag of an optional value is neither 0 nor 1. -/
  | badOptionTag (found : UInt8)
  /-- An alternative is numbered beyond the `count` there are. -/
  | badVariant (found : UInt32) (count : Nat)
  /-- A text is no UTF-8. -/
  | badText (fault : Utf8.Fault)
  deriving DecidableEq, Repr

namespace DecodeError

/-- Whether the cause is only that the bytes **ended too early**, so that more of them might do. -/
def endOfInput : DecodeError → Bool
  | inputEnded | textCutShort => true
  | _ => false

/-- The wording of a decoding error. -/
def message : DecodeError → String
  | inputEnded => "io error: unexpected end of file"
  | textCutShort => "io error: "
  | badBool found => s!"invalid u8 while decoding bool, expected 0 or 1, found {found}"
  | badOptionTag found => s!"tag for enum is not valid, found {found}"
  | badVariant found count =>
    s!"invalid value: integer \x60{found}\x60, expected variant index 0 <= i < {count}"
  | badText fault => "string is not valid utf8: " ++ fault.message

end DecodeError

end DriveLink
