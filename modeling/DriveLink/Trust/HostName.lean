/-! # Names that a certificate can be for

With TLS a drive has to prove its name, so the name must be one that a certificate can carry: a
domain name or an address. Anything else is refused before the network is asked.

* `HostName.isDomainName` — labels of letters, digits, underscores and inner hyphens;
* `HostName.isIPv4`, `HostName.isIPv6` — addresses in their usual notations;
* `HostName.isCertifiable` — one of them. -/

namespace DriveLink.HostName

/-! ## Domain names -/

/-- A character of a label. -/
def isLabelChar (c : Char) : Bool := c.isAlphanum || c = '_' || c = '-'

/-- **A label**: one to 63 characters, with no hyphen at either end. -/
def isLabel (label : String) : Bool :=
  let chars := label.toList
  chars.all isLabelChar && !chars.isEmpty && chars.length ≤ 63 &&
    chars.head? != some '-' && chars.getLast? != some '-'

/-- The labels of a name, without the empty one behind a dot at its end. -/
def labels (name : String) : List String :=
  let parts := name.splitOn "."
  if parts.getLast? = some "" then parts.dropLast else parts

/-- **A domain name** has at most 253 bytes, and its last label is not a number, which keeps it
apart from addresses. -/
def isDomainName (name : String) : Bool :=
  name.utf8ByteSize ≤ 253 && (labels name).all isLabel &&
    (labels name).getLast?.any fun last => !last.toList.all Char.isDigit

/-! ## Addresses -/

/-- A number below 256 in at most three decimal digits, with no zero before others. -/
def isOctet (text : String) : Bool :=
  let digits := text.toList
  !digits.isEmpty && digits.length ≤ 3 && digits.all Char.isDigit &&
    (digits.length = 1 || digits.head? != some '0') &&
    Nat.ofDigitChars 10 digits 0 < 256

/-- **An address of four octets**, with dots between them. -/
def isIPv4 (text : String) : Bool :=
  let parts := text.splitOn "."
  parts.length = 4 && parts.all isOctet

/-- A hexadecimal digit of either case. -/
def isHexDigit (c : Char) : Bool :=
  c.isDigit || ('a' ≤ c && c ≤ 'f') || ('A' ≤ c && c ≤ 'F')

/-- Sixteen bits of an address: one to four hexadecimal digits. -/
def isGroup (text : String) : Bool :=
  let digits := text.toList
  !digits.isEmpty && digits.length ≤ 4 && digits.all isHexDigit

/-- How many groups there are in some parts of an address, of which the last one may be written as
four octets and then counts twice; none if a part is neither. -/
def groupCount (octetsAtEnd : Bool) : List String → Option Nat
  | [] => some 0
  | [last] =>
    if isGroup last then some 1 else if octetsAtEnd && isIPv4 last then some 2 else none
  | part :: rest => if isGroup part then (groupCount octetsAtEnd rest).map (· + 1) else none

/-- The parts between the colons, none in an empty text. -/
def parts (text : String) : List String := if text.isEmpty then [] else text.splitOn ":"

/-- **An address of eight groups** with colons between them. Two colons in a row stand, once, for
any number of groups but none. -/
def isIPv6 (text : String) : Bool :=
  match text.splitOn "::" with
  | [whole] => groupCount true (parts whole) = some 8
  | [front, back] =>
    match groupCount false (parts front), groupCount true (parts back) with
    | some m, some n => m + n ≤ 7
    | _, _ => false
  | _ => false

/-- **A name that a certificate can be for.** -/
def isCertifiable (name : String) : Bool := isDomainName name || isIPv4 name || isIPv6 name

end DriveLink.HostName
