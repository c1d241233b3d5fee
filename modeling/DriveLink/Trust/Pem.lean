import DriveLink.Trust.Base64

/-! # Certificates in a text file

A text file carries certificates as sections between a line that begins them and one that ends them,
with the bytes in base 64 in between. Other lines, and sections of another kind, are passed over. So
is a section that is spoilt: what follows it is read as if it had not been there.

* `Pem.lines` — a text as its lines;
* `Pem.certificates` — the bytes of every certificate in a text. -/

namespace DriveLink.Pem

/-- The bytes of an ASCII text. -/
def ascii (text : String) : Bytes := text.toByteArray.data.toList

/-- What a section begins with, before its kind. -/
def beginMark : Bytes := ascii "-----BEGIN "

/-- What a section ends with, before its kind. -/
def endMark : Bytes := ascii "-----END "

/-- The dashes behind the kind of a section. -/
def dashes : Bytes := ascii "-----"

/-- The kind of the sections that matter. -/
def certificateKind : Bytes := ascii "CERTIFICATE"

/-- Whether a byte ends a line. -/
def endsLine (b : UInt8) : Bool := b = 0x0A || b = 0x0D

/-- **The lines of a text**, each with the line feed or carriage return that ends it. -/
def lines (text : Bytes) : List Bytes :=
  let add (b : UInt8) (later : List Bytes) : List Bytes :=
    if endsLine b then [b] :: later
    else
      match later with
      | [] => [[b]]
      | line :: later => (b :: line) :: later
  text.foldr add []

/-- A byte of the end of a line that begins a section: a dash, or what may stand between and behind
the dashes. -/
def trails (b : UInt8) : Bool := b = 0x2D || b = 0x20 || endsLine b

/-- The **kind of the section** that a line begins, if it begins one: what stands before the five
dashes at its end. -/
def kind? (line : Bytes) : Option Bytes :=
  let text := line.drop beginMark.length
  let trailer := (line.reverse.takeWhile trails)
  let fromFirstDash := (trailer.reverse.dropWhile (· != 0x2D))
  if trailer.count 0x2D = 5 then some (text.take (text.length - fromFirstDash.length)) else none

/-- A section that has begun: its kind, if one has begun at all, and its lines so far. -/
structure Section where
  kind : Option Bytes := none
  content : Bytes := []

/-- The certificates in some lines, when a section may have begun. -/
def readLines : (current : Section) → List Bytes → List Bytes
  | _, [] => []
  | current, line :: rest =>
    if beginMark.isPrefixOf line then
      match kind? line with
      | none => readLines {} rest
      | some kind => readLines { current with kind := some kind } rest
    else
      match current.kind with
      | none => readLines current rest
      | some kind =>
        if (endMark ++ kind ++ dashes).isPrefixOf line then
          let found := if kind = certificateKind then (Base64.decode current.content).toList else []
          found ++ readLines {} rest
        else readLines { current with content := current.content ++ line } rest

/-- **The bytes of every certificate** in a text. -/
def certificates (text : Bytes) : List Bytes := readLines {} (lines text)

end DriveLink.Pem
