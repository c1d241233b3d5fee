/-! # Numbers on a command line

* `integer?` — a whole number in decimal digits, perhaps with a sign;
* `isBetween` — whether a text is a number between two others. -/

namespace DriveLink.CommandLine

/-- A number without a sign. -/
def natural? (digits : List Char) : Option Nat :=
  if digits.isEmpty || !digits.all Char.isDigit then none else some (Nat.ofDigitChars 10 digits 0)

/-- **A whole number**: at least one decimal digit, perhaps behind a sign. -/
def integer? (text : String) : Option Int :=
  match text.toList with
  | '-' :: digits => (natural? digits).map fun n => -(n : Int)
  | '+' :: digits => (natural? digits).map fun n => (n : Int)
  | digits => (natural? digits).map fun n => (n : Int)

/-- Whether a text is a whole number **between two others**, which are included. -/
def isBetween (low high : Int) (text : String) : Bool :=
  match integer? text with
  | some n => low ≤ n && n ≤ high
  | none => false

/-- The number that a text is, or another one. -/
def integerD (text : Option String) (default : Int) : Int := (text.bind integer?).getD default

end DriveLink.CommandLine
