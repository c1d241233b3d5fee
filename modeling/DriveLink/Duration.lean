/-! # Durations

* `Duration` — a length of time in whole nanoseconds;
* `Duration.text` — its wording: the largest unit that leaves a whole part, and no digit more than
  needed. -/

namespace DriveLink

/-- A **length of time**. -/
structure Duration where
  nanoseconds : Nat
  deriving DecidableEq, Repr

namespace Duration

/-- A length of whole seconds. -/
def seconds (n : Nat) : Duration := ⟨n * 1000000000⟩

/-- The whole milliseconds in a length of time. -/
def wholeMilliseconds (d : Duration) : Nat := d.nanoseconds / 1000000

/-- Whether no time passes. -/
def isZero (d : Duration) : Bool := d.nanoseconds = 0

/-- A quotient in decimal places, `part` of `10 ^ places`, without zeros at its end. -/
def fraction (places part : Nat) : String :=
  let digits := (Nat.toDigits 10 part)
  let filled := List.replicate (places - digits.length) '0' ++ digits
  let kept := (filled.reverse.dropWhile (· = '0')).reverse
  if kept.isEmpty then "" else "." ++ String.ofList kept

/-- The **wording** of a length of time. -/
def text (d : Duration) : String :=
  let n := d.nanoseconds
  if n ≥ 1000000000 then toString (n / 1000000000) ++ fraction 9 (n % 1000000000) ++ "s"
  else if n ≥ 1000000 then toString (n / 1000000) ++ fraction 6 (n % 1000000) ++ "ms"
  else if n ≥ 1000 then toString (n / 1000) ++ fraction 3 (n % 1000) ++ "µs"
  else toString n ++ "ns"

end Duration

end DriveLink
