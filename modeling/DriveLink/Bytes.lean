/-! # Byte strings and the numbers written in them

Everything that crosses a channel is a byte string, a plain list of bytes. A number of fixed width
is written either with its lowest byte first (`Bytes.ofNatLE`, the fields of a command) or with its
highest byte first (`Bytes.ofNatBE`, the lengths of a frame and the words of a digest); `toNatLE`
and `toNatBE` read it back.

* `Bytes` — a byte string;
* `Bytes.ofNatLE`, `Bytes.toNatLE` — base-256 digits, lowest first;
* `Bytes.ofNatBE`, `Bytes.toNatBE` — base-256 digits, highest first. -/

namespace DriveLink

/-- A **byte string**. -/
abbrev Bytes : Type := List UInt8

namespace Bytes

/-- The `width` lowest base-256 digits of `n`, lowest first. -/
def ofNatLE : (width : Nat) → (n : Nat) → Bytes
  | 0, _ => []
  | width + 1, n => UInt8.ofNat n :: ofNatLE width (n / 256)

@[simp] theorem ofNatLE_zero (n : Nat) : ofNatLE 0 n = [] := rfl

@[simp] theorem ofNatLE_succ (width n : Nat) :
    ofNatLE (width + 1) n = UInt8.ofNat n :: ofNatLE width (n / 256) := rfl

/-- The number whose base-256 digits are the given bytes, lowest first. -/
def toNatLE : Bytes → Nat
  | [] => 0
  | b :: rest => b.toNat + 256 * toNatLE rest

@[simp] theorem toNatLE_nil : toNatLE [] = 0 := rfl

@[simp] theorem toNatLE_cons (b : UInt8) (rest : Bytes) :
    toNatLE (b :: rest) = b.toNat + 256 * toNatLE rest := rfl

/-- The `width` lowest base-256 digits of `n`, highest first. -/
def ofNatBE (width n : Nat) : Bytes := (ofNatLE width n).reverse

/-- The number whose base-256 digits are the given bytes, highest first. -/
def toNatBE (bytes : Bytes) : Nat := toNatLE bytes.reverse

/-- A number is written in exactly as many bytes as asked for. -/
@[simp] theorem length_ofNatLE (width n : Nat) : (ofNatLE width n).length = width := by
  induction width generalizing n with
  | zero => rfl
  | succ width ih => simp [ih]

@[simp] theorem length_ofNatBE (width n : Nat) : (ofNatBE width n).length = width := by
  simp [ofNatBE]

/-- **Digits are unique**: a byte string is the writing of the number that it stands for. -/
theorem ofNatLE_toNatLE (bytes : Bytes) : ofNatLE bytes.length (toNatLE bytes) = bytes := by
  induction bytes with
  | nil => rfl
  | cons b rest ih =>
    have low : UInt8.ofNat (b.toNat + 256 * toNatLE rest) = b := by
      apply UInt8.toNat.inj
      have := b.toNat_lt
      simp only [UInt8.toNat_ofNat']
      omega
    have high : (b.toNat + 256 * toNatLE rest) / 256 = toNatLE rest := by
      have := b.toNat_lt
      omega
    simp only [List.length_cons, ofNatLE_succ, toNatLE_cons, low, high, ih]

theorem ofNatBE_toNatBE (bytes : Bytes) : ofNatBE bytes.length (toNatBE bytes) = bytes := by
  have := ofNatLE_toNatLE bytes.reverse
  simp only [List.length_reverse] at this
  simp [ofNatBE, toNatBE, this]

end Bytes

end DriveLink
