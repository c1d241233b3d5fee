import DriveLink.Bytes
import Mathlib.Algebra.Order.Ring.Int
import Mathlib.Tactic.Common

/-! # Numbers in bytes

Writing a number in so many bytes keeps its lowest digits, and what the bytes stand for is less than
the next power of their base.

* `Bytes.toNatLE_ofNatLE`, `Bytes.toNatBE_ofNatBE` — the digits read back;
* `Bytes.toNatLE_lt` — the bound on what bytes stand for. -/

namespace DriveLink

namespace Bytes

/-- **Digits read back**: the digits of `n`, lowest first, stand for `n` up to the width. -/
theorem toNatLE_ofNatLE (width n : Nat) : toNatLE (ofNatLE width n) = n % 256 ^ width := by
  induction width generalizing n with
  | zero => simp [Nat.mod_one]
  | succ width ih =>
    have byte : (UInt8.ofNat n).toNat = n % 256 := UInt8.toNat_ofNat'
    rw [ofNatLE_succ, toNatLE_cons, ih, byte, Nat.pow_succ, Nat.mul_comm (256 ^ width) 256,
      Nat.mod_mul]

theorem toNatBE_ofNatBE (width n : Nat) : toNatBE (ofNatBE width n) = n % 256 ^ width := by
  simp [toNatBE, ofNatBE, toNatLE_ofNatLE]

/-- A number written in `bytes.length` digits stays below the next power. -/
theorem toNatLE_lt (bytes : Bytes) : toNatLE bytes < 256 ^ bytes.length := by
  induction bytes with
  | nil => simp
  | cons b rest ih =>
    have := b.toNat_lt
    simp only [toNatLE_cons, List.length_cons, Nat.pow_succ]
    omega

end Bytes

end DriveLink
