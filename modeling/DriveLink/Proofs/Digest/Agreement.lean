import DriveLink.Digest.Signer
import Mathlib.Data.List.Forall2

/-! # Digests that agree

Two digests are compared without stopping at the first byte that differs: the differences of all
bytes are gathered in one byte, and at the end there must be none in it. A difference that is
gathered once is never lost again, so nothing but the digest itself is accepted: no part of it, no
longer one, and no empty one.

* `gathered_eq_zero_iff` — what it means that no difference is gathered;
* `digestsAgree_iff` — which digests agree;
* `Signer.verifies_iff` — which envelopes are verified;
* `Envelope.attach`, `Signer.verifies_attach_iff` — whether what is signed is verified;
* `verified_iff_true_digest` — all of it, for any signer and for the one that drives use. -/

namespace DriveLink

/-! ## Comparing -/

/-- **No difference is gathered** from some pairs of bytes exactly if there was none before, and the
two bytes of each pair are the same. -/
theorem gathered_eq_zero_iff (pairs : List (UInt8 × UInt8)) (difference : UInt8) :
    pairs.foldl (fun difference pair => difference ||| (pair.1 ^^^ pair.2)) difference = 0 ↔
      difference = 0 ∧ ∀ pair ∈ pairs, pair.1 = pair.2 := by
  induction pairs generalizing difference with
  | nil => simp
  | cons pair pairs ih =>
    rw [List.foldl_cons, ih, UInt8.or_eq_zero_iff, UInt8.xor_eq_zero_iff, List.forall_mem_cons,
      and_assoc]

/-- Byte strings are equal exactly if they are **equally long and no byte differs**. -/
theorem Bytes.eq_iff_zip {a b : Bytes} :
    a = b ↔ a.length = b.length ∧ ∀ pair ∈ a.zip b, pair.1 = pair.2 := by
  rw [← List.forall₂_eq_eq_eq, List.forall₂_iff_zip, Prod.forall]

/-- **Which digests agree**: those that are equal, unless they are empty. -/
theorem digestsAgree_iff {expected received : Bytes} :
    digestsAgree expected received = true ↔ expected = received ∧ expected ≠ [] := by
  by_cases comparable : expected ≠ [] ∧ expected.length = received.length
  · have goes_on : ¬ (expected.isEmpty || expected.length != received.length) = true := by
      simpa using comparable
    have gathered := gathered_eq_zero_iff (expected.zip received) 0
    rw [digestsAgree, if_neg goes_on, beq_iff_eq, Bytes.eq_iff_zip]
    exact gathered.trans ⟨fun same => ⟨⟨comparable.2, same.2⟩, comparable.1⟩,
      fun equal => ⟨rfl, equal.1.2⟩⟩
  · have stops : (expected.isEmpty || expected.length != received.length) = true := by
      rw [Bool.or_eq_true, List.isEmpty_iff, bne_iff_ne]
      by_contra neither
      exact comparable (not_or.mp neither |>.imp_right not_not.mp)
    rw [digestsAgree, if_pos stops]
    refine ⟨nofun, fun equal => absurd ⟨equal.2, ?_⟩ comparable⟩
    rw [equal.1]

/-! ## Verifying -/

/-- The envelope, **with a digest attached** in somebody's name. -/
def Envelope.attach (envelope : Envelope) (identity : Int64) (digest : Bytes) : Envelope :=
  { envelope with signed := some ⟨identity, digest⟩ }

namespace Signer

variable {signer : Signer} {key : Bytes} {envelope : Envelope}

/-- **Which envelopes are verified**: those that carry the digest that their command should have,
unless the signer makes none of it. -/
theorem verifies_iff :
    signer.verifies key envelope = true ↔ ∃ signed, envelope.signed = some signed ∧
      signed.digest ≠ [] ∧ signed.digest = signer.sign envelope.command key := by
  rw [verifies, Envelope.digest?]
  cases envelope.signed with
  | none => exact ⟨nofun, nofun⟩
  | some signed =>
    rw [Option.map_some, digestsAgree_iff]
    constructor
    · rintro ⟨same, made⟩
      exact ⟨signed, rfl, same ▸ made, same.symm⟩
    · rintro ⟨_, ⟨⟩, carried, same⟩
      exact ⟨same.symm, same ▸ carried⟩

/-- What carries the digest of its own command **is verified**, if the signer makes any. -/
theorem verifies_attach_iff {identity : Int64} :
    signer.verifies key (envelope.attach identity (signer.sign envelope.command key)) = true ↔
      signer.sign envelope.command key ≠ [] := by
  rw [verifies_iff]
  constructor
  · rintro ⟨_, ⟨⟩, carried, -⟩
    exact carried
  · exact fun made => ⟨_, rfl, made, rfl⟩

/-- Who is named, how the envelope is authenticated, and the PIN **do not matter**. -/
theorem verifies_readdressed (auth : AuthType) (pin : Option Bytes) (identity : Int64) :
    signer.verifies key { envelope with
      auth, pin, signed := envelope.signed.map ({ · with identity }) } =
      signer.verifies key envelope := by
  rw [verifies, verifies, Envelope.digest?, Envelope.digest?, Option.map_map]
  rfl

end Signer

/-- **Verification accepts the true digest and nothing else.** Two digests agree exactly if they are
equal and not empty. So whatever the signer and the key, an envelope is verified exactly if it
carries a digest that is not empty and is the one that the signer makes of the command in it, byte
for byte, whoever is named in the envelope, however it says that it is authenticated, and with
whatever PIN. What is signed is verified if the signer makes any digest. The signer of drives always
makes one of 20 bytes, and what it has signed is always verified. -/
theorem verified_iff_true_digest :
    (∀ a b : Bytes, digestsAgree a b = true ↔ a = b ∧ a ≠ []) ∧
    (∀ (signer : Signer) (key : Bytes) (envelope : Envelope),
      (signer.verifies key envelope = true ↔ ∃ signed, envelope.signed = some signed ∧
        signed.digest ≠ [] ∧ signed.digest = signer.sign envelope.command key) ∧
      (∀ auth pin identity, signer.verifies key { envelope with
        auth, pin, signed := envelope.signed.map ({ · with identity }) } =
          signer.verifies key envelope) ∧
      ∀ identity,
        (signer.verifies key (envelope.attach identity (signer.sign envelope.command key)) = true ↔
          signer.sign envelope.command key ≠ [])) ∧
    ∀ (key : Bytes) (envelope : Envelope) (identity : Int64),
      (Signer.hmacSha1.sign envelope.command key).length = 20 ∧
      Signer.hmacSha1.verifies key (envelope.attach identity
        (Signer.hmacSha1.sign envelope.command key)) = true := by
  refine ⟨fun a b => digestsAgree_iff, fun signer key envelope => ⟨Signer.verifies_iff,
    Signer.verifies_readdressed, fun identity => Signer.verifies_attach_iff⟩,
    fun key envelope identity => ?_⟩
  have twenty : (Signer.hmacSha1.sign envelope.command key).length = 20 := length_hmacSha1 ..
  refine ⟨twenty, Signer.verifies_attach_iff.mpr fun none => ?_⟩
  rw [none] at twenty
  cases twenty

/-- The **first bytes** of a digest are not enough. -/
example : (Signer.constant [7, 8]).verifies [1] (Envelope.hmac.attach 1 [7]) = false := by decide

end DriveLink
