import DriveLink.Failure

/-! # Channels

A channel carries bytes both ways and never blocks: a call moves some bytes, or says that it would
have to wait, or fails. A read never returns more than asked for and a write never takes more than
offered, which their types say; and what a channel can still deliver shrinks by what it delivers,
so whoever keeps reading comes to an end.

* `Transfer` — what one call came to;
* `Chunk`, `Taken` — what a read returns and a write takes;
* `Channel` — a state with the three calls and their law. -/

namespace DriveLink

/-- What **one call on a channel** came to. Moving nothing counts as progress too. -/
inductive Transfer (α : Type)
  | progress (moved : α)
  | wouldBlock
  | failed (error : IoError)
  deriving Repr

/-- **At most `limit` bytes.** -/
structure Chunk (limit : Nat) where
  bytes : Bytes
  le : bytes.length ≤ limit
  deriving Repr

/-- **At most `limit` of the bytes offered.** -/
structure Taken (limit : Nat) where
  count : Nat
  le : count ≤ limit
  deriving Repr

/-- The first bytes of a byte string, at most `limit` of them. -/
def Chunk.front (limit : Nat) (bytes : Bytes) : Chunk limit :=
  ⟨bytes.take limit, List.length_take_le limit bytes⟩

/-- So many bytes of those offered, or all of them. -/
def Taken.upTo (limit count : Nat) : Taken limit := ⟨min limit count, Nat.min_le_left ..⟩

/-- A **channel** whose state is a `σ`. -/
class Channel (σ : Type) where
  /-- Read at most `limit` bytes. -/
  read : σ → (limit : Nat) → Transfer (Chunk limit) × σ
  /-- Write from the front of the offered bytes. -/
  write : σ → (offered : Bytes) → Transfer (Taken offered.length) × σ
  /-- Push out what the channel holds back. -/
  flush : σ → Transfer Nat × σ
  /-- A bound on the bytes that reading alone can still yield. -/
  inbound : σ → Nat
  /-- What is read is no longer to come. -/
  read_inbound : ∀ {s s' : σ} {limit : Nat} {chunk : Chunk limit},
    read s limit = (.progress chunk, s') → inbound s' + chunk.bytes.length ≤ inbound s

end DriveLink
