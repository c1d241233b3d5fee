import DriveLink.Channel.Basic
import DriveLink.Duration

/-! # What a channel is waited for

Whoever drives a connection waits between two runs for what the last run asked for: bytes to read,
room to write, or both. A channel may have a **source**, a handle that can be registered for an
interest and then polled; without one, waiting is only letting time pass.

* `Readiness`, `Interest` — what is waited for, the latter never nothing;
* `Pollable` — a channel that knows the time and perhaps has a source. -/

namespace DriveLink

/-- **What is waited for**, perhaps nothing. -/
structure Readiness where
  read : Bool := false
  write : Bool := false
  deriving DecidableEq, Repr

/-- **What a source is registered for**, never nothing. -/
inductive Interest
  | readable
  | writable
  | both
  deriving DecidableEq, Repr

namespace Interest

/-- Whether bytes to read are of interest. -/
def reads : Interest → Bool
  | readable | both => true
  | writable => false

/-- Whether room to write is of interest. -/
def writes : Interest → Bool
  | writable | both => true
  | readable => false

end Interest

namespace Readiness

/-- Waiting for bytes to read. -/
def forRead : Readiness := { read := true }

/-- Waiting for room to write. -/
def forWrite : Readiness := { write := true }

/-- Whether nothing is waited for. -/
def isEmpty (r : Readiness) : Bool := !r.read && !r.write

/-- The interest to register for, if there is any. -/
def interest? (r : Readiness) : Option Interest :=
  match r.read, r.write with
  | true, true => some .both
  | true, false => some .readable
  | false, true => some .writable
  | false, false => none

end Readiness

/-- **Who registers** a source. A source belongs to at most one of them at a time. -/
inductive Registrar
  /-- The owner of the connection, with a poll of its own. -/
  | owner
  /-- Whoever waits for the drive's greeting. -/
  | greeting
  /-- Whoever waits for the answers to blocking calls. -/
  | calls
  deriving DecidableEq, Repr

/-- A channel state that **time passes for**, and that perhaps has a source. -/
class Pollable (σ : Type) where
  /-- Nanoseconds since some moment in the past. -/
  now : σ → Nat
  /-- Let time pass. -/
  sleep : σ → Duration → σ
  /-- Whether there is a source. -/
  hasSource : σ → Bool
  /-- Register the source, which must not be registered. -/
  register : σ → Registrar → Interest → Except IoError Unit × σ
  /-- Register the source, which must be registered, for another interest. -/
  reregister : σ → Registrar → Interest → Except IoError Unit × σ
  /-- Take the registration back. -/
  deregister : σ → Registrar → Except IoError Unit × σ
  /-- Wait until the source is ready for what it is registered for, or the time is up; whether it
  is ready. Waiting may fail. -/
  poll : σ → Duration → Except IoError Bool × σ

end DriveLink
