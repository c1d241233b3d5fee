import DriveLink.Channel.Waiter
import DriveLink.Proofs.Channel.Calls
import DriveLink.Proofs.Channel.Meter

/-! # What a channel has brought

What a connection knows, it knows from the bytes that it has read. So a tape is put on the channel:
each read that makes progress adds its bytes to it, and nothing else does.

* `Taped` — a channel with a tape;
* `Taping` — any channel, with a tape put on it;
* `Channel.Yields.tape_eq`, `Channel.Pushes.tape_eq` — what reading and writing do to it;
* `Waiter.tape_wait`, `Waiter.tape_release` — waiting leaves it as it is. -/

namespace DriveLink

/-- The bytes that a read has **brought**: none, unless it makes progress. -/
def Transfer.brought {limit : Nat} : Transfer (Chunk limit) → Bytes
  | progress chunk => chunk.bytes
  | wouldBlock | failed _ => []

/-- A channel **with a tape**. -/
class Taped (σ : Type) [Channel σ] [Pollable σ] where
  /-- All bytes that reading has brought so far. -/
  tape : σ → Bytes
  tape_read (s : σ) (limit : Nat) :
    tape (Channel.read s limit).2 = tape s ++ (Channel.read s limit).1.brought
  tape_write (s : σ) (offered : Bytes) : tape (Channel.write s offered).2 = tape s
  tape_flush (s : σ) : tape (Channel.flush s).2 = tape s
  tape_sleep (s : σ) (d : Duration) : tape (Pollable.sleep s d) = tape s
  tape_register (s : σ) (registrar : Registrar) (interest : Interest) :
    tape (Pollable.register s registrar interest).2 = tape s
  tape_reregister (s : σ) (registrar : Registrar) (interest : Interest) :
    tape (Pollable.reregister s registrar interest).2 = tape s
  tape_deregister (s : σ) (registrar : Registrar) :
    tape (Pollable.deregister s registrar).2 = tape s
  tape_poll (s : σ) (timeout : Duration) : tape (Pollable.poll s timeout).2 = tape s

open Taped (tape)

/-! ## A tape for every channel -/

/-- Any channel, with **a tape put on it**. -/
structure Taping (σ : Type) where
  channel : σ
  tape : Bytes := []

namespace Taping

variable {σ : Type}

/-- What a call to the channel comes to, with what it adds to the tape. -/
def answer {α : Type} (taping : Taping σ) (result : α × σ) (brought : α → Bytes) : α × Taping σ :=
  (result.1, ⟨result.2, taping.tape ++ brought result.1⟩)

instance [Channel σ] : Channel (Taping σ) where
  read taping limit := taping.answer (Channel.read taping.channel limit) Transfer.brought
  write taping offered := taping.answer (Channel.write taping.channel offered) fun _ => []
  flush taping := taping.answer (Channel.flush taping.channel) fun _ => []
  inbound taping := Channel.inbound taping.channel
  read_inbound := by
    intro taping taping' limit chunk read
    obtain ⟨progress, rfl⟩ := Prod.mk.inj read
    exact Channel.read_inbound (Prod.ext progress rfl)

instance [Pollable σ] : Pollable (Taping σ) where
  now taping := Pollable.now taping.channel
  sleep taping d := { taping with channel := Pollable.sleep taping.channel d }
  hasSource taping := Pollable.hasSource taping.channel
  register taping registrar interest :=
    taping.answer (Pollable.register taping.channel registrar interest) fun _ => []
  reregister taping registrar interest :=
    taping.answer (Pollable.reregister taping.channel registrar interest) fun _ => []
  deregister taping registrar :=
    taping.answer (Pollable.deregister taping.channel registrar) fun _ => []
  poll taping timeout := taping.answer (Pollable.poll taping.channel timeout) fun _ => []

instance [Channel σ] [Pollable σ] : Taped (Taping σ) where
  tape := Taping.tape
  tape_read _ _ := rfl
  tape_write taping _ := List.append_nil taping.tape
  tape_flush taping := List.append_nil taping.tape
  tape_sleep _ _ := rfl
  tape_register taping _ _ := List.append_nil taping.tape
  tape_reregister taping _ _ := List.append_nil taping.tape
  tape_deregister taping _ := List.append_nil taping.tape
  tape_poll taping _ := List.append_nil taping.tape

end Taping

/-- A meter that is added to a channel **leaves its tape** as it is. -/
instance {σ : Type} [Channel σ] [Pollable σ] [Taped σ] : Taped (Recorder σ) where
  tape recorder := tape recorder.channel
  tape_read recorder := Taped.tape_read recorder.channel
  tape_write recorder := Taped.tape_write recorder.channel
  tape_flush recorder := Taped.tape_flush recorder.channel
  tape_sleep recorder := Taped.tape_sleep recorder.channel
  tape_register recorder := Taped.tape_register recorder.channel
  tape_reregister recorder := Taped.tape_reregister recorder.channel
  tape_deregister recorder := Taped.tape_deregister recorder.channel
  tape_poll recorder := Taped.tape_poll recorder.channel

/-! ## Reading and writing -/

variable {σ : Type} [Channel σ] [Pollable σ] [Taped σ]

namespace Channel

/-- **What a channel yields** is what comes on its tape. -/
theorem Yields.tape_eq {s s' : σ} {bytes : Bytes} (h : Yields s bytes s') :
    tape s' = tape s ++ bytes := by
  have reads {s s' : σ} {limit : Nat} {transfer : Transfer (Chunk limit)}
      (read : Channel.read s limit = (transfer, s')) : tape s' = tape s ++ transfer.brought := by
    have adds := Taped.tape_read s limit
    rwa [read] at adds
  induction h with
  | nothing s => exact (List.append_nil _).symm
  | progress read _ ih => rw [ih, reads read, List.append_assoc, Transfer.brought]
  | wouldBlock read _ ih => rw [ih, reads read, Transfer.brought, List.append_nil]
  | failed read _ ih => rw [ih, reads read, Transfer.brought, List.append_nil]

theorem Push.tape_eq {s s' : σ} (h : Push s s') : tape s' = tape s := by
  cases h with
  | @write offered transfer call works =>
    have same := Taped.tape_write s offered
    rwa [call] at same
  | flush call works =>
    have same := Taped.tape_flush s
    rwa [call] at same

/-- **Writing leaves the tape as it is.** -/
theorem Pushes.tape_eq {s s' : σ} (h : Pushes s s') : tape s' = tape s := by
  induction h with
  | refl => rfl
  | tail _ push ih => exact push.tape_eq.trans ih

end Channel

/-! ## Waiting -/

namespace Waiter

theorem tape_enroll (waiter : Waiter) (interest : Interest) (s : σ) :
    tape (waiter.enroll interest s).2.2 = tape s := by
  have registers := Taped.tape_register s waiter.registrar interest
  unfold enroll
  split
  · exact Taped.tape_reregister s waiter.registrar interest
  · split
    · rename_i registered
      rwa [registered] at registers
    · rename_i registered
      rwa [registered] at registers

/-- **Waiting** leaves the tape as it is. -/
theorem tape_wait (waiter : Waiter) (readiness : Readiness) (timeout : Duration) (s : σ) :
    tape (waiter.wait readiness timeout s).2.2 = tape s := by
  have enrolls := waiter.tape_enroll (readiness.interest?.getD .readable) s
  unfold wait
  split
  · split
    · rename_i enrolled
      rw [enrolled] at enrolls
      exact (Taped.tape_poll _ timeout).trans enrolls
    · rename_i enrolled
      rwa [enrolled] at enrolls
  · simp only
    split
    · rfl
    · exact Taped.tape_sleep s _

theorem tape_release (waiter : Waiter) (s : σ) : tape (waiter.release s).2 = tape s := by
  unfold release
  split
  · simp only
    split
    · exact Taped.tape_deregister s waiter.registrar
    · rfl
  · rfl

end Waiter

end DriveLink
