import DriveLink.Channel.Readiness
import DriveLink.Pipeline.Event
import DriveLink.Proofs.Frame.Reading
import DriveLink.Proofs.Frame.Writing

/-! # What a channel has taken

How many bytes a channel has taken, its user knows only by adding up what each write said. So the
channel is given a meter: it counts a byte as accepted when a write says that it was taken, and as
pushed when a flush makes progress behind it.

* `Gauge` — what a meter shows;
* `Metered` — a channel with a meter;
* `Recorder` — any channel, with a meter added to it;
* `gauge_write`, `Channel.Yields.gauge_eq` — what writing and reading do to it;
* `Gauge.after`, `Gauge.afterAll` — what it shows after what happens on a connection. -/

namespace DriveLink

/-- What the **meter of a channel** shows: the bytes that it has taken, and those among them that it
had taken when a flush last made progress. -/
structure Gauge where
  accepted : Bytes
  pushed : Bytes
  deriving DecidableEq, Repr

namespace Gauge

/-- The channel takes some bytes. -/
def take (gauge : Gauge) (bytes : Bytes) : Gauge :=
  { gauge with accepted := gauge.accepted ++ bytes }

/-- The channel pushes out what it has taken. -/
def push (gauge : Gauge) : Gauge := { gauge with pushed := gauge.accepted }

/-- What a meter shows **after a write**: progress takes the first bytes of those offered, and
nothing else takes any. -/
def afterWrite (gauge : Gauge) (offered : Bytes) : Transfer (Taken offered.length) → Gauge
  | .progress taken => gauge.take (offered.take taken.count)
  | _ => gauge

/-- What a meter shows **after a flush**. -/
def afterFlush (gauge : Gauge) : Transfer Nat → Gauge
  | .progress _ => gauge.push
  | _ => gauge

theorem take_take (gauge : Gauge) (bytes more : Bytes) :
    (gauge.take bytes).take more = gauge.take (bytes ++ more) := by
  rw [take, take, take, List.append_assoc]

@[simp] theorem take_nil (gauge : Gauge) : gauge.take [] = gauge := by
  rw [take, List.append_nil]

end Gauge

/-- A channel **with a meter**. -/
class Metered (σ : Type) [Channel σ] where
  /-- What the meter shows. -/
  gauge : σ → Gauge
  gauge_read (s : σ) (limit : Nat) : gauge (Channel.read s limit).2 = gauge s
  gauge_write (s : σ) (offered : Bytes) :
    gauge (Channel.write s offered).2 = (gauge s).afterWrite offered (Channel.write s offered).1
  gauge_flush (s : σ) : gauge (Channel.flush s).2 = (gauge s).afterFlush (Channel.flush s).1

open Metered (gauge)

/-! ## A meter for every channel -/

/-- Any channel, with **a meter added** to it. -/
structure Recorder (σ : Type) where
  channel : σ
  gauge : Gauge := ⟨[], []⟩

namespace Recorder

variable {σ : Type}

/-- What a call to the channel comes to, with what it does to the meter. -/
def answer {α : Type} (result : α × σ) (after : α → Gauge) : α × Recorder σ :=
  (result.1, ⟨result.2, after result.1⟩)

instance [Channel σ] : Channel (Recorder σ) where
  read recorder limit := answer (Channel.read recorder.channel limit) fun _ => recorder.gauge
  write recorder offered :=
    answer (Channel.write recorder.channel offered) (recorder.gauge.afterWrite offered)
  flush recorder := answer (Channel.flush recorder.channel) recorder.gauge.afterFlush
  inbound recorder := Channel.inbound recorder.channel
  read_inbound := by
    intro recorder recorder' limit chunk read
    obtain ⟨progress, rfl⟩ := Prod.mk.inj read
    exact Channel.read_inbound (Prod.ext progress rfl)

instance [Channel σ] : Metered (Recorder σ) where
  gauge := Recorder.gauge
  gauge_read _ _ := rfl
  gauge_write _ _ := rfl
  gauge_flush _ := rfl

instance [Pollable σ] : Pollable (Recorder σ) where
  now recorder := Pollable.now recorder.channel
  sleep recorder d := { recorder with channel := Pollable.sleep recorder.channel d }
  hasSource recorder := Pollable.hasSource recorder.channel
  register recorder registrar interest :=
    answer (Pollable.register recorder.channel registrar interest) fun _ => recorder.gauge
  reregister recorder registrar interest :=
    answer (Pollable.reregister recorder.channel registrar interest) fun _ => recorder.gauge
  deregister recorder registrar :=
    answer (Pollable.deregister recorder.channel registrar) fun _ => recorder.gauge
  poll recorder timeout :=
    answer (Pollable.poll recorder.channel timeout) fun _ => recorder.gauge

end Recorder

/-! ## Writing and reading -/

variable {σ : Type} [Channel σ] [Metered σ]

/-- **Reading leaves a meter as it is.** -/
theorem Channel.Yields.gauge_eq {s s' : σ} {bytes : Bytes} (h : Channel.Yields s bytes s') :
    gauge s' = gauge s := by
  have reads {s s' : σ} {limit : Nat} {transfer : Transfer (Chunk limit)}
      (read : Channel.read s limit = (transfer, s')) : gauge s' = gauge s := by
    have same := Metered.gauge_read s limit
    rwa [read] at same
  induction h with
  | nothing => rfl
  | progress read _ ih => rw [ih, reads read]
  | wouldBlock read _ ih => rw [ih, reads read]
  | failed read _ ih => rw [ih, reads read]

namespace FrameWriter

/-- What a **flush** does to a meter. -/
theorem gauge_flush (s : σ) :
    gauge (flush s).2 = if (flush s).1 = .done then (gauge s).push else gauge s := by
  have flushes := Metered.gauge_flush s
  unfold flush
  split
  · rename_i read
    rw [read] at flushes
    rw [if_pos rfl]
    exact flushes
  · rename_i read
    rw [read] at flushes
    exact flushes
  · rename_i read
    rw [read] at flushes
    exact flushes

theorem gauge_writeBytes (left : Bytes) (s : σ) :
    gauge (writeBytes left s).2.2 =
      if (writeBytes left s).1 = .done then
        ((gauge s).take (taken ⟨left⟩ ⟨(writeBytes left s).2.1⟩)).push
      else (gauge s).take (taken ⟨left⟩ ⟨(writeBytes left s).2.1⟩) := by
  -- a write that brings nothing takes nothing, so that only progress counts
  have nothing (bytes : Bytes) : taken ⟨bytes⟩ ⟨bytes⟩ = [] := taken_of_suffix rfl
  fun_induction writeBytes left s with
  | case1 s outcome s' flushed =>
    have flushes := gauge_flush s
    rw [flushed] at flushes
    rw [nothing, Gauge.take_nil]
    exact flushes
  | case2 s b rest count s' write some ih =>
    have writes := Metered.gauge_write s (b :: rest)
    rw [write] at writes
    obtain ⟨bytes, left_eq⟩ := exists_taken ((b :: rest).drop count.count) s'
    have whole : b :: rest = (b :: rest).take count.count ++ bytes ++
        (writeBytes ((b :: rest).drop count.count) s').2.1 := by
      rw [List.append_assoc, ← left_eq, List.take_append_drop]
    rw [ih, writes, taken_of_suffix left_eq, taken_of_suffix whole, Gauge.afterWrite,
      Gauge.take_take]
  | case3 s b rest count s' write none =>
    have writes := Metered.gauge_write s (b :: rest)
    have zero : count.count = 0 := by omega
    rw [write, Gauge.afterWrite, zero, List.take_zero] at writes
    rw [nothing]
    exact writes
  | case4 s b rest s' write =>
    have writes := Metered.gauge_write s (b :: rest)
    rw [write] at writes
    rw [nothing, Gauge.take_nil]
    exact writes
  | case5 s b rest error s' write =>
    have writes := Metered.gauge_write s (b :: rest)
    rw [write] at writes
    rw [nothing, Gauge.take_nil]
    exact writes

/-- **What a write does to a meter**: it adds the bytes that were taken of the frame, and pushes
them out if the frame is out. -/
theorem gauge_write {writer after : FrameWriter} {s s' : σ} {outcome : WriteOutcome}
    (h : writer.write s = (outcome, after, s')) :
    gauge s' = if outcome = .done then ((gauge s).take (writer.taken after)).push
      else (gauge s).take (writer.taken after) := by
  cases h
  exact gauge_writeBytes writer.left s

end FrameWriter

/-! ## What happens on a connection -/

namespace Gauge

variable {η : Type}

/-- What a meter shows **after something that happens** on a connection. -/
def after (gauge : Gauge) : Event η → Gauge
  | .took _ bytes => gauge.take bytes
  | .sent _ => gauge.push
  | _ => gauge

/-- What a meter shows **after all** that happens. -/
def afterAll (gauge : Gauge) (events : List (Event η)) : Gauge := events.foldl after gauge

theorem afterAll_cons (gauge : Gauge) (event : Event η) (events : List (Event η)) :
    gauge.afterAll (event :: events) = (gauge.after event).afterAll events := rfl

theorem afterAll_append (gauge : Gauge) (events later : List (Event η)) :
    gauge.afterAll (events ++ later) = (gauge.afterAll events).afterAll later :=
  List.foldl_append

/-- Completions leave a meter as it is. -/
theorem afterAll_completed (gauge : Gauge) (done : List (Completion η)) :
    gauge.afterAll (done.map Event.completed) = gauge := by
  induction done with
  | nil => rfl
  | cons completion done ih => exact ih

end Gauge

end DriveLink
