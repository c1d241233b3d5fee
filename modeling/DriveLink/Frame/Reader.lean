import DriveLink.Channel.Basic
import DriveLink.Frame.Basic

/-! # Reading frames as their bytes come in

A channel delivers a frame in whatever pieces it likes. A `FrameReader` keeps what it has of the
current frame, so that a read which has to stop for want of bytes goes on from there the next time.
A frame that is larger than the reader accepts is stepped over to its end: its command section is
kept if that fits by itself, and whatever follows is thrown away in small pieces.

* `Buffer`, `Buffer.fill` — a part of a frame of known length, and filling it from a channel;
* `ReaderState`, `FrameReader` — where in a frame the reader stands;
* `FrameReader.read` — goes on as far as the channel allows. -/

namespace DriveLink

/-! ## Buffers -/

/-- A **part of known length**, and what has come of it. -/
structure Buffer where
  size : Nat
  filled : Array UInt8
  fits : filled.size ≤ size

namespace Buffer

/-- A part of which nothing has come. -/
def ofSize (size : Nat) : Buffer := ⟨size, #[], by simp⟩

/-- How much of the part is missing. -/
def missing (buffer : Buffer) : Nat := buffer.size - buffer.filled.size

/-- What has come of the part. -/
def bytes (buffer : Buffer) : Bytes := buffer.filled.toList

/-- Bytes put behind others make them longer by as many. -/
theorem size_appendList (filled : Array UInt8) (bytes : Bytes) :
    (filled ++ bytes).size = filled.size + bytes.length := by
  rw [← Array.length_toList, Array.toList_appendList, List.length_append, Array.length_toList]

/-- Put bytes behind those that have come. -/
def append (buffer : Buffer) (chunk : Chunk buffer.missing) : Buffer :=
  ⟨buffer.size, buffer.filled ++ chunk.bytes, by
    have := buffer.fits
    have := chunk.le
    simp only [missing] at this
    rw [size_appendList]
    omega⟩

@[simp] theorem missing_append (buffer : Buffer) (chunk : Chunk buffer.missing) :
    (buffer.append chunk).missing = buffer.missing - chunk.bytes.length := by
  simp only [missing, append, size_appendList]
  omega

/-- How **filling a part**, or stepping over one, ended. -/
inductive Progress
  | complete
  | pending
  | failed (error : IoError)
  deriving DecidableEq, Repr

/-- **Fill** the part, as far as the channel allows. -/
def fill {σ : Type} [Channel σ] (buffer : Buffer) (s : σ) : Progress × Buffer × σ :=
  if buffer.missing = 0 then (.complete, buffer, s)
  else
    match Channel.read s buffer.missing with
    | (.progress chunk, s) =>
      if 0 < chunk.bytes.length then (buffer.append chunk).fill s else (.pending, buffer, s)
    | (.wouldBlock, s) => (.pending, buffer, s)
    | (.failed error, s) => (.failed error, buffer, s)
termination_by buffer.missing
decreasing_by simp only [missing_append]; omega

end Buffer

/-- The most bytes that are read at once only to be thrown away. -/
def skipChunk : Nat := 4096

/-- **Step over** bytes, as far as the channel allows; what is left to step over comes with the
answer. -/
def skipBytes {σ : Type} [Channel σ] (remaining : Nat) (s : σ) : Buffer.Progress × Nat × σ :=
  if remaining = 0 then (.complete, 0, s)
  else
    match Channel.read s (min remaining skipChunk) with
    | (.progress chunk, s) =>
      if 0 < chunk.bytes.length then skipBytes (remaining - chunk.bytes.length) s
      else (.pending, remaining, s)
    | (.wouldBlock, s) => (.pending, remaining, s)
    | (.failed error, s) => (.failed error, remaining, s)
termination_by remaining

/-! ## The reader -/

/-- **Where in a frame** a reader stands. -/
inductive ReaderState
  /-- Between two frames. -/
  | idle
  | commandLength (buffer : Buffer)
  | valueLength (commandLength : UInt32) (buffer : Buffer)
  /-- In the command section. `skipValue` says that the value payload is one too many. -/
  | command (buffer : Buffer) (valueLength : UInt32) (skipValue : Bool)
  | value (command : Bytes) (buffer : Buffer)
  /-- In a part that is stepped over, with so many bytes to go. -/
  | skip (remaining : Nat) (command : Option Bytes) (commandLength valueLength : UInt32)

/-- Whether a frame has been begun and not finished. -/
def ReaderState.inProgress : ReaderState → Bool
  | idle => false
  | _ => true

/-- What a **read** came to. -/
inductive ReadOutcome
  /-- The frame is not whole yet. -/
  | pending
  | frame (frame : Frame)
  /-- The frame was too large and has been stepped over. Its command section is there if that
  alone was not too large. -/
  | tooLarge (command : Option Bytes) (commandLength valueLength : UInt32)
  | failed (error : FrameError)
  deriving DecidableEq, Repr

/-- Whether the read came to the **end of a frame**. -/
def ReadOutcome.endsFrame : ReadOutcome → Bool
  | frame _ | tooLarge .. => true
  | _ => false

/-- The outcome of a read, where the reader stands after it, and the channel after it. -/
structure ReadStep (σ : Type) where
  outcome : ReadOutcome
  state : ReaderState
  channel : σ

namespace FrameReader

variable {σ : Type} [Channel σ]

/-- Stop until more bytes come. -/
def suspend (state : ReaderState) (s : σ) : ReadStep σ := ⟨.pending, state, s⟩

/-- Come to the end of a frame. -/
def finish (outcome : ReadOutcome) (s : σ) : ReadStep σ := ⟨outcome, .idle, s⟩

/-- Give up the frame, because the channel failed. -/
def fail (error : IoError) (s : σ) : ReadStep σ := ⟨.failed (.channel error), .idle, s⟩

/-- Step over the rest of a frame that is too large. -/
def readSkipped (remaining : Nat) (command : Option Bytes) (commandLength valueLength : UInt32)
    (s : σ) : ReadStep σ :=
  match skipBytes remaining s with
  | (.complete, _, s) => finish (.tooLarge command commandLength valueLength) s
  | (.pending, remaining, s) => suspend (.skip remaining command commandLength valueLength) s
  | (.failed error, _, s) => fail error s

/-- Read the value payload, and with it the frame. -/
def readValue (command : Bytes) (buffer : Buffer) (s : σ) : ReadStep σ :=
  match buffer.fill s with
  | (.complete, buffer, s) => finish (.frame ⟨command, buffer.bytes⟩) s
  | (.pending, buffer, s) => suspend (.value command buffer) s
  | (.failed error, _, s) => fail error s

/-- Read the command section and what follows it. -/
def readCommand (buffer : Buffer) (valueLength : UInt32) (skipValue : Bool) (s : σ) :
    ReadStep σ :=
  match buffer.fill s with
  | (.complete, buffer, s) =>
    if skipValue then
      readSkipped valueLength.toNat (some buffer.bytes) (UInt32.ofNat buffer.size) valueLength s
    else readValue buffer.bytes (.ofSize valueLength.toNat) s
  | (.pending, buffer, s) => suspend (.command buffer valueLength skipValue) s
  | (.failed error, _, s) => fail error s

/-- Read a body of known lengths. It is read whole if it has at most `max` bytes; else its command
section alone, if that has at most `max`; else none of it. -/
def readBody (max : Nat) (commandLength valueLength : UInt32) (s : σ) : ReadStep σ :=
  let total := commandLength.toNat + valueLength.toNat
  if total ≤ max then readCommand (.ofSize commandLength.toNat) valueLength false s
  else if commandLength.toNat ≤ max then
    readCommand (.ofSize commandLength.toNat) valueLength true s
  else readSkipped total none commandLength valueLength s

/-- The length that four bytes announce. -/
def announced (buffer : Buffer) : UInt32 := UInt32.ofNat (Bytes.toNatBE buffer.bytes)

/-- Read the length of the value payload and what follows it. -/
def readValueLength (max : Nat) (commandLength : UInt32) (buffer : Buffer) (s : σ) : ReadStep σ :=
  match buffer.fill s with
  | (.complete, buffer, s) => readBody max commandLength (announced buffer) s
  | (.pending, buffer, s) => suspend (.valueLength commandLength buffer) s
  | (.failed error, _, s) => fail error s

/-- Read the length of the command section and what follows it. -/
def readCommandLength (max : Nat) (buffer : Buffer) (s : σ) : ReadStep σ :=
  match buffer.fill s with
  | (.complete, buffer, s) => readValueLength max (announced buffer) (.ofSize 4) s
  | (.pending, buffer, s) => suspend (.commandLength buffer) s
  | (.failed error, _, s) => fail error s

/-- Read a frame from its first byte on. -/
def readMagic (max : Nat) (s : σ) : ReadStep σ :=
  match Channel.read s 1 with
  | (.progress ⟨[], _⟩, s) => suspend .idle s
  | (.progress ⟨found :: _, _⟩, s) =>
    if found = Frame.magic then readCommandLength max (.ofSize 4) s
    else ⟨.failed (.badMagic found), .idle, s⟩
  | (.wouldBlock, s) => suspend .idle s
  | (.failed error, s) => fail error s

/-- Go on from where the reader stands. -/
def resume (max : Nat) (state : ReaderState) (s : σ) : ReadStep σ :=
  match state with
  | .idle => readMagic max s
  | .commandLength buffer => readCommandLength max buffer s
  | .valueLength commandLength buffer => readValueLength max commandLength buffer s
  | .command buffer valueLength skipValue => readCommand buffer valueLength skipValue s
  | .value command buffer => readValue command buffer s
  | .skip remaining command commandLength valueLength =>
    readSkipped remaining command commandLength valueLength s

end FrameReader

/-- A **frame reader**: the largest body that it accepts, and where it stands. -/
structure FrameReader where
  maxFrameSize : Nat
  state : ReaderState := .idle

namespace FrameReader

variable {σ : Type} [Channel σ]

/-- Whether a frame has been begun and not finished. -/
def inProgress (reader : FrameReader) : Bool := reader.state.inProgress

/-- Read **as far as the channel allows**, at most to the end of a frame. -/
def read (reader : FrameReader) (s : σ) : ReadOutcome × FrameReader × σ :=
  let step := resume reader.maxFrameSize reader.state s
  (step.outcome, { reader with state := step.state }, step.channel)

/-! ## Reading uses up what the channel holds -/

/-- Filling a part takes nothing that was not to come. -/
theorem inbound_fill {buffer buffer' : Buffer} {s s' : σ}
    (h : buffer.fill s = (.complete, buffer', s')) :
    Channel.inbound s' ≤ Channel.inbound s := by
  fun_induction Buffer.fill buffer s with
  | case1 => simp_all
  | case2 buffer s short chunk t read some ih =>
    have := Channel.read_inbound read
    have := ih h
    omega
  | case3 | case4 | case5 => simp_all

/-- Stepping over bytes takes nothing that was not to come. -/
theorem inbound_skipBytes {remaining left : Nat} {s s' : σ}
    (h : skipBytes remaining s = (.complete, left, s')) :
    Channel.inbound s' ≤ Channel.inbound s := by
  fun_induction skipBytes remaining s with
  | case1 => simp_all
  | case2 remaining s short chunk t read some ih =>
    have := Channel.read_inbound read
    have := ih h
    omega
  | case3 | case4 | case5 => simp_all

/-- A step that **ends a frame** leaves the reader between frames, and the channel with no more to
come than before. -/
structure EndsWithin (step : ReadStep σ) (bound : Nat) : Prop where
  idle_le : step.outcome.endsFrame = true →
    step.state = .idle ∧ Channel.inbound step.channel ≤ bound

theorem EndsWithin.mono {step : ReadStep σ} {m n : Nat} (h : EndsWithin step m) (le : m ≤ n) :
    EndsWithin step n :=
  ⟨fun e => ⟨(h.idle_le e).1, Nat.le_trans (h.idle_le e).2 le⟩⟩

@[simp] theorem endsWithin_suspend (state : ReaderState) (s : σ) (n : Nat) :
    EndsWithin (suspend state s) n := ⟨fun e => by simp [suspend, ReadOutcome.endsFrame] at e⟩

@[simp] theorem endsWithin_fail (error : IoError) (s : σ) (n : Nat) :
    EndsWithin (fail error s) n := ⟨fun e => by simp [fail, ReadOutcome.endsFrame] at e⟩

theorem endsWithin_finish (outcome : ReadOutcome) (s : σ) :
    EndsWithin (finish outcome s) (Channel.inbound s) := ⟨fun _ => ⟨rfl, Nat.le_refl _⟩⟩

theorem endsWithin_readSkipped (remaining : Nat) (command : Option Bytes)
    (commandLength valueLength : UInt32) (s : σ) :
    EndsWithin (readSkipped remaining command commandLength valueLength s)
      (Channel.inbound s) := by
  unfold readSkipped
  split <;> try simp
  exact (endsWithin_finish _ _).mono (inbound_skipBytes (by assumption))

theorem endsWithin_readValue (command : Bytes) (buffer : Buffer) (s : σ) :
    EndsWithin (readValue command buffer s) (Channel.inbound s) := by
  unfold readValue
  split <;> try simp
  exact (endsWithin_finish _ _).mono (inbound_fill (by assumption))

theorem endsWithin_readCommand (buffer : Buffer) (valueLength : UInt32) (skipValue : Bool)
    (s : σ) :
    EndsWithin (readCommand buffer valueLength skipValue s) (Channel.inbound s) := by
  unfold readCommand
  split <;> try simp
  split
  · exact (endsWithin_readSkipped ..).mono (inbound_fill (by assumption))
  · exact (endsWithin_readValue ..).mono (inbound_fill (by assumption))

theorem endsWithin_readBody (max : Nat) (commandLength valueLength : UInt32) (s : σ) :
    EndsWithin (readBody max commandLength valueLength s) (Channel.inbound s) := by
  unfold readBody
  simp only
  split
  · exact endsWithin_readCommand ..
  · split
    · exact endsWithin_readCommand ..
    · exact endsWithin_readSkipped ..

theorem endsWithin_readValueLength (max : Nat) (commandLength : UInt32) (buffer : Buffer)
    (s : σ) :
    EndsWithin (readValueLength max commandLength buffer s) (Channel.inbound s) := by
  unfold readValueLength
  split <;> try simp
  exact (endsWithin_readBody ..).mono (inbound_fill (by assumption))

theorem endsWithin_readCommandLength (max : Nat) (buffer : Buffer) (s : σ) :
    EndsWithin (readCommandLength max buffer s) (Channel.inbound s) := by
  unfold readCommandLength
  split <;> try simp
  exact (endsWithin_readValueLength ..).mono (inbound_fill (by assumption))

/-- A frame that is read from its first byte on takes **at least that byte**. -/
theorem endsWithin_readMagic (max : Nat) (s : σ) :
    EndsWithin (readMagic max s) (Channel.inbound s - 1) := by
  unfold readMagic
  split <;> try simp
  split
  · rename_i read _
    have := Channel.read_inbound read
    simp only [List.length_cons] at this
    exact (endsWithin_readCommandLength ..).mono (by omega)
  · exact ⟨fun e => by simp [ReadOutcome.endsFrame] at e⟩

theorem endsWithin_resume (max : Nat) (state : ReaderState) (s : σ) :
    EndsWithin (resume max state s) (Channel.inbound s) := by
  cases state with
  | idle => exact (endsWithin_readMagic ..).mono (Nat.sub_le ..)
  | commandLength => exact endsWithin_readCommandLength ..
  | valueLength => exact endsWithin_readValueLength ..
  | command => exact endsWithin_readCommand ..
  | value => exact endsWithin_readValue ..
  | skip => exact endsWithin_readSkipped ..

/-- What is left for a reader to do: twice what is to come, and one more within a frame. -/
def work (reader : FrameReader) (s : σ) : Nat :=
  2 * Channel.inbound s + if reader.inProgress then 1 else 0

/-- **Every frame that a reader comes to the end of leaves it less to do.** -/
theorem work_read_lt {reader : FrameReader} {s : σ}
    (h : (reader.read s).1.endsFrame = true) :
    (reader.read s).2.1.work (reader.read s).2.2 < reader.work s := by
  cases state : reader.state with
  | idle =>
    have step := endsWithin_readMagic reader.maxFrameSize s
    simp only [read, state, resume] at h ⊢
    obtain ⟨after, bound⟩ := step.idle_le h
    have some : 0 < Channel.inbound s := by
      unfold readMagic at h
      split at h <;> simp_all [suspend, fail, ReadOutcome.endsFrame]
      rename_i read
      have := Channel.read_inbound read
      simp only [List.length_cons] at this
      omega
    simp only [work, inProgress, state, after, ReaderState.inProgress]
    simp only [Bool.false_eq_true, if_false]
    omega
  | _ =>
    have step := endsWithin_resume reader.maxFrameSize reader.state s
    simp only [read] at h ⊢
    obtain ⟨after, bound⟩ := step.idle_le h
    rw [state] at after bound
    simp only [work, inProgress, state, after, ReaderState.inProgress, if_true,
      Bool.false_eq_true, if_false]
    omega

end FrameReader

end DriveLink
