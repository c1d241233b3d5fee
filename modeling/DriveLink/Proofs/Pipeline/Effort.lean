import DriveLink.Proofs.Frame.Parse
import DriveLink.Proofs.Pipeline.Fuse
import DriveLink.Proofs.Pipeline.Intake
import DriveLink.Proofs.Pipeline.Shipping

/-! # What reading and writing cost

A reader goes on as long as its reads bring bytes, and there are only so many to come. So each call
to the channel is paid for by a byte, but for the last one, which brings nothing. This holds of a
single frame and of all the frames that a call to receive goes through, whatever is in them: what
need not be read because it is empty is not read, and costs no call. A writer goes on as long as its
writes take bytes, and flushes once behind each frame.

* `Channel.Brings`, `Channel.Affords` — calls that are all paid for, and one that is not;
* `ReaderState.taken` — how much of its frame a reader has taken, by where it stands;
* `FrameReader.Effort`, `FrameReader.effort_resume` — what a read costs, and what it takes;
* `Inbox.affords_receiveFrom`, `Outbox.calls_send_le` — what receiving and sending cost;
* `Passes`, `Reading.exists_passes` — the passes of a call to receive that do not return;
* `Writing.exists_ships` — those of a call to send;
* `calls_are_bounded` — every read, every call to receive, every call to send. -/

namespace DriveLink

variable {σ η : Type} [Channel σ]

open Tallied (calls)

namespace Channel

variable [Tallied σ]

/-! ## Calls that are paid for -/

theorem calls_of_read {s s' : σ} {limit : Nat} {transfer : Transfer (Chunk limit)}
    (call : Channel.read s limit = (transfer, s')) : calls s' = calls s + 1 := by
  have one := Tallied.calls_read s limit
  rwa [call] at one

theorem calls_of_write {s s' : σ} {offered : Bytes} {transfer : Transfer (Taken offered.length)}
    (call : Channel.write s offered = (transfer, s')) : calls s' = calls s + 1 := by
  have one := Tallied.calls_write s offered
  rwa [call] at one

theorem calls_of_flush {s s' : σ} {transfer : Transfer Nat}
    (call : Channel.flush s = (transfer, s')) : calls s' = calls s + 1 := by
  have one := Tallied.calls_flush s
  rwa [call] at one

/-- Between two states of a channel come at least so many bytes, and **each call brings one**: what
the calls cost has been taken off what was to come. -/
structure Brings (n : Nat) (s s' : σ) : Prop where
  calls_le : calls s' + inbound s' ≤ calls s + inbound s
  bytes_le : inbound s' + n ≤ inbound s

/-- Between two states of a channel there is at most **one call more than bytes** that were to
come. -/
def Affords (s s' : σ) : Prop := calls s' ≤ calls s + inbound s + 1

variable {s s₁ s' : σ} {m n : Nat}

theorem Brings.nothing (s : σ) : Brings 0 s s := ⟨Nat.le_refl _, Nat.le_refl _⟩

theorem Brings.trans (h : Brings m s s₁) (later : Brings n s₁ s') : Brings (m + n) s s' where
  calls_le := Nat.le_trans later.calls_le h.calls_le
  bytes_le := by
    have := h.bytes_le
    have := later.bytes_le
    omega

/-- A read that brings some bytes **is paid for**. -/
theorem Brings.of_read {limit : Nat} {chunk : Chunk limit}
    (read : Channel.read s limit = (.progress chunk, s')) (some : 0 < chunk.bytes.length) :
    Brings chunk.bytes.length s s' := by
  have one := calls_of_read read
  have taken := Channel.read_inbound read
  exact ⟨by omega, taken⟩

/-- Behind calls that are paid for there may be **one more**. -/
theorem Brings.affords (h : Brings n s s₁) (later : Affords s₁ s') : Affords s s' := by
  have := h.calls_le
  have : calls s' ≤ calls s₁ + inbound s₁ + 1 := later
  show calls s' ≤ calls s + inbound s + 1
  omega

theorem Affords.refl (s : σ) : Affords s s :=
  Nat.le_trans (Nat.le_add_right ..) (Nat.le_succ _)

/-- One read may bring **nothing**. -/
theorem Affords.of_read {limit : Nat} {transfer : Transfer (Chunk limit)}
    (read : Channel.read s limit = (transfer, s')) : Affords s s' := by
  have one := calls_of_read read
  show calls s' ≤ calls s + inbound s + 1
  omega

end Channel

open Channel (Brings Affords inbound)

/-! ## Filling a part and stepping over one -/

section Parts

variable [Tallied σ]

theorem Buffer.affords_fill (buffer : Buffer) (s : σ) : Affords s (buffer.fill s).2.2 := by
  fun_induction fill buffer s with
  | case1 => exact .refl _
  | case2 buffer s short chunk s' read some ih => exact (Brings.of_read read some).affords ih
  | case3 buffer s short chunk s' read none => exact .of_read read
  | case4 buffer s short s' read => exact .of_read read
  | case5 buffer s short error s' read => exact .of_read read

/-- A part that has been filled **has brought what was missing**. -/
theorem Buffer.brings_of_fill {buffer buffer' : Buffer} {s s' : σ}
    (h : buffer.fill s = (.complete, buffer', s')) : Brings buffer.missing s s' := by
  fun_induction fill buffer s with
  | case1 buffer s whole =>
    cases h
    rw [whole]
    exact .nothing _
  | case2 buffer s short chunk t read some ih =>
    have brings := (Brings.of_read read some).trans (ih h)
    rwa [missing_append, Nat.add_sub_cancel' chunk.le] at brings
  | case3 => cases h
  | case4 => cases h
  | case5 => cases h

omit [Tallied σ] in
/-- A part that has been filled **is as long as it should be**. -/
theorem Buffer.length_of_fill {buffer buffer' : Buffer} {s s' : σ}
    (h : buffer.fill s = (.complete, buffer', s')) :
    buffer'.bytes.length = buffer.size ∧ buffer'.size = buffer.size := by
  cases fills_of_fill h with
  | complete yields bytes_eq size_eq whole =>
    have := buffer'.length_bytes_add_missing
    exact ⟨by omega, size_eq⟩

theorem affords_skipBytes (remaining : Nat) (s : σ) : Affords s (skipBytes remaining s).2.2 := by
  fun_induction skipBytes remaining s with
  | case1 => exact .refl _
  | case2 remaining s some chunk s' read moved ih => exact (Brings.of_read read moved).affords ih
  | case3 remaining s some chunk s' read none => exact .of_read read
  | case4 remaining s some s' read => exact .of_read read
  | case5 remaining s some error s' read => exact .of_read read

/-- Bytes that have been stepped over **have been brought**. -/
theorem brings_of_skipBytes {remaining left : Nat} {s s' : σ}
    (h : skipBytes remaining s = (.complete, left, s')) : Brings remaining s s' := by
  fun_induction skipBytes remaining s with
  | case1 =>
    cases h
    exact .nothing _
  | case2 remaining s some chunk t read moved ih =>
    have le : chunk.bytes.length ≤ remaining := Nat.le_trans chunk.le (Nat.min_le_left ..)
    have brings := (Brings.of_read read moved).trans (ih h)
    rwa [Nat.add_sub_cancel' le] at brings
  | case3 => cases h
  | case4 => cases h
  | case5 => cases h

end Parts

/-! ## Reading a frame -/

/-- How many bytes of its frame a reader **has taken**, by where it stands. -/
def ReaderState.taken : ReaderState → Nat
  | idle => 0
  | commandLength buffer => 5 - buffer.missing
  | valueLength _ buffer => Frame.headerSize - buffer.missing
  | command buffer _ _ => Frame.headerSize + buffer.bytes.length
  | value kept buffer => Frame.headerSize + kept.length + buffer.bytes.length
  | skip remaining _ length length' => Frame.headerSize + length.toNat + length'.toNat - remaining

/-- Where a reader stands **says how many bytes it has taken** to come there. -/
theorem ReaderState.Stands.taken_eq {max : Nat} {state : ReaderState} {bytes : Bytes}
    (h : state.Stands max bytes) : state.taken = bytes.length := by
  cases h with
  | idle => rfl
  | @commandLength buffer size_eq =>
    have := buffer.length_bytes_add_missing
    simp only [taken, List.length_cons]
    omega
  | @valueLength commandLength buffer size_eq =>
    have := buffer.length_bytes_add_missing
    simp only [taken, List.length_cons, List.length_append, Bytes.length_ofNatBE, Frame.headerSize]
    omega
  | command => simp only [taken, List.length_append, Frame.length_header]
  | value length_eq =>
    simp only [taken, List.length_append, Frame.length_header]
    omega
  | skip length_eq =>
    simp only [taken, List.length_append, Frame.length_header]
    omega

namespace FrameReader

variable [Tallied σ]

/-- **What a step of reading costs**, and what it takes, if so much of the frame has been taken
before: there is at most one call that brings nothing, and none if the frame comes to its end; and
then all of the frame has come. -/
structure Effort (taken : Nat) (s : σ) (step : ReadStep σ) : Prop where
  affords : Affords s step.channel
  calls_le : step.outcome.endsFrame = true →
    calls step.channel + inbound step.channel ≤ calls s + inbound s
  bytes_le : step.outcome.endsFrame = true →
    inbound step.channel + step.outcome.size ≤ inbound s + taken

variable {s s₁ : σ} {taken taken₁ n : Nat}

/-- A step of reading **goes on after** bytes that have come. -/
theorem Effort.after {step : ReadStep σ} (brings : Brings n s s₁) (later : Effort taken₁ s₁ step)
    (le : taken₁ ≤ taken + n) : Effort taken s step where
  affords := brings.affords later.affords
  calls_le ends := Nat.le_trans (later.calls_le ends) brings.calls_le
  bytes_le ends := by
    have := later.bytes_le ends
    have := brings.bytes_le
    omega

/-- A step that **comes to no end** costs one call more. -/
theorem Effort.of_affords {step : ReadStep σ} (affords : Affords s step.channel)
    (open' : step.outcome.endsFrame = false) : Effort taken s step where
  affords := affords
  calls_le ends := absurd ends (Bool.eq_false_iff.mp open')
  bytes_le ends := absurd ends (Bool.eq_false_iff.mp open')

/-- A frame comes to its end **with the bytes that it lacked**. -/
theorem effort_finish {outcome : ReadOutcome} (brings : Brings n s s₁)
    (size_le : outcome.size ≤ taken + n) : Effort taken s (finish outcome s₁) where
  affords := brings.affords (.refl _)
  calls_le _ := brings.calls_le
  bytes_le _ := by
    have := brings.bytes_le
    show inbound s₁ + outcome.size ≤ _
    omega

/-- A part that is filled goes on with **what stands behind it**, by then with so much of the frame
taken, and one that is not stops. -/
theorem effort_fill (behind : Nat) {buffer : Buffer} {go : Buffer → σ → ReadStep σ}
    {stop : Buffer → ReaderState}
    (goes : ∀ buffer' s', buffer'.bytes.length = buffer.size → buffer'.size = buffer.size →
      Effort behind s' (go buffer' s')) (le : behind ≤ taken + buffer.missing) (s : σ) :
    Effort taken s (match buffer.fill s with
      | (.complete, buffer, s) => go buffer s
      | (.pending, buffer, s) => suspend (stop buffer) s
      | (.failed error, _, s) => fail error s) := by
  have affords := buffer.affords_fill s
  split
  · rename_i call
    obtain ⟨length_eq, size_eq⟩ := Buffer.length_of_fill call
    exact (goes _ _ length_eq size_eq).after (Buffer.brings_of_fill call) le
  · rename_i call
    rw [call] at affords
    exact .of_affords affords rfl
  · rename_i call
    rw [call] at affords
    exact .of_affords affords rfl

theorem effort_readSkipped (remaining : Nat) (command : Option Bytes)
    (commandLength valueLength : UInt32) (s : σ) :
    Effort (Frame.headerSize + commandLength.toNat + valueLength.toNat - remaining) s
      (readSkipped remaining command commandLength valueLength s) := by
  have affords := affords_skipBytes remaining s
  unfold readSkipped
  split
  · rename_i call
    refine effort_finish (brings_of_skipBytes call) ?_
    rw [ReadOutcome.size]
    omega
  · rename_i call
    rw [call] at affords
    exact .of_affords affords rfl
  · rename_i call
    rw [call] at affords
    exact .of_affords affords rfl

theorem effort_readValue (command : Bytes) (buffer : Buffer) (s : σ) :
    Effort (Frame.headerSize + command.length + buffer.bytes.length) s
      (readValue command buffer s) := by
  refine effort_fill (Frame.headerSize + command.length + buffer.size) ?_ ?_ s
  · intro buffer' s' length_eq _
    refine effort_finish (.nothing s') ?_
    show Frame.headerSize + command.length + buffer'.bytes.length ≤ _
    omega
  · have := buffer.length_bytes_add_missing
    omega

theorem effort_readCommand (buffer : Buffer) (valueLength : UInt32) (skipValue : Bool) (s : σ) :
    Effort (Frame.headerSize + buffer.bytes.length) s
      (readCommand buffer valueLength skipValue s) := by
  refine effort_fill (Frame.headerSize + buffer.size) ?_ ?_ s
  · intro buffer' s' length_eq size_eq
    split
    · -- the length that is kept is that of the part, as far as it fits
      have skips := effort_readSkipped valueLength.toNat (some buffer'.bytes)
        (UInt32.ofNat buffer'.size) valueLength s'
      refine skips.after (.nothing s') ?_
      have : (UInt32.ofNat buffer'.size).toNat ≤ buffer'.size := by
        rw [UInt32.toNat_ofNat']
        exact Nat.mod_le ..
      omega
    · refine (effort_readValue buffer'.bytes (.ofSize valueLength.toNat) s').after (.nothing s') ?_
      rw [length_eq, Buffer.bytes_ofSize, List.length_nil]
  · have := buffer.length_bytes_add_missing
    omega

theorem effort_readBody (max : Nat) (commandLength valueLength : UInt32) (s : σ) :
    Effort Frame.headerSize s (readBody max commandLength valueLength s) := by
  -- a part of which nothing has come is begun
  have command (skipValue : Bool) : Effort Frame.headerSize s
      (readCommand (.ofSize commandLength.toNat) valueLength skipValue s) :=
    effort_readCommand (.ofSize commandLength.toNat) valueLength skipValue s
  unfold readBody
  simp only
  split
  · exact command false
  · split
    · exact command true
    · refine (effort_readSkipped _ none commandLength valueLength s).after (.nothing s) ?_
      omega

theorem effort_readValueLength (max : Nat) (commandLength : UInt32) (buffer : Buffer) (s : σ) :
    Effort (Frame.headerSize - buffer.missing) s (readValueLength max commandLength buffer s) :=
  effort_fill Frame.headerSize (fun _ _ _ _ => effort_readBody ..) (by omega) s

theorem effort_readCommandLength (max : Nat) (buffer : Buffer) (s : σ) :
    Effort (5 - buffer.missing) s (readCommandLength max buffer s) :=
  effort_fill 5 (fun _ _ _ _ => effort_readValueLength max _ (.ofSize 4) _) (by omega) s

theorem effort_readMagic (max : Nat) (s : σ) : Effort 0 s (readMagic max s) := by
  unfold readMagic
  split
  · rename_i call
    exact .of_affords (.of_read call) rfl
  · rename_i found rest le s' call
    split
    · have one : 0 < (found :: rest).length := Nat.succ_pos _
      exact (effort_readCommandLength max (.ofSize 4) s').after (Brings.of_read call one)
        (Nat.le_trans one (Nat.le_add_left ..))
    · exact .of_affords (.of_read call) rfl
  · rename_i call
    exact .of_affords (.of_read call) rfl
  · rename_i call
    exact .of_affords (.of_read call) rfl

/-- **What every read costs**, and what it takes, wherever the reader stands. -/
theorem effort_resume (max : Nat) (state : ReaderState) (s : σ) :
    Effort state.taken s (resume max state s) := by
  cases state with
  | idle => exact effort_readMagic ..
  | commandLength buffer => exact effort_readCommandLength ..
  | valueLength commandLength buffer => exact effort_readValueLength ..
  | command buffer valueLength skipValue => exact effort_readCommand ..
  | value command buffer => exact effort_readValue ..
  | skip remaining command commandLength valueLength => exact effort_readSkipped ..

end FrameReader

/-! ## The passes of a call to receive -/

namespace Inbox

/-- **A call to receive** costs at most one call that brings nothing, however many frames it goes
through. -/
theorem affords_receiveFrom [Tallied σ] (c : Correlator η) (reader : FrameReader) (s : σ) :
    Affords s (receiveFrom c reader s).channel := by
  fun_induction receiveFrom c reader s with
  | case1 c reader s nothing => exact .refl s
  | case2 c reader s some read ends accepted events stop =>
    exact (FrameReader.effort_resume reader.maxFrameSize reader.state s).affords
  | case3 c reader s some read ends accepted events more later ih =>
    -- the end of a frame is paid for, so that what is left is still one call
    have paid : calls read.2.2 + inbound read.2.2 ≤ calls s + inbound s :=
      (FrameReader.effort_resume reader.maxFrameSize reader.state s).calls_le ends
    have fewer := (FrameReader.endsWithin_resume reader.maxFrameSize reader.state s).idle_le ends
    exact (⟨paid, fewer.2⟩ : Brings 0 s read.2.2).affords ih
  | case4 c reader s some read open' error failure failed c' all =>
    exact (FrameReader.effort_resume reader.maxFrameSize reader.state s).affords
  | case5 c reader s some read open' fine =>
    exact (FrameReader.effort_resume reader.maxFrameSize reader.state s).affords

end Inbox

/-- **Where a call to receive has come to**: what is known and who waits, where the reader stands,
and the channel. -/
structure Reading (η σ : Type) where
  correlator : Correlator η
  reader : FrameReader
  channel : σ

namespace Reading

/-- What the call does **from there on**. -/
def receive (r : Reading η σ) : Received η σ := Inbox.receiveFrom r.correlator r.reader r.channel

/-- What **the next read** comes to. -/
def read (r : Reading η σ) : ReadOutcome × FrameReader × σ := r.reader.read r.channel

/-- Where the call is **behind the next frame**. -/
def next (r : Reading η σ) : Reading η σ :=
  ⟨(r.correlator.accept r.read.1).correlator, r.read.2.1, r.read.2.2⟩

/-- The next pass **does not return**: there is something to read for, a frame comes to its end, and
it does not say to stop. -/
structure GoesOn (r : Reading η σ) : Prop where
  wanted : ¬ (!r.reader.inProgress && r.correlator.outstanding.isEmpty) = true
  ends : r.read.1.endsFrame = true
  more : ¬ (r.correlator.accept r.read.1).stop = true

/-- A pass that does not return leaves **the rest of the call** to the passes behind it. -/
theorem GoesOn.receive_eq {r : Reading η σ} (h : r.GoesOn) :
    r.receive =
      { r.next.receive with
        events := r.correlator.toldOf r.read.1 ++ r.next.receive.events } := by
  obtain ⟨c, reader, s⟩ := r
  obtain ⟨wanted, ends, more⟩ := h
  unfold read at ends more
  rw [receive, Inbox.receiveFrom, if_neg wanted]
  simp only
  rw [dif_pos ends, if_neg more]
  rfl

end Reading

/-- **The passes of a call to receive that do not return**, with what the frames come to. Each of
them takes at least the rest of one frame. -/
inductive Passes : Reading η σ → List ReadOutcome → Reading η σ → Prop
  | done (r : Reading η σ) : Passes r [] r
  | pass {r r' : Reading η σ} {ends : List ReadOutcome} (goesOn : r.GoesOn)
      (takes : inbound r.next.channel + r.read.1.size ≤ inbound r.channel + r.reader.state.taken)
      (later : Passes r.next ends r') : Passes r (r.read.1 :: ends) r'

/-- A frame is **never without a header**. -/
theorem ReadOutcome.headerSize_le_size {outcome : ReadOutcome} (ends : outcome.endsFrame = true) :
    Frame.headerSize ≤ outcome.size := by
  cases outcome with
  | pending => cases ends
  | frame content => exact Nat.le_trans (Nat.le_add_right ..) (Nat.le_add_right ..)
  | tooLarge => exact Nat.le_trans (Nat.le_add_right ..) (Nat.le_add_right ..)
  | failed => cases ends

/-- **There are not many passes** that do not return: even an empty frame takes its header. -/
theorem Passes.length_le {r r' : Reading η σ} {ends : List ReadOutcome} (h : Passes r ends r') :
    Frame.headerSize * ends.length ≤ inbound r.channel + r.reader.state.taken := by
  induction h with
  | done => exact Nat.zero_le _
  | @pass r r' ends goesOn takes later ih =>
    -- behind a frame nothing has been taken of the next one
    have idle : r.next.reader.state = .idle :=
      ((FrameReader.endsWithin_resume r.reader.maxFrameSize r.reader.state r.channel).idle_le
        goesOn.ends).1
    rw [idle, ReaderState.taken, Nat.add_zero] at ih
    have := ReadOutcome.headerSize_le_size goesOn.ends
    rw [List.length_cons, Nat.mul_succ]
    omega

/-- **Every call to receive** makes some passes that do not return, and one that does. -/
theorem Reading.exists_passes [Tallied σ] (r : Reading η σ) :
    ∃ ends last, Passes r ends last ∧ ¬ last.GoesOn ∧
      r.receive =
        { last.receive with events := r.correlator.told ends ++ last.receive.events } := by
  by_cases goesOn : r.GoesOn
  · -- the reader has less to do behind each frame
    have fewer : r.next.reader.work r.next.channel < r.reader.work r.channel :=
      FrameReader.work_read_lt goesOn.ends
    obtain ⟨ends, last, passes, returns, receive_eq⟩ := exists_passes r.next
    have effort := FrameReader.effort_resume r.reader.maxFrameSize r.reader.state r.channel
    have takes := effort.bytes_le goesOn.ends
    refine ⟨_, last, .pass goesOn takes passes, returns, ?_⟩
    rw [goesOn.receive_eq, receive_eq, Correlator.told_cons, List.append_assoc]
    rfl
  · exact ⟨[], r, .done r, goesOn, rfl⟩
termination_by r.reader.work r.channel

/-! ## Sending -/

namespace FrameWriter

variable [Tallied σ]

theorem calls_flush_le (s : σ) : calls (flush s).2 ≤ calls s + 1 := by
  unfold flush
  split
  · rename_i call
    exact Nat.le_of_eq (Channel.calls_of_flush call)
  · rename_i call
    exact Nat.le_of_eq (Channel.calls_of_flush call)
  · rename_i call
    exact Nat.le_of_eq (Channel.calls_of_flush call)

/-- **Writing what is left of a frame** costs at most one call for each byte, and one to flush. -/
theorem calls_writeBytes_le (left : Bytes) (s : σ) :
    calls (writeBytes left s).2.2 ≤ calls s + left.length + 1 := by
  -- a write that stops leaves at least one byte that has cost nothing yet
  have stops {b : UInt8} {rest : Bytes} {s s' : σ}
      {transfer : Transfer (Taken (b :: rest).length)}
      (write : Channel.write s (b :: rest) = (transfer, s')) :
      calls s' ≤ calls s + (b :: rest).length + 1 := by
    have one := Channel.calls_of_write write
    omega
  fun_induction writeBytes left s with
  | case1 s outcome s' flushed =>
    have one := calls_flush_le s
    rwa [flushed] at one
  | case2 s b rest taken s' write some ih =>
    have one := Channel.calls_of_write write
    have le := taken.le
    rw [List.length_drop] at ih
    omega
  | case3 s b rest taken s' write none => exact stops write
  | case4 s b rest s' write => exact stops write
  | case5 s b rest error s' write => exact stops write

end FrameWriter

namespace Outbox

/-- The **bytes that are still to be written** of the requests that are not entirely written. -/
def unwritten (outbox : Outbox η) : Bytes :=
  (outbox.current.map (·.writer.left)).getD [] ++ outbox.queue.flatMap QueuedRequest.frame

/-- **Writing the current request and those behind it** costs at most one call for each byte, and
one to flush behind each frame. -/
theorem calls_sendFrom_le [Tallied σ] (request : InFlight η) (queue : List (QueuedRequest η))
    (inbox : Inbox η) (s : σ) :
    calls (sendFrom request queue inbox s).channel ≤ calls s +
      (request.writer.left ++ queue.flatMap QueuedRequest.frame).length + (queue.length + 1) := by
  -- what a pass costs, by what the frame that is written still lacks
  have pass {request : InFlight η} {s s' : σ} {outcome : WriteOutcome} {writer : FrameWriter}
      (write : request.writer.write s = (outcome, writer, s')) :
      calls s' ≤ calls s + request.writer.left.length + 1 := by
    have cost := FrameWriter.calls_writeBytes_le request.writer.left s
    cases write
    exact cost
  rw [List.length_append]
  fun_induction sendFrom request queue inbox s with
  | case1 queue request inbox s writer s' took write =>
    have one := pass write
    show calls s' ≤ _
    omega
  | case2 queue request inbox s writer s' took error status failed write =>
    have one := pass write
    show calls s' ≤ _
    omega
  | case3 request inbox s writer s' took released inbox' release events write =>
    have one := pass write
    show calls s' ≤ _
    omega
  | case4 request inbox s writer s' took released inbox' release events next queue later write ih =>
    have one := pass write
    have rest : calls later.channel ≤ calls s' +
        (next.frame.length + (queue.flatMap QueuedRequest.frame).length) + (queue.length + 1) := ih
    rw [List.flatMap_cons, List.length_append, List.length_cons]
    show calls later.channel ≤ _
    omega

/-- **A call to send** costs at most one call for each byte that is still to be written, and one to
flush for each request. -/
theorem calls_send_le [Tallied σ] (outbox : Outbox η) (inbox : Inbox η) (s : σ) :
    calls (outbox.send inbox s).channel ≤
      calls s + outbox.unwritten.length + outbox.pending := by
  obtain ⟨signer, identity, hmacKey, queue, current, nextSequence, failed⟩ := outbox
  unfold send
  split
  · exact Nat.le_trans (Nat.le_add_right ..) (Nat.le_add_right ..)
  · cases current with
    | some request => exact calls_sendFrom_le request queue inbox s
    | none =>
      cases queue with
      | nil => exact Nat.le_refl _
      | cons next queue =>
        exact calls_sendFrom_le next.begin queue inbox s

end Outbox

/-! ## The passes of a call to send -/

namespace Writing

/-- The next pass **does not return**: the frame comes to be out, and there is one behind it. -/
def GoesOn (w : Writing η σ) : Prop :=
  (w.request.writer.write w.channel).1 = .done ∧ w.queue ≠ []

/-- **Every call to send** that has something to write makes some passes that do not return, each of
which gets a request out, and one that does. -/
theorem exists_ships (w : Writing η σ) :
    ∃ out events last, Ships w out events last ∧ ¬ last.GoesOn ∧
      w.send = { last.send with events := events ++ last.send.events } := by
  obtain ⟨request, queue, inbox, s⟩ := w
  induction queue generalizing request inbox s with
  | nil => exact ⟨[], [], _, .done _, fun goesOn => goesOn.2 rfl, rfl⟩
  | cons next queue ih =>
    by_cases done : (request.writer.write s).1 = .done
    · obtain ⟨out, events, last, ships, returns, send_eq⟩ :=
        ih next.begin (Outbox.release request inbox).2 (request.writer.write s).2.2
      have write : request.writer.write s =
          (.done, (request.writer.write s).2.1, (request.writer.write s).2.2) := by
        rw [← done]
      refine ⟨_, _, last, .frame rfl write ships, returns, ?_⟩
      unfold Writing.send at send_eq ⊢
      rw [Outbox.sendFrom, write]
      simp only at send_eq ⊢
      rw [send_eq, List.append_assoc]
      rfl
    · exact ⟨[], [], _, .done _, fun goesOn => done goesOn.1, rfl⟩

end Writing

/-! ## Every call -/

/-- **Every read, every call to receive and every call to send comes to an end**, whatever the
channel does and whatever comes in. A read costs at most one call to the channel more than there are
bytes to come, and so does a call to receive. That makes some passes that do not return, each of
which takes at least the rest of a frame, and then one that does; there are no more of them than
headers fit into the bytes. A call to send costs at most one call for each byte that is still to be
written, and one to flush for each request. Each of its passes that do not return gets a request
out. -/
theorem calls_are_bounded [Tallied σ] (reader : FrameReader) (inbox : Inbox η) (outbox : Outbox η)
    (s : σ) :
    calls (reader.read s).2.2 ≤ calls s + inbound s + 1 ∧
    calls (inbox.receive s).channel ≤ calls s + inbound s + 1 ∧
    ((inbox.receive s).channel = s ∨
      ∃ ends last, Passes ⟨inbox.correlator, inbox.reader, s⟩ ends last ∧ ¬ last.GoesOn ∧
        inbox.receive s =
          { last.receive with events := inbox.correlator.told ends ++ last.receive.events } ∧
        Frame.headerSize * ends.length ≤ inbound s + inbox.reader.state.taken) ∧
    calls (outbox.send inbox s).channel ≤ calls s + outbox.unwritten.length + outbox.pending ∧
    ((outbox.send inbox s).channel = s ∨
      ∃ first out events last, first.tickets = outbox.unsent ∧ first.inbox = inbox ∧
        first.channel = s ∧ Ships first out events last ∧ ¬ last.GoesOn ∧
        (outbox.send inbox s).channel = last.send.channel ∧
        (outbox.send inbox s).events = events ++ last.send.events ∧
        outbox.unsent = out ++ last.tickets) := by
  refine ⟨(FrameReader.effort_resume reader.maxFrameSize reader.state s).affords, ?_, ?_,
    outbox.calls_send_le inbox s, ?_⟩
  · unfold Inbox.receive
    split
    · exact Affords.refl s
    · exact Inbox.affords_receiveFrom inbox.correlator inbox.reader s
  · by_cases dead : inbox.failed = true
    · left
      rw [Inbox.receive, if_pos dead]
    · right
      obtain ⟨ends, last, passes, returns, receive_eq⟩ :=
        Reading.exists_passes ⟨inbox.correlator, inbox.reader, s⟩
      refine ⟨ends, last, passes, returns, ?_, passes.length_le⟩
      rw [Inbox.receive, if_neg dead]
      exact receive_eq
  · by_cases dead : outbox.failed = true
    · left
      rw [Outbox.send, if_pos dead]
    · by_cases nothing : outbox.unsent = []
      · left
        rw [Outbox.send_of_nothing (Bool.eq_false_iff.mpr dead) nothing]
      · right
        obtain ⟨first, tickets_eq, inbox_eq, channel_eq, send_eq⟩ :=
          Outbox.exists_writing (Bool.eq_false_iff.mpr dead) nothing inbox s
        obtain ⟨out, events, last, ships, returns, first_eq⟩ := first.exists_ships
        refine ⟨first, out, events, last, tickets_eq, inbox_eq, channel_eq, ships, returns, ?_, ?_,
          ?_⟩
        · rw [send_eq, first_eq]
        · rw [send_eq, first_eq]
        · rw [← tickets_eq, ships.tickets_eq]

end DriveLink
