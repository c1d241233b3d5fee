import DriveLink.Proofs.Pipeline.Hearing

/-! # A drive that answers

A drive hears what is written to it and answers each request once the last byte of its frame is in.
Its channel moves as many bytes in a call as its pace allows, perhaps none. So a request may be
heard long before its writer learns that it is out, and an answer may come in many pieces.

* `Responder` — such a drive, and what it says to the requests that it has heard;
* `Responder.Hears`, `Responder.Takes` — what it has heard, and how it takes one request more;
* `Responder.Writes`, `Responder.writes_writeBytes` — what writing a request comes to;
* `Responder.Meets`, `Responder.meets_read` — what reading an answer comes to. -/

namespace DriveLink

open Simulation (HeardRequest)
open Channel (Yields Vain Broke)

/-- A **drive that answers**. To the last of the requests that it has heard, it says what `speak`
says. -/
structure Responder (speak : List HeardRequest → Bytes) where
  /-- The most bytes that each of the next calls moves. Where that is none, the call would have to
  wait. All calls after those move what they can. -/
  paces : List Nat := []
  /-- All that has been written. -/
  heard : Bytes := []
  /-- What has been said and not been read. -/
  incoming : Bytes := []

namespace Responder

variable {speak : List HeardRequest → Bytes}

/-! ## The channel -/

/-- How many of some bytes the next call **moves**. -/
def pace (drive : Responder speak) (wanted : Nat) : Nat :=
  match drive.paces with
  | [] => wanted
  | most :: _ => min most wanted

/-- The drive **after a call**. -/
def next (drive : Responder speak) : Responder speak := { drive with paces := drive.paces.tail }

/-- What a drive says to some requests, **one after the other**. -/
def replies (speak : List HeardRequest → Bytes) (past : List HeardRequest) :
    List HeardRequest → Bytes
  | [] => []
  | request :: later => speak (past ++ [request]) ++ replies speak (past ++ [request]) later

/-- **Hear** some bytes, and answer the requests of which they are the last. -/
def hear (drive : Responder speak) (bytes : Bytes) : Responder speak :=
  let past := heardIn drive.heard
  let heard := drive.heard ++ bytes
  { drive with
    heard, incoming := drive.incoming ++ replies speak past ((heardIn heard).drop past.length) }

/-- **Read** what has been said. -/
def read (drive : Responder speak) (limit : Nat) :
    Transfer (Chunk limit) × Responder speak :=
  let chunk : Chunk limit := .front limit (drive.incoming.take (drive.pace drive.incoming.length))
  if chunk.bytes = [] then (.wouldBlock, drive.next)
  else (.progress chunk, { drive.next with incoming := drive.incoming.drop chunk.bytes.length })

/-- **Write** to a drive that hears. -/
def write (drive : Responder speak) (offered : Bytes) :
    Transfer (Taken offered.length) × Responder speak :=
  let taken : Taken offered.length := .upTo offered.length (drive.pace offered.length)
  if taken.count = 0 then (.wouldBlock, drive.next)
  else (.progress taken, drive.next.hear (offered.take taken.count))

/-- Flushing moves nothing, but it may have to **wait** like any other call. -/
def flush (drive : Responder speak) : Transfer Nat × Responder speak :=
  if drive.pace 1 = 0 then (.wouldBlock, drive.next) else (.progress 0, drive.next)

variable {drive drive' : Responder speak} {limit : Nat} {offered : Bytes}

theorem paces_next_le (drive : Responder speak) : drive.next.paces.length ≤ drive.paces.length := by
  rw [next, List.length_tail]
  omega

/-- A call that moves nothing of what there is **uses up a pace**. -/
theorem paces_next_lt {wanted : Nat} (none : drive.pace wanted = 0) (some : 0 < wanted) :
    drive.next.paces.length < drive.paces.length := by
  unfold pace at none
  split at none
  · omega
  · rename_i paces_eq
    rw [next, paces_eq]
    exact Nat.lt_succ_self _

/-- **What a read moves** stands in front of what has been said. -/
theorem read_progress {chunk : Chunk limit} (h : drive.read limit = (.progress chunk, drive')) :
    drive.incoming = chunk.bytes ++ drive'.incoming ∧ drive'.heard = drive.heard ∧
      drive'.paces.length ≤ drive.paces.length ∧ chunk.bytes ≠ [] := by
  unfold read at h
  simp only at h
  split at h
  · cases h
  · rename_i some
    cases h
    refine ⟨?_, rfl, drive.paces_next_le, some⟩
    have front := (List.take_prefix limit _).trans
      (List.take_prefix (drive.pace drive.incoming.length) drive.incoming)
    exact (List.prefix_iff_eq_append.mp front).symm

/-- A read that moves nothing **uses up a pace**, if there is something to read. -/
theorem read_wouldBlock (h : drive.read limit = (.wouldBlock, drive')) :
    drive' = drive.next ∧
      (0 < limit → drive.incoming ≠ [] → drive.next.paces.length < drive.paces.length) := by
  unfold read at h
  simp only at h
  split at h
  · rename_i nothing
    cases h
    refine ⟨rfl, fun wants some => paces_next_lt ?_ (List.length_pos_iff.mpr some)⟩
    rw [Chunk.front, List.take_eq_nil_iff, List.take_eq_nil_iff] at nothing
    rcases nothing with none | none | none
    · omega
    · exact none
    · exact absurd none some
  · cases h

theorem read_ne_failed (drive drive' : Responder speak) (limit : Nat) (error : IoError) :
    drive.read limit ≠ (.failed error, drive') := by
  unfold read
  simp only
  split <;> exact fun h => by cases h

/-- **What a write moves** is heard. -/
theorem write_progress {taken : Taken offered.length}
    (h : drive.write offered = (.progress taken, drive')) :
    drive' = drive.next.hear (offered.take taken.count) ∧ 0 < taken.count := by
  unfold write at h
  simp only at h
  split at h
  · cases h
  · rename_i some
    cases h
    exact ⟨rfl, Nat.pos_of_ne_zero some⟩

/-- A write that moves nothing **uses up a pace**, if there is something to write. -/
theorem write_wouldBlock (h : drive.write offered = (.wouldBlock, drive')) :
    drive' = drive.next ∧
      (offered ≠ [] → drive.next.paces.length < drive.paces.length) := by
  unfold write at h
  simp only at h
  split at h
  · rename_i nothing
    cases h
    refine ⟨rfl, fun some => ?_⟩
    have wanted := List.length_pos_iff.mpr some
    simp only [Taken.upTo] at nothing
    exact paces_next_lt (by omega) wanted
  · cases h

theorem write_ne_failed (drive drive' : Responder speak) (offered : Bytes) (error : IoError) :
    drive.write offered ≠ (.failed error, drive') := by
  unfold write
  simp only
  split <;> exact fun h => by cases h

/-- A drive that answers is a channel. -/
instance : Channel (Responder speak) where
  read := read
  write := write
  flush := flush
  inbound drive := drive.incoming.length
  read_inbound h := by
    rw [(read_progress h).1, List.length_append]
    omega

/-- Nobody **waits for a drive that answers** but for its pace. -/
instance : Pollable (Responder speak) where
  now _ := 0
  sleep drive _ := drive
  hasSource _ := false
  register drive _ _ := (.ok (), drive)
  reregister drive _ _ := (.ok (), drive)
  deregister drive _ := (.ok (), drive)
  poll drive _ := (.ok true, drive)

/-! ## What the drive has heard -/

/-- **The requests that a drive has heard**, and the first bytes of one more. -/
def Hears (drive : Responder speak) (past : List HeardRequest) (part : Bytes) : Prop :=
  ∃ frames, List.Forall₂ Frame.Heard frames past ∧ drive.heard = frames.flatten ++ part

/-- **How a drive takes a request**: it has heard the first bytes of the frame and nothing has come
of it, or it has heard all of them and answered. -/
inductive Takes (past : List HeardRequest) (request : HeardRequest) (frame said : Bytes) :
    (left : Bytes) → Responder speak → Prop
  | part {drive : Responder speak} {part left : Bytes} (hears : drive.Hears past part)
      (frame_eq : part ++ left = frame) (short : left ≠ []) (incoming_eq : drive.incoming = said) :
      Takes past request frame said left drive
  | whole {drive : Responder speak} (hears : drive.Hears (past ++ [request]) [])
      (incoming_eq : drive.incoming = said ++ speak (past ++ [request])) :
      Takes past request frame said [] drive

variable {past : List HeardRequest} {request : HeardRequest} {frame said part left : Bytes}

theorem Hears.heardIn_eq (h : drive.Hears past part)
    (short : ∀ max, Frame.parseOne max part = none) : heardIn drive.heard = past := by
  obtain ⟨frames, heard, heard_eq⟩ := h
  rw [heard_eq]
  exact heardIn_of_heard heard short

/-- **Hearing the next bytes** of a frame, perhaps the last ones. -/
theorem takes_hear (heard : Frame.Heard frame request) {bytes : Bytes}
    (hears : drive.Hears past part) (frame_eq : part ++ (bytes ++ left) = frame)
    (short : bytes ++ left ≠ []) :
    (drive.hear bytes).Takes past request frame drive.incoming left := by
  obtain ⟨content, frame_eq', fits, asked⟩ := heard
  have before : heardIn drive.heard = past :=
    hears.heardIn_eq (Frame.parseOne_eq_none fits (frame_eq.trans frame_eq') short)
  obtain ⟨frames, all, heard_eq⟩ := hears
  have whole : (drive.hear bytes).heard = frames.flatten ++ (part ++ bytes) := by
    rw [hear, heard_eq, List.append_assoc]
  have incoming_eq {later : List HeardRequest}
      (after : heardIn (drive.hear bytes).heard = past ++ later) :
      (drive.hear bytes).incoming = drive.incoming ++ replies speak past later := by
    have after : heardIn (drive.heard ++ bytes) = past ++ later := after
    simp only [hear]
    rw [after, before, List.drop_left]
  rw [← List.append_assoc] at frame_eq
  by_cases last : left = []
  · -- with the last byte, the frame is one more that has been heard
    subst last
    rw [List.append_nil] at frame_eq
    have more : (drive.hear bytes).Hears (past ++ [request]) [] := by
      have one : List.Forall₂ Frame.Heard [frame] [request] :=
        .cons ⟨content, frame_eq', fits, asked⟩ .nil
      refine ⟨frames ++ [frame], List.rel_append all one, ?_⟩
      rw [whole, frame_eq, List.flatten_append, List.flatten_singleton, List.append_nil]
    refine .whole more ?_
    rw [incoming_eq (more.heardIn_eq fun _ => rfl), replies, replies, List.append_nil]
  · have more : (drive.hear bytes).Hears past (part ++ bytes) := ⟨frames, all, whole⟩
    refine .part more frame_eq last ?_
    have after := more.heardIn_eq
      (Frame.parseOne_eq_none fits (frame_eq.trans frame_eq') last)
    rw [incoming_eq (after.trans (List.append_nil past).symm), replies, List.append_nil]

/-! ## Writing a request -/

theorem Hears.next (h : drive.Hears past part) : drive.next.Hears past part := h

/-- A frame that has **not been begun**. -/
theorem takes_of_hears (heard : Frame.Heard frame request) (hears : drive.Hears past []) :
    drive.Takes past request frame drive.incoming frame := by
  obtain ⟨content, frame_eq, -⟩ := heard
  refine .part hears (List.nil_append frame) ?_ rfl
  rw [frame_eq, Frame.encode]
  exact List.cons_ne_nil _ _

theorem Takes.next (h : drive.Takes past request frame said left) :
    drive.next.Takes past request frame said left := by
  cases h with
  | part hears frame_eq short incoming_eq => exact .part hears frame_eq short incoming_eq
  | whole hears incoming_eq => exact .whole hears incoming_eq

theorem flush_eq (drive : Responder speak) :
    FrameWriter.flush drive =
      if drive.pace 1 = 0 then (.pending, drive.next) else (.done, drive.next) := by
  have flush_eq : Channel.flush drive = drive.flush := rfl
  rw [FrameWriter.flush, flush_eq, flush]
  by_cases none : drive.pace 1 = 0
  · rw [if_pos none, if_pos none]
  · rw [if_neg none, if_neg none]

/-- **What writing a request comes to**: it is out, or the drive has taken some bytes of it, perhaps
all, and a pace is used up. -/
inductive Writes (drive : Responder speak) (past : List HeardRequest) (request : HeardRequest)
    (frame said : Bytes) : WriteOutcome × Bytes × Responder speak → Prop
  | done {drive' : Responder speak} (hears : drive'.Hears (past ++ [request]) [])
      (incoming_eq : drive'.incoming = said ++ speak (past ++ [request]))
      (fewer : drive'.paces.length ≤ drive.paces.length) :
      Writes drive past request frame said (.done, [], drive')
  | pending {left : Bytes} {drive' : Responder speak}
      (takes : drive'.Takes past request frame said left)
      (less : drive'.paces.length < drive.paces.length) :
      Writes drive past request frame said (.pending, left, drive')

/-- A request that is written **after some of it** has been written before. -/
theorem Writes.after {step : WriteOutcome × Bytes × Responder speak}
    (h : drive'.Writes past request frame said step)
    (fewer : drive'.paces.length ≤ drive.paces.length) :
    drive.Writes past request frame said step := by
  cases h with
  | done hears incoming_eq fewer' => exact .done hears incoming_eq (fewer'.trans fewer)
  | pending takes less => exact .pending takes (less.trans_le fewer)

theorem writes_writeBytes (heard : Frame.Heard frame request)
    (takes : drive.Takes past request frame said left) :
    drive.Writes past request frame said (FrameWriter.writeBytes left drive) := by
  fun_induction FrameWriter.writeBytes left drive with
  | case1 drive outcome drive' flushed =>
    rw [flush_eq] at flushed
    split at flushed
    · rename_i none
      cases flushed
      exact .pending takes.next (paces_next_lt none Nat.one_pos)
    · cases flushed
      cases takes with
      | part _ _ short => exact absurd rfl short
      | whole hears incoming_eq => exact .done hears incoming_eq drive.paces_next_le
  | case2 drive b rest taken drive' write some ih =>
    obtain ⟨rfl, -⟩ := write_progress write
    cases takes with
    | part hears frame_eq short incoming_eq =>
      rw [← List.take_append_drop taken.count (b :: rest)] at frame_eq short
      have takes := takes_hear heard hears.next frame_eq short
      exact (ih (incoming_eq ▸ takes)).after drive.paces_next_le
  | case3 drive b rest taken drive' write none => exact absurd (write_progress write).2 none
  | case4 drive b rest drive' write =>
    obtain ⟨rfl, less⟩ := write_wouldBlock write
    exact .pending takes.next (less (List.cons_ne_nil b rest))
  | case5 drive b rest error drive' write => exact absurd write (write_ne_failed _ _ _ _)

/-! ## Reading an answer -/

/-- **What a drive yields** stands in front of what it has said. -/
theorem incoming_of_yields {bytes : Bytes} (h : Yields drive bytes drive') :
    drive.incoming = bytes ++ drive'.incoming ∧ drive'.heard = drive.heard ∧
      drive'.paces.length ≤ drive.paces.length := by
  induction h with
  | nothing drive => exact ⟨rfl, rfl, Nat.le_refl _⟩
  | progress read _ ih =>
    obtain ⟨front, same, fewer, -⟩ := read_progress read
    obtain ⟨front', same', fewer'⟩ := ih
    refine ⟨?_, same'.trans same, fewer'.trans fewer⟩
    rw [front, front', List.append_assoc]
  | @wouldBlock drive s drive' limit bytes read _ ih =>
    obtain ⟨rfl, -⟩ := read_wouldBlock read
    exact ⟨ih.1, ih.2.1, ih.2.2.trans drive.paces_next_le⟩
  | failed read _ _ => exact absurd read (read_ne_failed _ _ _ _)

/-- **Asking in vain uses up a pace**, unless the drive has nothing more to say. -/
theorem paces_of_vain (h : Vain drive drive') :
    drive' = drive.next ∧
      (drive.incoming = [] ∨ drive'.paces.length < drive.paces.length) := by
  cases h with
  | wouldBlock wants read =>
    obtain ⟨rfl, less⟩ := read_wouldBlock read
    by_cases none : drive.incoming = []
    · exact ⟨rfl, .inl none⟩
    · exact ⟨rfl, .inr (less wants none)⟩
  | nothing wants read none => exact absurd none (read_progress read).2.2.2

/-- **What a reader meets** that has taken the first bytes of an answer: the rest of it, or some of
that, and then a pace is used up. What is behind the answer stays where it is. -/
inductive Meets (drive : Responder speak) (max : Nat) (taken : Bytes) (answer : Frame)
    (behind : Bytes) : ReadOutcome × FrameReader × Responder speak → Prop
  | pending {state : ReaderState} {bytes left : Bytes} {drive' : Responder speak}
      (answer_eq : taken ++ bytes ++ left = answer.encode)
      (stands : state.Stands max (taken ++ bytes)) (short : 0 < state.missing)
      (heard_eq : drive'.heard = drive.heard) (incoming_eq : drive'.incoming = left ++ behind)
      (less : drive'.paces.length < drive.paces.length) :
      Meets drive max taken answer behind (.pending, ⟨max, state⟩, drive')
  | whole {drive' : Responder speak} (heard_eq : drive'.heard = drive.heard)
      (incoming_eq : drive'.incoming = behind)
      (fewer : drive'.paces.length ≤ drive.paces.length) :
      Meets drive max taken answer behind (.frame answer, ⟨max, .idle⟩, drive')

theorem meets_read {max : Nat} {state : ReaderState} {taken behind : Bytes} {answer : Frame}
    (stands : state.Stands max taken) (fits : answer.Fits max)
    (lies : taken ++ drive.incoming = answer.encode ++ behind) :
    drive.Meets max taken answer behind (FrameReader.read ⟨max, state⟩ drive) := by
  have parsed := Frame.parseOne_whole (Frame.whole_encode fits)
  have reads := FrameReader.reads_resume stands drive
  unfold FrameReader.read
  generalize FrameReader.resume max state drive = step at reads ⊢
  cases reads with
  | @pending state' bytes s drive' yields vain stands' short' =>
    obtain ⟨front, same, fewer⟩ := incoming_of_yields yields
    obtain ⟨rfl, vain⟩ := paces_of_vain vain
    rw [front, ← List.append_assoc] at lies
    -- the reader has not come to the end of the answer
    have unparsed := Frame.parseOne_stands stands' short'
    rcases List.append_eq_append_iff.mp lies with ⟨left, answer_eq, left_eq⟩ | ⟨more, beyond, -⟩
    · refine .pending answer_eq.symm stands' short' same left_eq ?_
      rcases vain with nothing | less
      · rw [nothing] at left_eq
        rw [(List.append_eq_nil_iff.mp left_eq.symm).1, List.append_nil] at answer_eq
        rw [← answer_eq, ← List.append_nil answer.encode, parsed []] at unparsed
        cases unparsed
      · exact less.trans_le fewer
    · rw [beyond, parsed] at unparsed
      cases unparsed
  | @ended outcome bytes drive' yields whole =>
    obtain ⟨front, same, fewer⟩ := incoming_of_yields yields
    rw [front, ← List.append_assoc] at lies
    have found := parsed behind
    rw [← lies, Frame.parseOne_whole whole] at found
    cases found
    exact .whole same rfl fewer
  | @badMagic found drive' yields fresh bad =>
    obtain ⟨front, -⟩ := incoming_of_yields yields
    rw [front, fresh, Frame.encode] at lies
    simp only [List.nil_append, List.cons_append, List.cons.injEq] at lies
    exact absurd lies.1 bad
  | broken yields broke =>
    obtain ⟨limit, -, failed⟩ := broke
    exact absurd failed (read_ne_failed _ _ limit _)

end Responder

end DriveLink
