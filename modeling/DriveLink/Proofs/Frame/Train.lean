import DriveLink.Proofs.Frame.Schedule
import Mathlib.Data.List.Forall2

/-! # Frames one behind the other

A train of frames that were written one behind the other is read as those frames, whatever their
sizes and however their bytes come in. A frame that is too large for the reader is told of by its
true lengths, and the next one is read as if it had not been there.

* `Frame.Arrives` — what a reader makes of a frame that was written;
* `Frame.parse_train` — parsing a train of frames;
* `FrameReader.train_arrives` — reading a train of frames, whatever pieces it comes in. -/

namespace DriveLink

namespace Frame

/-- **What a frame comes to** at a reader that accepts bodies of at most `max` bytes: it is read as
it is, or told of by its true lengths, with the command section just if that alone is not too
large. -/
inductive Arrives (max : Nat) (frame : Frame) : ReadOutcome → Prop
  | whole (le : frame.command.length + frame.value.length ≤ max) :
      Arrives max frame (.frame frame)
  | tooLarge {commandLength valueLength : UInt32}
      (lt : max < frame.command.length + frame.value.length)
      (command_eq : commandLength.toNat = frame.command.length)
      (value_eq : valueLength.toNat = frame.value.length) :
      Arrives max frame (.tooLarge
        (if frame.command.length ≤ max then some frame.command else none) commandLength valueLength)

variable {max : Nat} {frame : Frame} {frames : List Frame}

/-- What a frame comes to has taken **as many bytes as the frame has**. -/
theorem Arrives.size_eq {outcome : ReadOutcome} (h : Arrives max frame outcome) :
    outcome.size = frame.encode.length := by
  rw [length_encode]
  cases h with
  | whole => rfl
  | tooLarge _ command_eq value_eq => rw [ReadOutcome.size, command_eq, value_eq]

/-- The bytes of a frame whose lengths fit are whole, and come **to what the frame comes to**. -/
theorem exists_arrives (fits : checkLengths frame.command.length frame.value.length = .ok ())
    (max : Nat) : ∃ outcome, Whole max frame.encode outcome ∧ Arrives max frame outcome := by
  obtain ⟨command_le, value_le⟩ := checkLengths_eq_ok_iff.mp fits
  have command_eq := toNat_ofNat_of_le command_le
  have value_eq := toNat_ofNat_of_le value_le
  refine ⟨_, whole_encode_of_checkLengths fits max, ?_⟩
  rw [verdict, command_eq, value_eq, List.take_left, List.drop_left]
  by_cases le : frame.command.length + frame.value.length ≤ max
  · rw [if_pos le]
    exact .whole le
  · rw [if_neg le]
    have arrives := Arrives.tooLarge (Nat.not_le.mp le) command_eq value_eq
    by_cases kept : frame.command.length ≤ max
    · rwa [if_pos kept] at arrives ⊢
    · rwa [if_neg kept] at arrives ⊢

/-- **A train of frames is parsed** to what each of them comes to, and nothing is left over. -/
theorem parse_train (max : Nat)
    (fit : ∀ frame ∈ frames, checkLengths frame.command.length frame.value.length = .ok ()) :
    ∃ outcomes, parse max (frames.flatMap encode) = (outcomes, []) ∧
      List.Forall₂ (Arrives max) frames outcomes := by
  induction frames with
  | nil => exact ⟨[], parse_nil max, .nil⟩
  | cons frame frames ih =>
    obtain ⟨outcome, whole, arrives⟩ := exists_arrives (fit frame (List.mem_cons_self ..)) max
    obtain ⟨outcomes, parsed, arrive⟩ := ih fun other mem => fit other (List.mem_cons_of_mem _ mem)
    refine ⟨outcome :: outcomes, ?_, .cons arrives arrive⟩
    rw [List.flatMap_cons, parse_whole whole, parsed]

/-- A train of frames has **the bytes of what they come to**. -/
theorem length_train {outcomes : List ReadOutcome}
    (arrive : List.Forall₂ (Arrives max) frames outcomes) :
    (frames.flatMap encode).length = (outcomes.map ReadOutcome.size).sum := by
  induction arrive with
  | nil => rfl
  | cons arrives _ ih =>
    rw [List.flatMap_cons, List.length_append, ih, List.map_cons, List.sum_cons, arrives.size_eq]

/-- **Where a train is cut** between two outcomes, it is cut between two frames. -/
theorem exists_cut {taken rest : Bytes} {done later : List ReadOutcome}
    (train : taken ++ rest = frames.flatMap encode)
    (arrive : List.Forall₂ (Arrives max) frames (done ++ later))
    (length_eq : taken.length = (done.map ReadOutcome.size).sum) :
    ∃ sooner remaining, frames = sooner ++ remaining ∧
      List.Forall₂ (Arrives max) sooner done ∧ rest = remaining.flatMap encode := by
  refine ⟨frames.take done.length, frames.drop done.length,
    (List.take_append_drop _ _).symm, List.forall₂_take_append _ _ _ arrive, ?_⟩
  -- the frames of the outcomes so far have as many bytes as were taken
  have front := List.forall₂_take_append _ _ _ arrive
  rw [← List.take_append_drop done.length frames, List.flatMap_append] at train
  exact (List.append_inj train (length_eq.trans (length_train front).symm)).2

end Frame

namespace FrameReader

open DriveLink.Frame (Arrives)

/-- **A train of frames is read as those frames**, in whatever pieces it comes. A new reader that is
called often enough comes to one outcome for each of them, in their order, and to no other. And
after every call that comes to one, it is between two frames: the outcomes so far are those of the
first frames, and what is to come is the train of the others. -/
theorem train_arrives (max : Nat) {frames : List Frame}
    (fit : ∀ frame ∈ frames, Frame.checkLengths frame.command.length frame.value.length = .ok ())
    {schedule : Schedule} (train : schedule.stream = frames.flatMap Frame.encode) (times : Nat) :
    let steps := readTimes times { maxFrameSize := max } schedule
    (schedule.size ≤ times → List.Forall₂ (Arrives max) frames (outcomes steps)) ∧
      ∀ before step later, steps = before ++ step :: later → step.1 ≠ .pending →
        ∃ sooner remaining, frames = sooner ++ remaining ∧
          List.Forall₂ (Arrives max) sooner (outcomes (before ++ [step])) ∧
          step.2.1.inProgress = false ∧ step.2.2.stream = remaining.flatMap Frame.encode := by
  obtain ⟨all, parsed, arrive⟩ := Frame.parse_train max fit
  rw [← train] at parsed
  constructor
  · intro enough
    have reads := (reached_idle max).outcomes_readTimes enough
    rw [List.nil_append, List.nil_append, parsed] at reads
    rwa [reads]
  · intro before step later steps come
    obtain ⟨taken, part, state, schedule', taken_eq, reached, rfl⟩ :=
      (reached_idle max).exists_of_readTimes steps
    rw [List.nil_append, List.nil_append] at reached
    rw [outcomes_append]
    have next := reached.next schedule'
    generalize read ⟨max, state⟩ schedule' = step at next come ⊢
    cases next with
    | @goesOn outcome bytes part' state' left stream_eq fine reached' ends =>
      have stream_eq : schedule.stream = taken ++ bytes ++ left.stream := by
        rw [taken_eq, stream_eq, List.append_assoc]
      have whole : outcome.endsFrame = true := by
        cases outcome with
        | pending => exact absurd rfl come
        | failed error => exact absurd rfl (fine error)
        | _ => rfl
      obtain rfl := ends whole
      -- what the reader has come to is the front of what the whole train comes to
      have front := Frame.parse_append reached'.parsed reached'.ended left.stream
      rw [← stream_eq, parsed] at front
      rw [(Prod.mk.inj front).1] at arrive
      obtain ⟨sooner, remaining, frames_eq, arrive, left_eq⟩ :=
        Frame.exists_cut (stream_eq.symm.trans train) arrive
          (Frame.length_eq_of_parse reached'.parsed reached'.ended)
      refine ⟨sooner, remaining, frames_eq, arrive, ?_, left_eq⟩
      exact Bool.eq_false_iff.mpr fun begun => reached'.stands.inProgress_iff.mp begun rfl
    | @stops found left stream_eq parsed' =>
      -- no byte of a train stands where a frame should begin and does not
      have failed := parsed' left.stream
      rw [List.append_cons, List.append_assoc] at failed
      rw [taken_eq, stream_eq, List.append_cons, List.append_assoc, failed] at parsed
      rw [← (Prod.mk.inj parsed).1] at arrive
      have last := List.forall₂_drop_append _ _ _ arrive
      obtain ⟨frame, _, arrives, -, -⟩ := List.forall₂_cons_right_iff.mp last
      cases arrives

/-- Five frames, of which the second and the third are **too large** for a body of two bytes. -/
def mixedTrain : List Frame :=
  [⟨[1], [2]⟩, ⟨[3, 4, 5], []⟩, ⟨[6], [7, 8]⟩, ⟨[], []⟩, ⟨[9], [10]⟩]

/-- The train of these, **cut in the middle** of a header and of a body that is too large. -/
def mixedPieces : Schedule :=
  let bytes := mixedTrain.flatMap Frame.encode
  ⟨[.bytes (bytes.take 3), .block, .bytes ((bytes.drop 3).take 30), .bytes [],
    .bytes (bytes.drop 33)]⟩

/-- The frames that are not too large are read as they are, **before and behind** those that are. -/
theorem train_arrives_mixed :
    ((∀ frame ∈ mixedTrain,
        Frame.checkLengths frame.command.length frame.value.length = .ok ()) ∧
      mixedPieces.stream = mixedTrain.flatMap Frame.encode ∧ mixedPieces.size ≤ 60) ∧
    let steps := readTimes 60 { maxFrameSize := 2 } mixedPieces
    List.Forall₂ (Arrives 2) mixedTrain (outcomes steps) ∧
      outcomes steps =
        [.frame ⟨[1], [2]⟩, .tooLarge none 3 0, .tooLarge (some [6]) 1 2, .frame ⟨[], []⟩,
          .frame ⟨[9], [10]⟩] := by
  have fit : ∀ frame ∈ mixedTrain,
      Frame.checkLengths frame.command.length frame.value.length = .ok () := by decide
  have train : mixedPieces.stream = mixedTrain.flatMap Frame.encode := by decide
  have enough : mixedPieces.size ≤ 60 := by decide
  exact ⟨⟨fit, train, enough⟩, (train_arrives 2 fit train 60).1 enough, by decide +kernel⟩

end FrameReader

end DriveLink
