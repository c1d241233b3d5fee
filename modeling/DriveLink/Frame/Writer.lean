import DriveLink.Channel.Basic
import DriveLink.Frame.Basic

/-! # Writing frames as the channel takes them

A channel may take a frame in any number of pieces. A `FrameWriter` holds what is left of the frame,
so that a write which has to stop goes on from there the next time. The frame is out once every byte
has been taken and a flush has made progress.

* `FrameWriter` — what is left of a frame;
* `FrameWriter.taken` — what has been written between two moments;
* `FrameWriter.write` — writes as far as the channel allows. -/

namespace DriveLink

/-- What a **write** came to. -/
inductive WriteOutcome
  | pending
  | done
  | failed (error : FrameError)
  deriving DecidableEq, Repr

/-- **What is left** of the frame that is being written. -/
structure FrameWriter where
  left : Bytes
  deriving DecidableEq, Repr

namespace FrameWriter

variable {σ : Type} [Channel σ]

/-- What the channel **took** of a frame, between two states of its writer. -/
def taken (before after : FrameWriter) : Bytes :=
  before.left.take (before.left.length - after.left.length)

/-- Push out what the channel holds back, which ends the frame. -/
def flush (s : σ) : WriteOutcome × σ :=
  match Channel.flush s with
  | (.progress _, s) => (.done, s)
  | (.wouldBlock, s) => (.pending, s)
  | (.failed error, s) => (.failed (.channel error), s)

/-- Write some bytes as far as the channel takes them, and **flush** once it has taken them all.
What is left of them comes with the answer. -/
def writeBytes (left : Bytes) (s : σ) : WriteOutcome × Bytes × σ :=
  match left with
  | [] =>
    let (outcome, s) := flush s
    (outcome, [], s)
  | b :: rest =>
    match Channel.write s (b :: rest) with
    | (.progress taken, s) =>
      if 0 < taken.count then writeBytes ((b :: rest).drop taken.count) s
      else (.pending, b :: rest, s)
    | (.wouldBlock, s) => (.pending, b :: rest, s)
    | (.failed error, s) => (.failed (.channel error), b :: rest, s)
termination_by left.length
decreasing_by simp only [List.length_drop, List.length_cons]; omega

/-- Write **as far as the channel allows**. -/
def write (writer : FrameWriter) (s : σ) : WriteOutcome × FrameWriter × σ :=
  let (outcome, left, s) := writeBytes writer.left s
  (outcome, ⟨left⟩, s)

end FrameWriter

end DriveLink
