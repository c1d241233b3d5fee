import DriveLink.Frame.Writer
import Mathlib.Algebra.Order.Ring.Int

/-! # Writing a frame piece by piece

A channel takes a frame from its front, in whatever pieces it likes. So what it has taken and what
is left make up the frame at every moment, and nothing is left of a frame that is out.

* `FrameWriter.exists_taken`, `FrameWriter.taken_append` — a write takes the first bytes;
* `FrameWriter.frame_eq_of_write` — what has been taken and what is left;
* `FrameWriter.left_of_done` — a frame that is out has been taken entirely. -/

namespace DriveLink

namespace FrameWriter

/-- What has been taken of a frame is what stood **before what is left** of it. -/
theorem taken_of_suffix {before after : FrameWriter} {bytes : Bytes}
    (h : before.left = bytes ++ after.left) : before.taken after = bytes := by
  rw [taken, h, List.length_append, Nat.add_sub_cancel, List.take_left]

variable {σ : Type} [Channel σ]

/-- Writing takes bytes **from the front** only. -/
theorem exists_taken (left : Bytes) (s : σ) :
    ∃ bytes, left = bytes ++ (writeBytes left s).2.1 := by
  fun_induction writeBytes left s with
  | case1 s outcome s' flushed => exact ⟨[], rfl⟩
  | case2 s b rest taken s' write some ih =>
    obtain ⟨bytes, rest_eq⟩ := ih
    refine ⟨(b :: rest).take taken.count ++ bytes, ?_⟩
    rw [List.append_assoc, ← rest_eq, List.take_append_drop]
  | case3 s b rest taken s' write none => exact ⟨[], rfl⟩
  | case4 s b rest s' write => exact ⟨[], rfl⟩
  | case5 s b rest error s' write => exact ⟨[], rfl⟩

/-- Writing that comes to an end has **taken everything**. -/
theorem left_eq_nil_of_done {left : Bytes} {s : σ} (h : (writeBytes left s).1 = .done) :
    (writeBytes left s).2.1 = [] := by
  fun_induction writeBytes left s with
  | case1 s outcome s' flushed => rfl
  | case2 s b rest taken s' write some ih => exact ih h
  | case3 s b rest taken s' write none => cases h
  | case4 s b rest s' write => cases h
  | case5 s b rest error s' write => cases h

/-- **A write takes the first bytes** of what is left. -/
theorem taken_append {writer after : FrameWriter} {s s' : σ} {outcome : WriteOutcome}
    (h : writer.write s = (outcome, after, s')) :
    writer.taken after ++ after.left = writer.left := by
  cases h
  obtain ⟨bytes, left_eq⟩ := exists_taken writer.left s
  rw [taken_of_suffix left_eq]
  exact left_eq.symm

/-- With what a write takes, the bytes of a frame **add up** as before. -/
theorem frame_eq_of_write {frame bytes : Bytes} {writer after : FrameWriter} {s s' : σ}
    {outcome : WriteOutcome} (frame_eq : bytes ++ writer.left = frame)
    (h : writer.write s = (outcome, after, s')) :
    bytes ++ writer.taken after ++ after.left = frame := by
  rw [List.append_assoc, taken_append h]
  exact frame_eq

/-- **A frame that is out** has been taken entirely. -/
theorem left_of_done {writer after : FrameWriter} {s s' : σ}
    (h : writer.write s = (.done, after, s')) : after.left = [] := by
  unfold write at h
  rw [Prod.mk.injEq, Prod.mk.injEq] at h
  obtain ⟨done, rfl, -⟩ := h
  exact left_eq_nil_of_done done

end FrameWriter

end DriveLink
