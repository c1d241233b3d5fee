import DriveLink.Proofs.Channel.Stock
import DriveLink.Proofs.Frame.Parse

/-! # Frames in stock

Between what a reader has taken of a frame and what its channel has in stock, whole frames may lie
ready. Each read then takes the next one of them, and exactly that one.

* `Frame.Fits`, `Frame.whole_encode` — a frame that a reader takes as it is;
* `FrameReader.Faces` — frames that lie ready for a reader;
* `FrameReader.Faces.read` — what reading the first of them does. -/

namespace DriveLink

open Stocked (stock)

/-- A frame that is **not too large** for a reader, nor for its own header. -/
structure Frame.Fits (max : Nat) (frame : Frame) : Prop where
  command_le : frame.command.length ≤ maxPartSize
  value_le : frame.value.length ≤ maxPartSize
  le : frame.command.length + frame.value.length ≤ max

instance (max : Nat) (frame : Frame) : Decidable (frame.Fits max) :=
  decidable_of_iff (frame.command.length ≤ Frame.maxPartSize ∧
      frame.value.length ≤ Frame.maxPartSize ∧ frame.command.length + frame.value.length ≤ max)
    ⟨fun ⟨command_le, value_le, le⟩ => ⟨command_le, value_le, le⟩,
      fun fits => ⟨fits.command_le, fits.value_le, fits.le⟩⟩

/-- The bytes of a frame that fits are a **whole frame**, and reading them comes to it. -/
theorem Frame.whole_encode {max : Nat} {frame : Frame} (fits : frame.Fits max) :
    Whole max frame.encode (.frame frame) := by
  have whole := whole_encode_of_checkLengths
    (checkLengths_eq_ok_iff.mpr ⟨fits.command_le, fits.value_le⟩) max
  rwa [verdict, toNat_ofNat_of_le fits.command_le, toNat_ofNat_of_le fits.value_le, if_pos fits.le,
    List.take_left, List.drop_left] at whole

namespace FrameReader

variable {σ : Type} [Channel σ] [Stocked σ]

/-- **A read of what lies ready** takes the whole frame in front, and leaves what is behind it. -/
theorem read_of_front {reader : FrameReader} {taken : Bytes}
    (stands : reader.state.Stands reader.maxFrameSize taken) {s : σ} {bytes rest : Bytes}
    {outcome : ReadOutcome} (whole : Frame.Whole reader.maxFrameSize bytes outcome)
    (front : bytes ++ rest <+: taken ++ stock s) :
    (reader.read s).1 = outcome ∧ (reader.read s).2.1 = { reader with state := .idle } ∧
      rest <+: stock (reader.read s).2.2 := by
  obtain ⟨extra, front_eq⟩ := front
  -- with whatever is put behind the stock, the frame stands in front
  have parsed (more : Bytes) : Frame.parseOne reader.maxFrameSize (taken ++ stock s ++ more) =
      some (outcome, rest ++ extra ++ more) := by
    rw [← front_eq, List.append_assoc, List.append_assoc, List.append_assoc]
    exact Frame.parseOne_whole whole _
  have reads := reads_resume stands s
  unfold FrameReader.read
  generalize resume reader.maxFrameSize reader.state s = step at reads ⊢
  -- a read that stops before the end of the frame would have to use the stock up
  have stopped {state : ReaderState} {got : Bytes} {s₁ : σ} (yields : Channel.Yields s got s₁)
      (none : stock s₁ = []) (cut : state.Stands reader.maxFrameSize (taken ++ got))
      (lacks : 0 < state.missing) : False := by
    have used : stock s <+: got := by
      rcases yields.stock with whole | short
      · have all : stock s = got := by rw [whole, none, List.append_nil]
        exact all ▸ List.prefix_refl _
      · exact short
    obtain ⟨more, rfl⟩ := used
    have unparsed := Frame.parseOne_stands cut lacks
    rw [← List.append_assoc, parsed more] at unparsed
    cases unparsed
  cases reads with
  | pending yields vain stands' short' =>
    exact (stopped yields vain.stock_eq_nil stands' short').elim
  | broken yields broke stands' short' =>
    exact (stopped yields broke.stock_eq_nil stands' short').elim
  | @badMagic found s' yields fresh bad =>
    subst fresh
    cases whole with
    | intro commandLength valueLength body length_eq =>
      rw [List.nil_append, Frame.header] at front_eq
      refine absurd ?_ bad
      rcases yields.stock with whole | ⟨more, short⟩
      · rw [whole] at front_eq
        simp at front_eq
        exact front_eq.1.symm
      · rw [← front_eq] at short
        simp at short
        exact short.1.symm
  | @ended outcome' got s' yields whole' =>
    rcases yields.stock with whole | ⟨more, rfl⟩
    · have same := parsed []
      rw [whole, List.append_nil, ← List.append_assoc, Frame.parseOne_whole whole'] at same
      obtain ⟨rfl, stock_eq⟩ := Prod.mk.inj (Option.some.inj same)
      rw [stock_eq, List.append_nil]
      exact ⟨rfl, rfl, List.prefix_append _ _⟩
    · have same := Frame.parseOne_whole whole' []
      rw [List.append_nil, ← List.append_assoc, parsed more] at same
      obtain ⟨rfl, none⟩ := Prod.mk.inj (Option.some.inj same)
      have rest_eq : rest = [] := (List.append_eq_nil_iff.mp (List.append_eq_nil_iff.mp none).1).1
      rw [rest_eq]
      exact ⟨rfl, rfl, List.nil_prefix⟩

/-- **Frames lie ready** for a reader: with what it has taken of the first one, they are in front of
the stock. -/
structure Faces (reader : FrameReader) (s : σ) (frames : List Frame) : Prop where
  fits : ∀ frame ∈ frames, frame.Fits reader.maxFrameSize
  front : ∃ taken, reader.state.Stands reader.maxFrameSize taken ∧ 0 < reader.state.missing ∧
    frames.flatMap Frame.encode <+: taken ++ stock s

/-- Between two frames, those lie ready that the stock **begins with**. -/
theorem Faces.of_between {reader : FrameReader} {s : σ} {frames : List Frame}
    (between : reader.inProgress = false) (fits : ∀ frame ∈ frames, frame.Fits reader.maxFrameSize)
    (front : frames.flatMap Frame.encode <+: stock s) : reader.Faces s frames := by
  obtain ⟨maxFrameSize, state⟩ := reader
  cases state with
  | idle => exact ⟨fits, [], .idle, Nat.one_pos, front⟩
  | _ => cases between

/-- What lies ready **goes on doing so** while the stock only grows. -/
theorem Faces.mono {reader : FrameReader} {s s' : σ} {frames : List Frame}
    (h : reader.Faces s frames) (grows : stock s <+: stock s') : reader.Faces s' frames := by
  obtain ⟨fits, taken, stands, short, front⟩ := h
  exact ⟨fits, taken, stands, short, front.trans ((List.prefix_append_right_inj taken).mpr grows)⟩

/-- **A read takes the first frame** that lies ready, and the others still do so. -/
theorem Faces.read {reader : FrameReader} {s : σ} {frame : Frame} {frames : List Frame}
    (h : reader.Faces s (frame :: frames)) :
    (reader.read s).1 = .frame frame ∧ (reader.read s).2.1.Faces (reader.read s).2.2 frames := by
  obtain ⟨fits, taken, stands, -, front⟩ := h
  have whole := Frame.whole_encode (fits frame (List.mem_cons_self ..))
  obtain ⟨outcome_eq, reader_eq, rest⟩ := read_of_front stands whole front
  refine ⟨outcome_eq, ?_⟩
  rw [reader_eq]
  exact ⟨fun other mem => fits other (List.mem_cons_of_mem _ mem), [], .idle, Nat.one_pos, rest⟩

/-- A reader for which frames lie ready **goes on where it stands** in one of them. -/
theorem Faces.sound {reader : FrameReader} {s : σ} {frames : List Frame}
    (h : reader.Faces s frames) : reader.Sound := by
  obtain ⟨-, taken, stands, short, -⟩ := h
  exact ⟨taken, stands, short⟩

end FrameReader

end DriveLink
