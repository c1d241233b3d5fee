import DriveLink.Proofs.Frame.Stream

/-! # Where a reader stands

A reader that stops in the middle of a frame has taken certain bytes of it, and where it stands says
which. So a read is described by what has been taken of the frame before and what the channel yields
meanwhile: either they make up a whole frame, or the reader stands where those bytes lead.

* `Frame.header`, `Frame.verdict` — the first nine bytes of a frame, and what its body comes to;
* `Frame.Whole` — the bytes of a whole frame, and what reading them comes to;
* `ReaderState.Stands` — where a reader stands that has taken some bytes of a frame;
* `FrameReader.Reads`, `FrameReader.reads_resume` — what every read comes to;
* `FrameReader.Sound` — what every read leaves as it was. -/

namespace DriveLink

open Channel (Yields Vain Broke)

/-- Four bytes are the digits of the **word** that they stand for. -/
theorem Bytes.ofNatBE_ofNat_toNatBE {bytes : Bytes} (length_eq : bytes.length = 4) :
    ofNatBE 4 (UInt32.ofNat (toNatBE bytes)).toNat = bytes := by
  have lt : toNatBE bytes < 2 ^ 32 := by
    have := toNatLE_lt bytes.reverse
    rwa [List.length_reverse, length_eq] at this
  rw [UInt32.toNat_ofNat_of_lt' lt, ← length_eq, ofNatBE_toNatBE]

/-! ## Whole frames -/

namespace Frame

/-- The **header** of a frame whose parts have the given lengths. -/
def header (commandLength valueLength : UInt32) : Bytes :=
  magic :: (Bytes.ofNatBE 4 commandLength.toNat ++ Bytes.ofNatBE 4 valueLength.toNat)

@[simp] theorem length_header (commandLength valueLength : UInt32) :
    (header commandLength valueLength).length = headerSize := by
  simp [header, headerSize]

/-- **What the body of a frame comes to**, for a reader that accepts bodies of at most `max`
bytes. -/
def verdict (max : Nat) (commandLength valueLength : UInt32) (body : Bytes) : ReadOutcome :=
  if commandLength.toNat + valueLength.toNat ≤ max then
    .frame ⟨body.take commandLength.toNat, body.drop commandLength.toNat⟩
  else if commandLength.toNat ≤ max then
    .tooLarge (some (body.take commandLength.toNat)) commandLength valueLength
  else .tooLarge none commandLength valueLength

/-- A body always comes to the end of a frame. -/
theorem endsFrame_verdict (max : Nat) (commandLength valueLength : UInt32) (body : Bytes) :
    (verdict max commandLength valueLength body).endsFrame = true := by
  unfold verdict
  split
  · rfl
  · split <;> rfl

/-- The bytes of a **whole frame**, and what reading them comes to. -/
inductive Whole (max : Nat) : Bytes → ReadOutcome → Prop
  | intro (commandLength valueLength : UInt32) (body : Bytes)
      (length_eq : body.length = commandLength.toNat + valueLength.toNat) :
      Whole max (header commandLength valueLength ++ body)
        (verdict max commandLength valueLength body)

end Frame

/-! ## Where a reader stands -/

/-- How many bytes the **part that a reader is in** still lacks. Between two frames, that part is
the byte that begins a frame. -/
def ReaderState.missing : ReaderState → Nat
  | idle => 1
  | commandLength buffer | valueLength _ buffer | command buffer _ _ | value _ buffer =>
    buffer.missing
  | skip remaining _ _ _ => remaining

/-- **Where a reader stands** that has taken the given bytes of a frame. -/
inductive ReaderState.Stands (max : Nat) : ReaderState → Bytes → Prop
  | idle : Stands max .idle []
  | commandLength {buffer : Buffer} (size_eq : buffer.size = 4) :
      Stands max (.commandLength buffer) (Frame.magic :: buffer.bytes)
  | valueLength {commandLength : UInt32} {buffer : Buffer} (size_eq : buffer.size = 4) :
      Stands max (.valueLength commandLength buffer)
        (Frame.magic :: (Bytes.ofNatBE 4 commandLength.toNat ++ buffer.bytes))
  | command {buffer : Buffer} {commandLength valueLength : UInt32} {skipValue : Bool}
      (size_eq : buffer.size = commandLength.toNat) (fits : commandLength.toNat ≤ max)
      (skip_iff : skipValue = true ↔ max < commandLength.toNat + valueLength.toNat) :
      Stands max (.command buffer valueLength skipValue)
        (Frame.header commandLength valueLength ++ buffer.bytes)
  | value {command : Bytes} {buffer : Buffer} {commandLength valueLength : UInt32}
      (length_eq : command.length = commandLength.toNat)
      (size_eq : buffer.size = valueLength.toNat)
      (fits : commandLength.toNat + valueLength.toNat ≤ max) :
      Stands max (.value command buffer)
        (Frame.header commandLength valueLength ++ (command ++ buffer.bytes))
  | skip {remaining : Nat} {command : Option Bytes} {commandLength valueLength : UInt32}
      {body : Bytes}
      (length_eq : body.length + remaining = commandLength.toNat + valueLength.toNat)
      (large : max < commandLength.toNat + valueLength.toNat)
      (kept : ∀ more : Bytes, command =
        if commandLength.toNat ≤ max then some ((body ++ more).take commandLength.toNat)
        else none) :
      Stands max (.skip remaining command commandLength valueLength)
        (Frame.header commandLength valueLength ++ body)

open ReaderState (Stands)

/-- Between two frames, and only there, nothing has been taken. -/
theorem ReaderState.Stands.inProgress_iff {max : Nat} {state : ReaderState} {taken : Bytes}
    (h : Stands max state taken) : state.inProgress = true ↔ taken ≠ [] := by
  cases h <;> simp [ReaderState.inProgress, Frame.header]

/-! ## What a read comes to -/

namespace FrameReader

variable {σ : Type} [Channel σ]

/-- **What a read comes to** if some bytes of the frame have been taken before. -/
inductive Reads (max : Nat) (taken : Bytes) (s : σ) : ReadStep σ → Prop
  | pending {state : ReaderState} {bytes : Bytes} {s₁ s' : σ} (yields : Yields s bytes s₁)
      (vain : Vain s₁ s') (stands : Stands max state (taken ++ bytes))
      (short : 0 < state.missing) : Reads max taken s ⟨.pending, state, s'⟩
  | ended {outcome : ReadOutcome} {bytes : Bytes} {s' : σ} (yields : Yields s bytes s')
      (whole : Frame.Whole max (taken ++ bytes) outcome) : Reads max taken s ⟨outcome, .idle, s'⟩
  | badMagic {found : UInt8} {s' : σ} (yields : Yields s [found] s') (fresh : taken = [])
      (bad : found ≠ Frame.magic) : Reads max taken s ⟨.failed (.badMagic found), .idle, s'⟩
  | broken {state : ReaderState} {error : IoError} {bytes : Bytes} {s₁ s' : σ}
      (yields : Yields s bytes s₁) (broke : Broke error s₁ s')
      (stands : Stands max state (taken ++ bytes)) (short : 0 < state.missing) :
      Reads max taken s ⟨.failed (.channel error), .idle, s'⟩

/-- A read that goes on after some bytes counts them as taken. -/
theorem Reads.after {max : Nat} {taken bytes : Bytes} {s s₁ : σ} {step : ReadStep σ}
    (yields : Yields s bytes s₁) (some : bytes ≠ [] ∨ taken ≠ [])
    (h : Reads max (taken ++ bytes) s₁ step) : Reads max taken s step := by
  cases h with
  | pending yields' vain stands short =>
    rw [List.append_assoc] at stands
    exact .pending (yields.trans yields') vain stands short
  | ended yields' whole =>
    rw [List.append_assoc] at whole
    exact .ended (yields.trans yields') whole
  | badMagic _ fresh _ =>
    -- a bad byte is only noticed where a frame should begin
    rw [List.append_eq_nil_iff] at fresh
    exact absurd fresh (by tauto)
  | broken yields' broke stands short =>
    rw [List.append_assoc] at stands
    exact .broken (yields.trans yields') broke stands short

theorem reads_readSkipped {max remaining : Nat} {command : Option Bytes}
    {commandLength valueLength : UInt32} {taken : Bytes}
    (h : Stands max (.skip remaining command commandLength valueLength) taken) (s : σ) :
    Reads max taken s (readSkipped remaining command commandLength valueLength s) := by
  cases h with
  | @skip _ _ _ _ body length_eq large kept =>
    -- with some of the bytes that are left, the reader stands further on in the same part
    have further {bytes : Bytes} {left : Nat} (bytes_length : bytes.length + left = remaining) :
        Stands max (.skip left command commandLength valueLength)
          (Frame.header commandLength valueLength ++ body ++ bytes) := by
      rw [List.append_assoc]
      refine .skip ?_ large fun more => ?_
      · rw [List.length_append, Nat.add_assoc, bytes_length, length_eq]
      · rw [List.append_assoc]
        exact kept (bytes ++ more)
    unfold readSkipped
    split
    · rename_i skipped
      cases skips_of_skipBytes skipped with
      | @complete _ bytes yields bytes_length =>
        -- the command was kept as it would be of any body that goes on like this
        have verdict_eq : Frame.verdict max commandLength valueLength (body ++ bytes) =
            .tooLarge command commandLength valueLength := by
          rw [Frame.verdict, if_neg (Nat.not_le.mpr large), kept bytes]
          split <;> rfl
        refine .ended yields ?_
        rw [List.append_assoc, ← verdict_eq]
        refine .intro commandLength valueLength (body ++ bytes) ?_
        rw [List.length_append, bytes_length, length_eq]
    · rename_i left s' skipped
      cases skips_of_skipBytes skipped with
      | pending yields vain bytes_length short =>
        exact .pending yields vain (further bytes_length) short
    · rename_i skipped
      cases skips_of_skipBytes skipped with
      | failed yields broke bytes_length short =>
        exact .broken yields broke (further bytes_length) short

theorem reads_readValue {max : Nat} {command : Bytes} {buffer : Buffer} {taken : Bytes}
    (h : Stands max (.value command buffer) taken) (s : σ) :
    Reads max taken s (readValue command buffer s) := by
  cases h with
  | @value _ _ commandLength valueLength length_eq size_eq fits =>
    have further {buffer' : Buffer} {bytes : Bytes}
        (bytes_eq : buffer'.bytes = buffer.bytes ++ bytes) (size_eq' : buffer'.size = buffer.size) :
        Stands max (.value command buffer')
          (Frame.header commandLength valueLength ++ (command ++ buffer.bytes) ++ bytes) := by
      rw [List.append_assoc, List.append_assoc, ← bytes_eq]
      exact .value length_eq (size_eq'.trans size_eq) fits
    unfold readValue
    split
    · rename_i buffer' s' filled
      cases Buffer.fills_of_fill filled with
      | @complete _ _ bytes yields bytes_eq size_eq' whole =>
        have bytes_length : buffer'.bytes.length = valueLength.toNat := by
          have := buffer'.length_bytes_add_missing
          omega
        have verdict_eq :
            Frame.verdict max commandLength valueLength (command ++ buffer'.bytes) =
              .frame ⟨command, buffer'.bytes⟩ := by
          rw [Frame.verdict, if_pos fits, ← length_eq, List.take_left, List.drop_left]
        refine .ended yields ?_
        rw [List.append_assoc, List.append_assoc, ← bytes_eq, ← verdict_eq]
        refine .intro commandLength valueLength (command ++ buffer'.bytes) ?_
        rw [List.length_append, length_eq, bytes_length]
    · rename_i buffer' s' filled
      cases Buffer.fills_of_fill filled with
      | pending yields vain bytes_eq size_eq' short =>
        exact .pending yields vain (further bytes_eq size_eq') short
    · rename_i filled
      cases Buffer.fills_of_fill filled with
      | failed yields broke bytes_eq size_eq' short =>
        exact .broken yields broke (further bytes_eq size_eq') short

theorem reads_readCommand {max : Nat} {buffer : Buffer} {valueLength : UInt32}
    {skipValue : Bool} {taken : Bytes}
    (h : Stands max (.command buffer valueLength skipValue) taken) (s : σ) :
    Reads max taken s (readCommand buffer valueLength skipValue s) := by
  cases h with
  | @command _ commandLength _ _ size_eq fits skip_iff =>
    have further {buffer' : Buffer} {bytes : Bytes}
        (bytes_eq : buffer'.bytes = buffer.bytes ++ bytes) (size_eq' : buffer'.size = buffer.size) :
        Stands max (.command buffer' valueLength skipValue)
          (Frame.header commandLength valueLength ++ buffer.bytes ++ bytes) := by
      rw [List.append_assoc, ← bytes_eq]
      exact .command (size_eq'.trans size_eq) fits skip_iff
    unfold readCommand
    split
    · rename_i buffer' s' filled
      cases Buffer.fills_of_fill filled with
      | @complete _ _ bytes yields bytes_eq size_eq' whole =>
        have bytes_length : buffer'.bytes.length = commandLength.toNat := by
          have := buffer'.length_bytes_add_missing
          omega
        have some : bytes ≠ [] ∨ Frame.header commandLength valueLength ++ buffer.bytes ≠ [] :=
          .inr (by simp [Frame.header])
        split
        · rename_i skips
          -- the value is one too many, and only the command is kept
          have large := skip_iff.mp skips
          have length_eq : UInt32.ofNat buffer'.size = commandLength := by
            rw [size_eq', size_eq]
            exact UInt32.ofNat_toNat
          rw [length_eq]
          refine Reads.after yields some (reads_readSkipped ?_ s')
          rw [List.append_assoc, ← bytes_eq]
          refine .skip ?_ large fun more => ?_
          · rw [bytes_length]
          · rw [if_pos fits, ← bytes_length, List.take_left]
        · rename_i keeps
          -- the value is wanted, and a part for it is begun, with nothing in it
          have fits : commandLength.toNat + valueLength.toNat ≤ max :=
            Nat.not_lt.mp (mt skip_iff.mpr keeps)
          have stands : Stands max (.value buffer'.bytes (.ofSize valueLength.toNat)) _ :=
            .value bytes_length (Buffer.size_ofSize _) fits
          rw [Buffer.bytes_ofSize, List.append_nil, bytes_eq, ← List.append_assoc] at stands
          refine Reads.after yields some (reads_readValue ?_ s')
          rwa [bytes_eq]
    · rename_i buffer' s' filled
      cases Buffer.fills_of_fill filled with
      | pending yields vain bytes_eq size_eq' short =>
        exact .pending yields vain (further bytes_eq size_eq') short
    · rename_i filled
      cases Buffer.fills_of_fill filled with
      | failed yields broke bytes_eq size_eq' short =>
        exact .broken yields broke (further bytes_eq size_eq') short

/-- A body of known lengths is read from its first byte on. -/
theorem reads_readBody (max : Nat) (commandLength valueLength : UInt32) (s : σ) :
    Reads max (Frame.header commandLength valueLength) s
      (readBody max commandLength valueLength s) := by
  have nothing : Frame.header commandLength valueLength =
      Frame.header commandLength valueLength ++ [] := (List.append_nil _).symm
  unfold readBody
  simp only
  split
  · rename_i fits
    rw [nothing, ← Buffer.bytes_ofSize commandLength.toNat]
    refine reads_readCommand (.command rfl (by omega) ?_) s
    simpa using fits
  · rename_i large
    have large := Nat.not_le.mp large
    split
    · rename_i fits
      rw [nothing, ← Buffer.bytes_ofSize commandLength.toNat]
      exact reads_readCommand (.command rfl fits (by simpa using large)) s
    · rename_i none
      rw [nothing]
      refine reads_readSkipped (.skip (Nat.zero_add _) large fun more => ?_) s
      rw [if_neg none]

/-- A part of four bytes announces the number whose digits they are. -/
theorem ofNatBE_announced {buffer : Buffer} (size_eq : buffer.size = 4)
    (whole : buffer.missing = 0) : Bytes.ofNatBE 4 (announced buffer).toNat = buffer.bytes := by
  have := buffer.length_bytes_add_missing
  exact Bytes.ofNatBE_ofNat_toNatBE (by omega)

theorem reads_readValueLength {max : Nat} {commandLength : UInt32} {buffer : Buffer}
    {taken : Bytes} (h : Stands max (.valueLength commandLength buffer) taken) (s : σ) :
    Reads max taken s (readValueLength max commandLength buffer s) := by
  cases h with
  | valueLength size_eq =>
    have further {buffer' : Buffer} {bytes : Bytes}
        (bytes_eq : buffer'.bytes = buffer.bytes ++ bytes) (size_eq' : buffer'.size = buffer.size) :
        Stands max (.valueLength commandLength buffer') (Frame.magic ::
          (Bytes.ofNatBE 4 commandLength.toNat ++ buffer.bytes) ++ bytes) := by
      rw [List.cons_append, List.append_assoc, ← bytes_eq]
      exact .valueLength (size_eq'.trans size_eq)
    unfold readValueLength
    split
    · rename_i buffer' s' filled
      cases Buffer.fills_of_fill filled with
      | complete yields bytes_eq size_eq' whole =>
        -- with both lengths the header is whole, and the body is read from its first byte on
        refine Reads.after yields (.inr (List.cons_ne_nil _ _)) ?_
        rw [List.cons_append, List.append_assoc, ← bytes_eq,
          ← ofNatBE_announced (size_eq'.trans size_eq) whole]
        exact reads_readBody max commandLength (announced buffer') s'
    · rename_i buffer' s' filled
      cases Buffer.fills_of_fill filled with
      | pending yields vain bytes_eq size_eq' short =>
        exact .pending yields vain (further bytes_eq size_eq') short
    · rename_i filled
      cases Buffer.fills_of_fill filled with
      | failed yields broke bytes_eq size_eq' short =>
        exact .broken yields broke (further bytes_eq size_eq') short

theorem reads_readCommandLength {max : Nat} {buffer : Buffer} {taken : Bytes}
    (h : Stands max (.commandLength buffer) taken) (s : σ) :
    Reads max taken s (readCommandLength max buffer s) := by
  cases h with
  | commandLength size_eq =>
    have further {buffer' : Buffer} {bytes : Bytes}
        (bytes_eq : buffer'.bytes = buffer.bytes ++ bytes) (size_eq' : buffer'.size = buffer.size) :
        Stands max (.commandLength buffer') (Frame.magic :: buffer.bytes ++ bytes) := by
      rw [List.cons_append, ← bytes_eq]
      exact .commandLength (size_eq'.trans size_eq)
    unfold readCommandLength
    split
    · rename_i buffer' s' filled
      cases Buffer.fills_of_fill filled with
      | complete yields bytes_eq size_eq' whole =>
        refine Reads.after yields (.inr (List.cons_ne_nil _ _)) (reads_readValueLength ?_ s')
        rw [List.cons_append, ← bytes_eq, ← ofNatBE_announced (size_eq'.trans size_eq) whole,
          ← List.append_nil (Bytes.ofNatBE 4 _), ← Buffer.bytes_ofSize 4]
        exact .valueLength rfl
    · rename_i buffer' s' filled
      cases Buffer.fills_of_fill filled with
      | pending yields vain bytes_eq size_eq' short =>
        exact .pending yields vain (further bytes_eq size_eq') short
    · rename_i filled
      cases Buffer.fills_of_fill filled with
      | failed yields broke bytes_eq size_eq' short =>
        exact .broken yields broke (further bytes_eq size_eq') short

/-- A frame is read from its first byte on, if that is the right one. -/
theorem reads_readMagic (max : Nat) (s : σ) : Reads max [] s (readMagic max s) := by
  unfold readMagic
  split
  · rename_i s' read
    exact .pending (.nothing s) (.nothing Nat.one_pos read rfl) .idle Nat.one_pos
  · rename_i found rest le s' read
    -- one byte was asked for, so that no more have come
    have alone : rest = [] := by
      rw [List.length_cons] at le
      exact List.eq_nil_of_length_eq_zero (by omega)
    have yields : Yields s [found] s' := by
      subst alone
      exact Yields.of_progress read
    split
    · rename_i good
      refine Reads.after yields (.inl (List.cons_ne_nil _ _)) (reads_readCommandLength ?_ s')
      rw [good, List.nil_append, ← Buffer.bytes_ofSize 4]
      exact .commandLength rfl
    · rename_i bad
      exact .badMagic yields rfl bad
  · rename_i s' read
    exact .pending (.nothing s) (.wouldBlock Nat.one_pos read) .idle Nat.one_pos
  · rename_i read
    exact .broken (.nothing s) ⟨1, Nat.one_pos, read⟩ .idle Nat.one_pos

/-- **What every read comes to**, wherever the reader stands. -/
theorem reads_resume {max : Nat} {state : ReaderState} {taken : Bytes}
    (h : Stands max state taken) (s : σ) : Reads max taken s (resume max state s) := by
  cases state with
  | idle =>
    cases h
    exact reads_readMagic max s
  | commandLength buffer => exact reads_readCommandLength h s
  | valueLength commandLength buffer => exact reads_readValueLength h s
  | command buffer valueLength skipValue => exact reads_readCommand h s
  | value command buffer => exact reads_readValue h s
  | skip remaining command commandLength valueLength => exact reads_readSkipped h s

/-! ## Every call -/

/-- At the end of a frame the reader is **between two frames**. -/
theorem inProgress_read {reader : FrameReader} {s : σ}
    (ends : (reader.read s).1.endsFrame = true) : (reader.read s).2.1.inProgress = false := by
  have idle := ((endsWithin_resume reader.maxFrameSize reader.state s).idle_le ends).1
  rw [inProgress, FrameReader.read, idle]
  rfl

/-- A reader is **sound** if it stands in a frame that lacks bytes, or between two frames. -/
def Sound (reader : FrameReader) : Prop :=
  ∃ taken, reader.state.Stands reader.maxFrameSize taken ∧ 0 < reader.state.missing

omit [Channel σ] in
/-- A new reader is sound. -/
theorem sound_new (max : Nat) : Sound { maxFrameSize := max } := ⟨[], .idle, Nat.one_pos⟩

/-- **Reading leaves a reader sound**, whatever it comes to. -/
theorem Sound.read {reader : FrameReader} (h : reader.Sound) (s : σ) :
    (reader.read s).2.1.Sound := by
  obtain ⟨taken, stands, -⟩ := h
  have reads := reads_resume stands s
  unfold FrameReader.read
  generalize resume reader.maxFrameSize reader.state s = step at reads ⊢
  cases reads with
  | pending yields vain stands short => exact ⟨_, stands, short⟩
  | _ => exact ⟨[], .idle, Nat.one_pos⟩

/-- A sound reader does nothing to a channel **but read from it**. -/
theorem Sound.yields {reader : FrameReader} (h : reader.Sound) (s : σ) :
    ∃ bytes, Yields s bytes (reader.read s).2.2 := by
  obtain ⟨taken, stands, -⟩ := h
  have reads := reads_resume stands s
  unfold FrameReader.read
  generalize resume reader.maxFrameSize reader.state s = step at reads ⊢
  cases reads with
  | pending yields vain => exact ⟨_, yields.trans vain.yields⟩
  | ended yields => exact ⟨_, yields⟩
  | badMagic yields => exact ⟨_, yields⟩
  | broken yields broke => exact ⟨_, yields.trans broke.yields⟩

end FrameReader

end DriveLink
