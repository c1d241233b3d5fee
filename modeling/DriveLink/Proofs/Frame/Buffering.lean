import DriveLink.Proofs.Frame.Schedule

/-! # How much a reader keeps

The lengths of a frame are chosen by the other side, and a reader makes room for a part before any
byte of it has come. So what it keeps is followed through every trip round its loop, that is, from
one read on the channel to the next. Whatever the header announces, the reader never has room for
more bytes of a body than it accepts, what is read goes into the room that is left, and what it
steps over is counted down to nothing and no further.

* `Stride`, `FrameReader.stride` — one trip round the loop, with at most one read on the channel;
* `FrameReader.resume_eq_rest` — a read is made of such trips;
* `FrameReader.Reachable` — where a reader can stand at any time, within a read or between two;
* `ReaderState.WithinBounds`, `Stride.WithinSlice` — what is kept, and where it is put;
* `FrameReader.reader_stays_within_bounds` — every reader, at any time. -/

namespace DriveLink

open ReaderState (Stands)

/-! ## One trip round the loop -/

/-- **One trip round the loop** of a reader. -/
structure Stride (σ : Type) where
  /-- How long a slice the channel was offered; if it is zero, the channel was not called. -/
  offered : Nat
  /-- What the channel put there. -/
  came : Bytes
  /-- What the whole read came to, if it is over. -/
  outcome : Option ReadOutcome
  state : ReaderState
  channel : σ

variable {σ : Type}

namespace Stride

/-- Go on elsewhere, without a call on the channel. -/
def goOn (state : ReaderState) (s : σ) : Stride σ := ⟨0, [], none, state, s⟩

/-- Come to the end of a frame, without a call on the channel. -/
def stop (outcome : ReadOutcome) (s : σ) : Stride σ := ⟨0, [], some outcome, .idle, s⟩

/-- **Ask the channel** for as many bytes as a slice has room for. -/
def ask [Channel σ] (limit : Nat) (same : ReaderState) (further : Chunk limit → ReaderState)
    (s : σ) : Stride σ :=
  match Channel.read s limit with
  | (.progress chunk, s) =>
    if 0 < chunk.bytes.length then ⟨limit, chunk.bytes, none, further chunk, s⟩
    else ⟨limit, [], some .pending, same, s⟩
  | (.wouldBlock, s) => ⟨limit, [], some .pending, same, s⟩
  | (.failed error, s) => ⟨limit, [], some (.failed (.channel error)), .idle, s⟩

/-- Ask the channel for what a part lacks, or see what follows if it lacks nothing. -/
def ofBuffer [Channel σ] (part : Buffer → ReaderState) (whole : Buffer → σ → Stride σ)
    (buffer : Buffer) (s : σ) : Stride σ :=
  if buffer.missing = 0 then whole buffer s
  else ask buffer.missing (part buffer) (fun chunk => part (buffer.append chunk)) s

/-- The bytes of the frame that have been taken after the trip. -/
def taken (stride : Stride σ) (before : Bytes) : Bytes :=
  if stride.state.inProgress then before ++ stride.came else []

/-- **What asking comes to**: some bytes, nothing, or a failure. -/
inductive Asks (limit : Nat) (same : ReaderState) (further : Chunk limit → ReaderState) :
    Stride σ → Prop
  | came (chunk : Chunk limit) (some : 0 < chunk.bytes.length) (s : σ) :
      Asks limit same further ⟨limit, chunk.bytes, none, further chunk, s⟩
  | vain (s : σ) : Asks limit same further ⟨limit, [], some .pending, same, s⟩
  | broke (error : IoError) (s : σ) :
      Asks limit same further ⟨limit, [], some (.failed (.channel error)), .idle, s⟩

theorem asks_ask [Channel σ] (limit : Nat) (same : ReaderState)
    (further : Chunk limit → ReaderState) (s : σ) :
    Asks limit same further (ask limit same further s) := by
  unfold ask
  split
  · split
    · exact .came _ ‹_› _
    · exact .vain _
  · exact .vain _
  · exact .broke _ _

end Stride

namespace ReaderState

/-- The part that is being filled. -/
def buffer : ReaderState → Option Buffer
  | .idle | .skip .. => none
  | .commandLength buffer | .valueLength _ buffer | .command buffer _ _ | .value _ buffer =>
    some buffer

/-- How many bytes of a body the reader **has room for**, filled or not: the command section that it
keeps, and the part that it fills. -/
def buffered : ReaderState → Nat
  | idle | commandLength _ | valueLength .. => 0
  | command buffer _ _ => buffer.size
  | value kept buffer => kept.length + buffer.size
  | skip _ kept _ _ => (kept.getD []).length

/-- How many parts of the frame are still to come, at most. -/
def phase : ReaderState → Nat
  | idle => 4
  | commandLength _ => 3
  | valueLength .. => 2
  | command .. => 1
  | value .. | skip .. => 0

/-- How long a **slice** the channel is offered: the room for a magic byte, the rest of a part, or
room for bytes that are only stepped over. -/
def slice : ReaderState → Nat
  | idle => 1
  | commandLength buffer | valueLength _ buffer | command buffer _ _ | value _ buffer =>
    buffer.missing
  | skip remaining _ _ _ => min remaining skipChunk

/-- Where the reader stands when bytes have come **into the slice**, and it is still in the same
part. -/
def put : (state : ReaderState) → Chunk state.slice → ReaderState
  | idle, _ => idle
  | commandLength buffer, chunk => commandLength (buffer.append chunk)
  | valueLength length buffer, chunk => valueLength length (buffer.append chunk)
  | command buffer length skipValue, chunk => command (buffer.append chunk) length skipValue
  | value kept buffer, chunk => value kept (buffer.append chunk)
  | skip remaining kept length length', chunk =>
    skip (remaining - chunk.bytes.length) kept length length'

theorem phase_put (state : ReaderState) (chunk : Chunk state.slice) :
    (state.put chunk).phase = state.phase := by
  cases state <;> rfl

/-- What has come into the slice is **missing no more**. -/
theorem missing_put {state : ReaderState} (inside : state.inProgress = true)
    (chunk : Chunk state.slice) :
    (state.put chunk).missing = state.missing - chunk.bytes.length := by
  cases state with
  | idle => cases inside
  | skip => rfl
  | _ => exact Buffer.missing_append _ chunk

/-- A slice is **no longer than what is missing**. -/
theorem slice_le_missing (state : ReaderState) : state.slice ≤ state.missing := by
  cases state with
  | skip remaining => exact Nat.min_le_left ..
  | _ => exact Nat.le_refl _

end ReaderState

namespace FrameReader

variable [Channel σ]

/-- Where the body of a frame **begins**, by the lengths of its parts. -/
def bodyState (max : Nat) (commandLength valueLength : UInt32) : ReaderState :=
  let total := commandLength.toNat + valueLength.toNat
  if total ≤ max then .command (.ofSize commandLength.toNat) valueLength false
  else if commandLength.toNat ≤ max then .command (.ofSize commandLength.toNat) valueLength true
  else .skip total none commandLength valueLength

/-- What follows a **whole command section**. -/
def afterCommand (valueLength : UInt32) (skipValue : Bool) (buffer : Buffer) : ReaderState :=
  if skipValue then
    .skip valueLength.toNat (some buffer.bytes) (UInt32.ofNat buffer.size) valueLength
  else .value buffer.bytes (.ofSize valueLength.toNat)

/-- **One trip round the loop**, from where the reader stands. -/
def stride (max : Nat) (state : ReaderState) (s : σ) : Stride σ :=
  match state with
  | .idle =>
    match Channel.read s 1 with
    | (.progress ⟨[], _⟩, s) => ⟨1, [], some .pending, .idle, s⟩
    | (.progress ⟨found :: _, _⟩, s) =>
      if found = Frame.magic then ⟨1, [found], none, .commandLength (.ofSize 4), s⟩
      else ⟨1, [found], some (.failed (.badMagic found)), .idle, s⟩
    | (.wouldBlock, s) => ⟨1, [], some .pending, .idle, s⟩
    | (.failed error, s) => ⟨1, [], some (.failed (.channel error)), .idle, s⟩
  | .commandLength buffer =>
    .ofBuffer .commandLength
      (fun whole => .goOn (.valueLength (announced whole) (.ofSize 4))) buffer s
  | .valueLength commandLength buffer =>
    .ofBuffer (.valueLength commandLength)
      (fun whole => .goOn (bodyState max commandLength (announced whole))) buffer s
  | .command buffer valueLength skipValue =>
    .ofBuffer (.command · valueLength skipValue)
      (fun whole => .goOn (afterCommand valueLength skipValue whole)) buffer s
  | .value command buffer =>
    .ofBuffer (.value command) (fun whole => .stop (.frame ⟨command, whole.bytes⟩)) buffer s
  | .skip remaining command commandLength valueLength =>
    if remaining = 0 then .stop (.tooLarge command commandLength valueLength) s
    else
      .ask (min remaining skipChunk) (.skip remaining command commandLength valueLength)
        (fun chunk => .skip (remaining - chunk.bytes.length) command commandLength valueLength) s

/-- The **rest of the read**, after one trip round the loop. -/
def rest (max : Nat) (trip : Stride σ) : ReadStep σ :=
  match trip.outcome with
  | some outcome => ⟨outcome, trip.state, trip.channel⟩
  | none => resume max trip.state trip.channel

/-! ## A read is made of trips -/

/-- Read one part and what follows it. -/
def throughPart (part : Buffer → ReaderState) (onwards : Buffer → σ → ReadStep σ)
    (buffer : Buffer) (s : σ) : ReadStep σ :=
  match buffer.fill s with
  | (.complete, buffer, s) => onwards buffer s
  | (.pending, buffer, s) => suspend (part buffer) s
  | (.failed error, _, s) => fail error s

/-- A part is read **one slice at a time**. -/
theorem throughPart_eq_rest {max : Nat} (part : Buffer → ReaderState)
    {onwards : Buffer → σ → ReadStep σ} {whole : Buffer → σ → Stride σ}
    (resume_eq : ∀ buffer s, resume max (part buffer) s = throughPart part onwards buffer s)
    (onwards_eq : ∀ buffer s, onwards buffer s = rest max (whole buffer s))
    (buffer : Buffer) (s : σ) :
    resume max (part buffer) s = rest max (.ofBuffer part whole buffer s) := by
  rw [resume_eq, throughPart, Buffer.fill, Stride.ofBuffer]
  by_cases full : buffer.missing = 0
  · rw [if_pos full, if_pos full]
    exact onwards_eq buffer s
  · rw [if_neg full, if_neg full, Stride.ask]
    rcases Channel.read s buffer.missing with ⟨chunk | _ | error, s'⟩
    · by_cases some : 0 < chunk.bytes.length
      · simp only [if_pos some]
        exact (resume_eq (buffer.append chunk) s').symm
      · simp only [if_neg some]
        rfl
    · rfl
    · rfl

theorem resume_bodyState (max : Nat) (commandLength valueLength : UInt32) (s : σ) :
    resume max (bodyState max commandLength valueLength) s =
      readBody max commandLength valueLength s := by
  unfold bodyState readBody
  simp only
  split
  · rfl
  · split <;> rfl

theorem resume_afterCommand (max : Nat) (valueLength : UInt32) (skipValue : Bool)
    (buffer : Buffer) (s : σ) :
    resume max (afterCommand valueLength skipValue buffer) s =
      if skipValue then
        readSkipped valueLength.toNat (some buffer.bytes) (UInt32.ofNat buffer.size) valueLength s
      else readValue buffer.bytes (.ofSize valueLength.toNat) s := by
  unfold afterCommand
  split <;> rfl

/-- What is stepped over is read **one slice at a time**. -/
theorem readSkipped_eq_rest (max remaining : Nat) (command : Option Bytes)
    (commandLength valueLength : UInt32) (s : σ) :
    readSkipped remaining command commandLength valueLength s =
      rest max (stride max (.skip remaining command commandLength valueLength) s) := by
  rw [readSkipped, skipBytes, stride]
  by_cases none : remaining = 0
  · rw [if_pos none, if_pos none]
    rfl
  · rw [if_neg none, if_neg none, Stride.ask]
    rcases Channel.read s (min remaining skipChunk) with ⟨chunk | _ | error, s'⟩
    · by_cases some : 0 < chunk.bytes.length
      · simp only [if_pos some]
        rfl
      · simp only [if_neg some]
        rfl
    · rfl
    · rfl

/-- **A read is one trip round the loop**, and then the rest of the read. -/
theorem resume_eq_rest (max : Nat) (state : ReaderState) (s : σ) :
    resume max state s = rest max (stride max state s) := by
  cases state with
  | idle =>
    rw [resume, readMagic, stride]
    rcases Channel.read s 1 with ⟨⟨_ | ⟨found, more⟩, le⟩ | _ | error, s'⟩
    · rfl
    · by_cases good : found = Frame.magic
      · simp only [if_pos good]
        rfl
      · simp only [if_neg good]
        rfl
    · rfl
    · rfl
  | commandLength buffer =>
    exact throughPart_eq_rest .commandLength (fun _ _ => rfl) (fun _ _ => rfl) buffer s
  | valueLength commandLength buffer =>
    exact throughPart_eq_rest (.valueLength commandLength) (fun _ _ => rfl)
      (fun _ s => (resume_bodyState max _ _ s).symm) buffer s
  | command buffer valueLength skipValue =>
    exact throughPart_eq_rest (.command · valueLength skipValue) (fun _ _ => rfl)
      (fun _ s => (resume_afterCommand max _ _ _ s).symm) buffer s
  | value command buffer =>
    exact throughPart_eq_rest (.value command) (fun _ _ => rfl) (fun _ _ => rfl) buffer s
  | skip remaining command commandLength valueLength => exact readSkipped_eq_rest ..

/-! ## Where a reader stands after a trip -/

omit [Channel σ] in
theorem taken_goOn {state : ReaderState} (inside : state.inProgress = true) (s : σ)
    (before : Bytes) : (Stride.goOn state s).taken before = before := by
  rw [Stride.taken, Stride.goOn, if_pos inside, List.append_nil]

/-- A trip within a part **counts what came as taken**, and a trip through a whole part does what
follows. -/
theorem stands_ofBuffer {max : Nat} (part : Buffer → ReaderState) (front : Bytes)
    {whole : Buffer → σ → Stride σ} {buffer : Buffer} {s : σ}
    (inside : ∀ buffer, (part buffer).inProgress = true)
    (stands : ∀ further : Buffer, further.size = buffer.size →
      Stands max (part further) (front ++ further.bytes))
    (follows : buffer.missing = 0 →
      Stands max (whole buffer s).state ((whole buffer s).taken (front ++ buffer.bytes))) :
    Stands max (Stride.ofBuffer part whole buffer s).state
      ((Stride.ofBuffer part whole buffer s).taken (front ++ buffer.bytes)) := by
  unfold Stride.ofBuffer
  split
  · exact follows ‹_›
  · have asks := Stride.asks_ask buffer.missing (part buffer)
      (fun chunk => part (buffer.append chunk)) s
    generalize Stride.ask buffer.missing (part buffer) _ s = trip at asks ⊢
    cases asks with
    | came chunk =>
      rw [Stride.taken, if_pos (inside _), List.append_assoc, ← Buffer.bytes_append]
      exact stands (buffer.append chunk) rfl
    | vain =>
      rw [Stride.taken, if_pos (inside _), List.append_nil]
      exact stands buffer rfl
    | broke => exact .idle

omit [Channel σ] in
theorem stands_bodyState (max : Nat) (commandLength valueLength : UInt32) :
    Stands max (bodyState max commandLength valueLength)
      (Frame.header commandLength valueLength) := by
  have nothing : Frame.header commandLength valueLength =
      Frame.header commandLength valueLength ++ [] := (List.append_nil _).symm
  unfold bodyState
  simp only
  split
  · rename_i fits
    rw [nothing, ← Buffer.bytes_ofSize commandLength.toNat]
    exact .command rfl (by omega) (by simpa using fits)
  · rename_i large
    have large := Nat.not_le.mp large
    split
    · rename_i fits
      rw [nothing, ← Buffer.bytes_ofSize commandLength.toNat]
      exact .command rfl fits (by simpa using large)
    · rename_i none
      rw [nothing]
      refine .skip (Nat.zero_add _) large fun more => ?_
      rw [if_neg none]

omit [Channel σ] in
theorem stands_afterCommand {max : Nat} {commandLength valueLength : UInt32} {skipValue : Bool}
    {buffer : Buffer} (size_eq : buffer.size = commandLength.toNat)
    (fits : commandLength.toNat ≤ max)
    (skip_iff : skipValue = true ↔ max < commandLength.toNat + valueLength.toNat)
    (full : buffer.missing = 0) :
    Stands max (afterCommand valueLength skipValue buffer)
      (Frame.header commandLength valueLength ++ buffer.bytes) := by
  have bytes_length : buffer.bytes.length = commandLength.toNat := by
    have := buffer.length_bytes_add_missing
    omega
  unfold afterCommand
  split
  · rename_i skips
    rw [size_eq, UInt32.ofNat_toNat]
    refine .skip (by rw [bytes_length]) (skip_iff.mp skips) fun more => ?_
    rw [if_pos fits, ← bytes_length, List.take_left]
  · rename_i keeps
    have fits : commandLength.toNat + valueLength.toNat ≤ max :=
      Nat.not_lt.mp (mt skip_iff.mpr keeps)
    have stands : Stands max (.value buffer.bytes (.ofSize valueLength.toNat)) _ :=
      .value bytes_length (Buffer.size_ofSize _) fits
    rwa [Buffer.bytes_ofSize, List.append_nil] at stands

/-- **A trip leads on** from the bytes taken before it to those taken after it. -/
theorem stands_stride {max : Nat} {state : ReaderState} {taken : Bytes}
    (h : Stands max state taken) (s : σ) :
    Stands max (stride max state s).state ((stride max state s).taken taken) := by
  cases h with
  | idle =>
    unfold stride
    rcases Channel.read s 1 with ⟨⟨_ | ⟨found, more⟩, le⟩ | _ | error, s'⟩
    · exact .idle
    · by_cases good : found = Frame.magic
      · simp only [if_pos good]
        rw [good]
        exact .commandLength rfl
      · simp only [if_neg good]
        exact .idle
    · exact .idle
    · exact .idle
  | @commandLength buffer size_eq =>
    refine stands_ofBuffer .commandLength [Frame.magic] (fun _ => rfl)
      (fun _ same => .commandLength (same.trans size_eq)) fun full => ?_
    rw [taken_goOn rfl, ← ofNatBE_announced size_eq full, ← List.append_nil (Bytes.ofNatBE 4 _),
      ← Buffer.bytes_ofSize 4]
    exact .valueLength rfl
  | @valueLength commandLength buffer size_eq =>
    refine stands_ofBuffer (.valueLength commandLength)
      (Frame.magic :: Bytes.ofNatBE 4 commandLength.toNat) (fun _ => rfl)
      (fun _ same => .valueLength (same.trans size_eq)) fun full => ?_
    rw [taken_goOn, ← ofNatBE_announced size_eq full]
    · exact stands_bodyState ..
    · unfold bodyState
      simp only
      split
      · rfl
      · split <;> rfl
  | @command buffer commandLength valueLength skipValue size_eq fits skip_iff =>
    refine stands_ofBuffer (.command · valueLength skipValue) _ (fun _ => rfl)
      (fun _ same => .command (same.trans size_eq) fits skip_iff) fun full => ?_
    rw [taken_goOn]
    · exact stands_afterCommand size_eq fits skip_iff full
    · unfold afterCommand
      split <;> rfl
  | @value command buffer commandLength valueLength length_eq size_eq fits =>
    rw [← List.append_assoc]
    refine stands_ofBuffer (.value command) _ (fun _ => rfl) (fun _ same => ?_) fun _ => .idle
    rw [List.append_assoc]
    exact .value length_eq (same.trans size_eq) fits
  | @skip remaining command commandLength valueLength body length_eq large kept =>
    unfold stride
    simp only
    split
    · exact .idle
    · have asks := Stride.asks_ask (min remaining skipChunk)
        (.skip remaining command commandLength valueLength) (fun chunk =>
          .skip (remaining - chunk.bytes.length) command commandLength valueLength) s
      generalize Stride.ask (min remaining skipChunk) _ _ s = trip at asks ⊢
      cases asks with
      | came chunk some s' =>
        have le := Nat.le_trans chunk.le (Nat.min_le_left ..)
        show Stands max (.skip (remaining - chunk.bytes.length) command commandLength valueLength)
          (_ ++ body ++ chunk.bytes)
        rw [List.append_assoc]
        refine .skip ?_ large fun more => ?_
        · rw [List.length_append]
          omega
        · rw [List.append_assoc]
          exact kept _
      | vain s' =>
        show Stands max (.skip remaining command commandLength valueLength) (_ ++ body ++ [])
        rw [List.append_nil]
        exact .skip length_eq large kept
      | broke => exact .idle

/-! ## Every moment of a reader -/

/-- **Where a reader can stand**, and the bytes that it has taken of the current frame, after any
trips round its loop, whatever the channel was like at each of them. -/
inductive Reachable (σ : Type) [Channel σ] (max : Nat) : ReaderState → Bytes → Prop
  | new : Reachable σ max .idle []
  | stride {state : ReaderState} {taken : Bytes} (h : Reachable σ max state taken) (s : σ) :
      Reachable σ max (stride max state s).state ((stride max state s).taken taken)

theorem Reachable.stands {max : Nat} {state : ReaderState} {taken : Bytes}
    (h : Reachable σ max state taken) : Stands max state taken := by
  induction h with
  | new => exact .idle
  | stride _ s ih => exact stands_stride ih s

/-- **What a trip can be**, from where the reader stands. -/
inductive Trips (state : ReaderState) : Stride σ → Prop
  /-- The byte that begins a frame. -/
  | begins (between : state = .idle) (s : σ) :
      Trips state ⟨1, [Frame.magic], none, .commandLength (.ofSize 4), s⟩
  /-- Another byte, where a frame should begin. -/
  | badMagic (between : state = .idle) (found : UInt8) (s : σ) :
      Trips state ⟨1, [found], some (.failed (.badMagic found)), .idle, s⟩
  /-- The part is whole, and the reader is in a later one. -/
  | passes (whole : state.missing = 0) {next : ReaderState} (later : next.phase < state.phase)
      (s : σ) : Trips state (.goOn next s)
  /-- The part is whole, and the last one. -/
  | ends (whole : state.missing = 0) (outcome : ReadOutcome) (s : σ) :
      Trips state (.stop outcome s)
  /-- Some bytes have come into the slice. -/
  | came (inside : state.inProgress = true) (chunk : Chunk state.slice)
      (some : 0 < chunk.bytes.length) (s : σ) :
      Trips state ⟨state.slice, chunk.bytes, none, state.put chunk, s⟩
  /-- None have. -/
  | vain (s : σ) : Trips state ⟨state.slice, [], some .pending, state, s⟩
  | broke (error : IoError) (s : σ) :
      Trips state ⟨state.slice, [], some (.failed (.channel error)), .idle, s⟩

omit [Channel σ] in
theorem trips_of_asks {state : ReaderState} {trip : Stride σ} (inside : state.inProgress = true)
    (asks : Stride.Asks state.slice state state.put trip) : Trips state trip := by
  cases asks with
  | came chunk some s => exact .came inside chunk some s
  | vain s => exact .vain s
  | broke error s => exact .broke error s

theorem trips_stride (max : Nat) (state : ReaderState) (s : σ) :
    Trips state (stride max state s) := by
  cases state with
  | idle =>
    unfold stride
    rcases Channel.read s 1 with ⟨⟨_ | ⟨found, more⟩, le⟩ | _ | error, s'⟩
    · exact .vain s'
    · by_cases good : found = Frame.magic
      · simp only [if_pos good]
        rw [good]
        exact .begins rfl s'
      · simp only [if_neg good]
        exact .badMagic rfl found s'
    · exact .vain s'
    · exact .broke error s'
  | commandLength buffer =>
    unfold stride Stride.ofBuffer
    simp only
    split
    · refine .passes ‹_› ?_ s
      exact Nat.lt_succ_self 2
    · exact trips_of_asks rfl (Stride.asks_ask ..)
  | valueLength commandLength buffer =>
    unfold stride Stride.ofBuffer
    simp only
    split
    · refine .passes ‹_› ?_ s
      unfold bodyState
      simp only
      split
      · exact Nat.lt_succ_self 1
      · split
        · exact Nat.lt_succ_self 1
        · exact Nat.two_pos
    · exact trips_of_asks rfl (Stride.asks_ask ..)
  | command buffer valueLength skipValue =>
    unfold stride Stride.ofBuffer
    simp only
    split
    · refine .passes ‹_› ?_ s
      unfold afterCommand
      split <;> exact Nat.one_pos
    · exact trips_of_asks rfl (Stride.asks_ask ..)
  | value command buffer =>
    unfold stride Stride.ofBuffer
    simp only
    split
    · exact .ends ‹_› _ s
    · exact trips_of_asks rfl (Stride.asks_ask ..)
  | skip remaining command commandLength valueLength =>
    unfold stride
    simp only
    split
    · exact .ends ‹_› _ s
    · exact trips_of_asks rfl (Stride.asks_ask ..)

/-- A trip after which the reader goes on at once leaves **less to do**: a part is behind it, or
lacks fewer bytes. -/
theorem less_after_stride {max : Nat} {state : ReaderState} {s : σ}
    (goes_on : (stride max state s).outcome = none) :
    (stride max state s).state.phase < state.phase ∨
      (stride max state s).state.phase = state.phase ∧
        (stride max state s).state.missing < state.missing := by
  have trips := trips_stride max state s
  generalize stride max state s = trip at trips goes_on
  cases trips with
  | begins between =>
    rw [between]
    exact .inl (Nat.lt_succ_self 3)
  | passes _ later => exact .inl later
  | came inside chunk some =>
    refine .inr ⟨state.phase_put chunk, ?_⟩
    have := chunk.le
    have := state.slice_le_missing
    rw [ReaderState.missing_put inside]
    omega
  | _ => cases goes_on

/-- A read that begins where a reader can stand **ends where one can stand**. -/
theorem Reachable.resume {max : Nat} {state : ReaderState} {taken : Bytes}
    (h : Reachable σ max state taken) (s : σ) :
    ∃ taken', Reachable σ max (resume max state s).state taken' := by
  rw [resume_eq_rest, rest]
  have next := h.stride s
  split
  · exact ⟨_, next⟩
  · rename_i goes_on
    have less := less_after_stride goes_on
    exact next.resume _
termination_by (state.phase, state.missing)
decreasing_by exact Prod.lex_def.mpr less

/-! ## What is kept, and where it is put -/

omit [Channel σ] in
/-- If what is kept of a body goes on the same **whatever follows**, all of it has come. -/
theorem le_length_of_kept {body : Bytes} {length : Nat} {command : Option Bytes}
    (kept : ∀ more : Bytes, command = some ((body ++ more).take length)) :
    length ≤ body.length := by
  have same := Option.some.inj ((kept []).symm.trans (kept (List.replicate length 0)))
  have := congrArg List.length same
  simp only [List.append_nil, List.length_take, List.length_append, List.length_replicate] at this
  omega

end FrameReader

/-- A reader **keeps within its bounds**, having taken some bytes of a frame. -/
structure ReaderState.WithinBounds (max : Nat) (state : ReaderState) (taken : Bytes) : Prop where
  buffered_le : state.buffered ≤ max
  filled_le (buffer : Buffer) (filling : state.buffer = some buffer) :
    buffer.filled.size ≤ buffer.size
  /-- What is left to step over is what was announced, less what has been stepped over: the value
  payload behind a command section that is kept, or else both. -/
  remaining_eq (remaining : Nat) (command : Option Bytes) (commandLength valueLength : UInt32)
    (skips : state = .skip remaining command commandLength valueLength) :
    ∃ skipped : Bytes,
      taken = Frame.header commandLength valueLength ++ (command.getD [] ++ skipped) ∧
      remaining + skipped.length =
        if command.isSome then valueLength.toNat
        else commandLength.toNat + valueLength.toNat

/-- On a trip round the loop, the channel is offered **a slice within bounds**, and what comes is
counted. -/
structure Stride.WithinSlice (state : ReaderState) (trip : Stride σ) : Prop where
  came_le : trip.came.length ≤ trip.offered
  /-- Between two frames, there is room for one byte. -/
  of_idle (between : state = .idle) : trip.offered = 1
  /-- The slice of a part begins behind what has been filled and ends where the part ends. -/
  of_buffer (buffer : Buffer) (filling : state.buffer = some buffer) (called : 0 < trip.offered) :
    buffer.filled.size + trip.offered = buffer.size
  /-- What comes is put behind what has been filled. -/
  filled (buffer : Buffer) (filling : state.buffer = some buffer) (moved : trip.came ≠ []) :
    ∃ further, trip.state.buffer = some further ∧ further.size = buffer.size ∧
      further.bytes = buffer.bytes ++ trip.came
  /-- Of what is stepped over, no more is asked for than there is room for, or than is left. -/
  of_skip (remaining : Nat) (command : Option Bytes) (commandLength valueLength : UInt32)
    (skips : state = .skip remaining command commandLength valueLength) :
    trip.offered ≤ skipChunk ∧ trip.offered ≤ remaining
  /-- What comes is taken off what is left. -/
  counted (remaining : Nat) (command : Option Bytes) (commandLength valueLength : UInt32)
    (skips : state = .skip remaining command commandLength valueLength) (moved : trip.came ≠ []) :
    trip.state = .skip (remaining - trip.came.length) command commandLength valueLength

namespace FrameReader

theorem withinBounds_of_stands {max : Nat} {state : ReaderState} {taken : Bytes}
    (h : Stands max state taken) : state.WithinBounds max taken where
  buffered_le := by
    cases h with
    | command size_eq fits => exact size_eq.trans_le fits
    | value length_eq size_eq fits =>
      rw [ReaderState.buffered, length_eq, size_eq]
      exact fits
    | skip length_eq large kept =>
      rw [ReaderState.buffered, kept []]
      split
      · rename_i fits
        exact Nat.le_trans (List.length_take_le ..) fits
      · exact Nat.zero_le _
    | _ => exact Nat.zero_le _
  filled_le buffer _ := buffer.fits
  remaining_eq remaining command commandLength valueLength skips := by
    subst skips
    cases h with
    | @skip _ _ _ _ body length_eq large kept =>
      by_cases fits : commandLength.toNat ≤ max
      · simp only [if_pos fits] at kept
        have whole := le_length_of_kept kept
        refine ⟨body.drop commandLength.toNat, ?_, ?_⟩
        · rw [kept [], List.append_nil, Option.getD_some, List.take_append_drop]
        · rw [kept [], List.length_drop]
          simp only [Option.isSome_some, if_true]
          omega
      · simp only [if_neg fits] at kept
        refine ⟨body, ?_, ?_⟩
        · rw [kept []]
          rfl
        · rw [kept []]
          simp only [Option.isSome_none, Bool.false_eq_true, if_false]
          omega

/-- Without a call on the channel, **nothing is offered** to it. -/
theorem withinSlice_of_no_call {state : ReaderState} {trip : Stride σ}
    (inside : state ≠ .idle) (offered : trip.offered = 0) (came : trip.came = []) :
    trip.WithinSlice state where
  came_le := by
    rw [came]
    exact Nat.zero_le _
  of_idle between := absurd between inside
  of_buffer _ _ called := by
    rw [offered] at called
    exact absurd called (Nat.lt_irrefl 0)
  filled _ _ moved := absurd came moved
  of_skip _ _ _ _ _ := by
    rw [offered]
    exact ⟨Nat.zero_le _, Nat.zero_le _⟩
  counted _ _ _ _ _ moved := absurd came moved

/-- A slice of where the reader stands **is within bounds**, and so is what is put there. -/
theorem withinSlice_of_slice {state : ReaderState} {trip : Stride σ}
    (offered : trip.offered = state.slice) (came_le : trip.came.length ≤ state.slice)
    (put : trip.came ≠ [] → ∃ chunk : Chunk state.slice,
      chunk.bytes = trip.came ∧ trip.state = state.put chunk) : trip.WithinSlice state where
  came_le := by rwa [offered]
  of_idle between := by
    rw [offered, between]
    rfl
  of_buffer buffer filling _ := by
    have missing : state.slice = buffer.missing := by
      cases state <;> cases filling <;> rfl
    have fits := buffer.fits
    rw [offered, missing, Buffer.missing]
    omega
  filled buffer filling moved := by
    obtain ⟨chunk, bytes_eq, state_eq⟩ := put moved
    rw [state_eq, ← bytes_eq]
    cases state <;> cases filling <;> exact ⟨_, rfl, rfl, Buffer.bytes_append _ chunk⟩
  of_skip remaining command commandLength valueLength skips := by
    subst skips
    rw [offered]
    exact ⟨Nat.min_le_right .., Nat.min_le_left ..⟩
  counted remaining command commandLength valueLength skips moved := by
    subst skips
    obtain ⟨chunk, bytes_eq, state_eq⟩ := put moved
    rw [state_eq, ← bytes_eq]
    rfl

theorem withinSlice_of_trips {state : ReaderState} {trip : Stride σ} (h : Trips state trip) :
    trip.WithinSlice state := by
  -- a byte is missing between two frames, so that the part is whole only within one
  have inside (whole : state.missing = 0) : state ≠ .idle := by
    rintro rfl
    cases whole
  cases h with
  | begins between | badMagic between =>
    subst between
    exact ⟨Nat.le_refl _, fun _ => rfl, nofun, nofun, nofun, nofun⟩
  | passes whole later s => exact withinSlice_of_no_call (inside whole) rfl rfl
  | ends whole outcome s => exact withinSlice_of_no_call (inside whole) rfl rfl
  | came _ chunk some s => exact withinSlice_of_slice rfl chunk.le fun _ => ⟨chunk, rfl, rfl⟩
  | vain s | broke error s =>
    exact withinSlice_of_slice rfl (Nat.zero_le _) fun moved => absurd rfl moved

/-- **A reader keeps within its bounds at any time**, whatever lengths are announced to it and
however the bytes come: what it has room for of a body is never more than it accepts, no part is
filled beyond its end, and what is left to step over is what was announced, less what has been
stepped over. Each trip round its loop offers the channel a slice within bounds and counts what
came; reading is made of these trips, and ends where a reader can stand again. -/
theorem reader_stays_within_bounds {max : Nat} {state : ReaderState} {taken : Bytes}
    [Channel σ] (h : Reachable σ max state taken) :
    state.WithinBounds max taken ∧ ∀ s : σ,
      (stride max state s).WithinSlice state ∧
      resume max state s = rest max (stride max state s) ∧
      ∃ taken', Reachable σ max (read ⟨max, state⟩ s).2.1.state taken' :=
  ⟨withinBounds_of_stands h.stands, fun s =>
    ⟨withinSlice_of_trips (trips_stride max state s), resume_eq_rest max state s, h.resume s⟩⟩

/-- A header that announces one byte of command section and as much of a value as it can, in front
of a body that never ends. -/
def hostile : Schedule :=
  ⟨[.bytes [70, 0, 0, 0, 1, 255, 255, 255, 255, 65, 66, 67]]⟩

/-- A reader that accepts bodies of two bytes **keeps one of them**, and steps over the rest. -/
theorem stays_within_bounds_of_hostile :
    ∃ taken, Reachable Schedule 2 (resume 2 .idle hostile).state taken ∧
      (resume 2 .idle hostile).state = .skip 4294967293 (some [65]) 1 4294967295 ∧
      (resume 2 .idle hostile).state.buffered = 1 ∧
      (resume 2 .idle hostile).state.WithinBounds 2 taken ∧
      (stride 2 (resume 2 .idle hostile).state hostile).WithinSlice
        (resume 2 .idle hostile).state ∧
      (stride 2 (resume 2 .idle hostile).state hostile).offered = 4096 := by
  have start : Reachable Schedule 2 .idle [] := .new
  obtain ⟨taken, reachable⟩ := start.resume hostile
  have state_eq : (resume 2 .idle hostile).state = .skip 4294967293 (some [65]) 1 4294967295 := by
    with_unfolding_all rfl
  obtain ⟨within, trips⟩ := reader_stays_within_bounds reachable
  refine ⟨taken, reachable, state_eq, ?_, within, (trips hostile).1, ?_⟩
  · rw [state_eq]
    rfl
  · rw [state_eq]
    rfl

end FrameReader

end DriveLink
