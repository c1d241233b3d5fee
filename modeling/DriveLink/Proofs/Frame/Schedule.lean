import DriveLink.Proofs.Frame.Parse

/-! # Streams that come in pieces

A stream may come in any pieces, with reads in between that bring nothing or would have to wait.
However it does, a reader that is called often enough comes to what parsing the whole stream comes
to, and at any moment to what parsing the bytes that it has taken comes to.

* `Arrival`, `Schedule` — the pieces of a stream, as a channel that delivers them;
* `FrameReader.readTimes` — calls a reader so many times, unless it fails;
* `FrameReader.Reached` — where a reader stands after the bytes so far;
* `FrameReader.readTimes_eq_parse` — the pieces do not matter. -/

namespace DriveLink

/-- **One arrival** at the reading end of a channel. -/
inductive Arrival
  /-- Bytes come in, perhaps none. -/
  | bytes (content : Bytes)
  /-- The read that meets this would have to wait. -/
  | block
  deriving DecidableEq, Repr

/-- The bytes of an arrival. -/
def Arrival.content : Arrival → Bytes
  | bytes content => content
  | block => []

/-- A **stream in pieces**, in the order in which they arrive. -/
structure Schedule where
  arrivals : List Arrival
  deriving DecidableEq, Repr

namespace Schedule

/-- The **stream** itself. -/
def stream (schedule : Schedule) : Bytes := schedule.arrivals.flatMap Arrival.content

/-- How many bytes and pieces are still to come. -/
def size (schedule : Schedule) : Nat := schedule.stream.length + schedule.arrivals.length

/-- **Read** from the next piece, which goes on standing there if it has more bytes than wanted.
Once all pieces are gone, every read would have to wait. -/
def read (schedule : Schedule) (limit : Nat) : Transfer (Chunk limit) × Schedule :=
  match schedule.arrivals with
  | [] => (.wouldBlock, schedule)
  | .block :: later => (.wouldBlock, ⟨later⟩)
  | .bytes content :: later =>
    (.progress (.front limit content),
      if content.length ≤ limit then ⟨later⟩ else ⟨.bytes (content.drop limit) :: later⟩)

@[simp] theorem stream_cons (arrival : Arrival) (later : List Arrival) :
    stream ⟨arrival :: later⟩ = arrival.content ++ stream ⟨later⟩ := by
  rw [stream, List.flatMap_cons]
  rfl

/-- **What a read does to a schedule**: it takes bytes off the front of the stream, and some of what
is to come is used up if any bytes were wanted. -/
theorem read_progress {schedule schedule' : Schedule} {limit : Nat} {chunk : Chunk limit}
    (h : schedule.read limit = (.progress chunk, schedule')) :
    schedule.stream = chunk.bytes ++ schedule'.stream ∧
      schedule'.arrivals.length ≤ schedule.arrivals.length ∧
      (chunk.bytes = [] → 0 < limit → schedule'.arrivals.length < schedule.arrivals.length) := by
  obtain ⟨arrivals⟩ := schedule
  unfold read at h
  split at h
  · cases h
  · cases h
  · rename_i content later same
    cases same
    cases h
    rw [stream_cons]
    split
    · rename_i all
      have front : (Chunk.front limit content).bytes = content := List.take_of_length_le all
      rw [front]
      exact ⟨rfl, Nat.le_succ _, fun _ _ => Nat.lt_succ_self _⟩
    · rename_i more
      refine ⟨?_, Nat.le_refl _, fun none some => ?_⟩
      · rw [stream_cons, ← List.append_assoc]
        exact congrArg (· ++ _) (List.take_append_drop limit content).symm
      · -- a piece with more bytes than wanted yields some of them
        have := congrArg List.length none
        simp only [Chunk.front, List.length_take, List.length_nil] at this
        omega

theorem read_wouldBlock {schedule schedule' : Schedule} {limit : Nat}
    (h : schedule.read limit = (.wouldBlock, schedule')) :
    schedule.stream = schedule'.stream ∧
      (schedule'.arrivals.length < schedule.arrivals.length ∨
        schedule.arrivals = [] ∧ schedule' = schedule) := by
  obtain ⟨arrivals⟩ := schedule
  unfold read at h
  split at h
  · rename_i none
    cases h
    -- nothing is to come any more
    exact ⟨rfl, .inr ⟨none, rfl⟩⟩
  · rename_i later same
    cases same
    cases h
    exact ⟨rfl, .inl (Nat.lt_succ_self _)⟩
  · cases h

theorem read_ne_failed (schedule schedule' : Schedule) (limit : Nat) (error : IoError) :
    schedule.read limit ≠ (.failed error, schedule') := by
  unfold read
  split <;> exact fun h => by cases h

/-- A schedule is a channel. Whatever is written to it, it takes. -/
instance : Channel Schedule where
  read := read
  write schedule offered := (.progress ⟨offered.length, Nat.le_refl _⟩, schedule)
  flush schedule := (.progress 0, schedule)
  inbound schedule := schedule.stream.length
  read_inbound h := by
    rw [(read_progress h).1, List.length_append]
    omega

/-- **What a schedule yields** stands at the front of its stream. -/
theorem stream_eq_of_yields {schedule schedule' : Schedule} {bytes : Bytes}
    (h : Channel.Yields schedule bytes schedule') :
    schedule.stream = bytes ++ schedule'.stream ∧
      schedule'.arrivals.length ≤ schedule.arrivals.length := by
  induction h with
  | nothing => exact ⟨rfl, Nat.le_refl _⟩
  | progress read _ ih =>
    obtain ⟨front, fewer, -⟩ := read_progress read
    rw [front, ih.1, List.append_assoc]
    exact ⟨rfl, Nat.le_trans ih.2 fewer⟩
  | wouldBlock read _ ih =>
    obtain ⟨same, fewer⟩ := read_wouldBlock read
    rw [same, ih.1]
    refine ⟨rfl, Nat.le_trans ih.2 ?_⟩
    rcases fewer with fewer | ⟨-, rfl⟩
    · exact Nat.le_of_lt fewer
    · exact Nat.le_refl _
  | failed read _ _ => exact absurd read (read_ne_failed _ _ _ _)

/-- **Asking in vain uses up a piece**, unless there are none left. -/
theorem fewer_of_vain {schedule schedule' : Schedule} (h : Channel.Vain schedule schedule') :
    schedule.stream = schedule'.stream ∧
      (schedule'.arrivals.length < schedule.arrivals.length ∨ schedule'.size = 0) := by
  cases h with
  | wouldBlock wants read =>
    obtain ⟨same, fewer | ⟨none, rfl⟩⟩ := read_wouldBlock read
    · exact ⟨same, .inl fewer⟩
    · refine ⟨rfl, .inr ?_⟩
      rw [size, stream, none]
      rfl
  | nothing wants read none =>
    obtain ⟨front, -, fewer⟩ := read_progress read
    rw [none] at front
    exact ⟨front, .inl (fewer none wants)⟩

/-- Whoever takes bytes, or uses up a piece, leaves **less to come**. -/
theorem size_lt {schedule left : Schedule} {bytes : Bytes}
    (stream_eq : schedule.stream = bytes ++ left.stream)
    (fewer : left.arrivals.length ≤ schedule.arrivals.length)
    (less : bytes ≠ [] ∨ left.arrivals.length < schedule.arrivals.length) :
    left.size < schedule.size := by
  have length_eq := congrArg List.length stream_eq
  rw [List.length_append] at length_eq
  rw [size, size]
  rcases less with some | less
  · have := List.length_pos_iff.mpr some
    omega
  · omega

end Schedule

namespace FrameReader

/-! ## Calling a reader again and again -/

/-- **Call** a reader so many times, unless it fails: the outcomes, and the reader and the channel
after each of them. -/
def readTimes {σ : Type} [Channel σ] :
    (times : Nat) → FrameReader → σ → List (ReadOutcome × FrameReader × σ)
  | 0, _, _ => []
  | times + 1, reader, s =>
    let step := reader.read s
    match step.1 with
    | .failed _ => [step]
    | _ => step :: readTimes times step.2.1 step.2.2

/-- The **outcomes** of some reads that came to something. -/
def outcomes {σ : Type} (steps : List (ReadOutcome × FrameReader × σ)) : List ReadOutcome :=
  (steps.map Prod.fst).filter (· ≠ .pending)

@[simp] theorem outcomes_nil {σ : Type} :
    outcomes ([] : List (ReadOutcome × FrameReader × σ)) = [] := rfl

theorem outcomes_append {σ : Type} (steps later : List (ReadOutcome × FrameReader × σ)) :
    outcomes (steps ++ later) = outcomes steps ++ outcomes later := by
  rw [outcomes, List.map_append, List.filter_append]
  rfl

theorem outcomes_cons {σ : Type} (step : ReadOutcome × FrameReader × σ)
    (later : List (ReadOutcome × FrameReader × σ)) :
    outcomes (step :: later) = outcomes [step] ++ outcomes later :=
  outcomes_append [step] later

theorem outcomes_pending {σ : Type} (reader : FrameReader) (s : σ) :
    outcomes [(.pending, reader, s)] = [] := rfl

theorem outcomes_of_endsFrame {σ : Type} {outcome : ReadOutcome} (ends : outcome.endsFrame = true)
    (reader : FrameReader) (s : σ) : outcomes [(outcome, reader, s)] = [outcome] := by
  cases outcome with
  | pending => cases ends
  | _ => rfl

/-- **What one call comes to** on a schedule, by what has been taken of the frame before. -/
inductive Call (max : Nat) (taken : Bytes) (schedule : Schedule) :
    ReadOutcome × FrameReader × Schedule → Prop
  | pending {state : ReaderState} {bytes : Bytes} {left : Schedule}
      (stream_eq : schedule.stream = bytes ++ left.stream)
      (stands : state.Stands max (taken ++ bytes)) (short : 0 < state.missing)
      (less : left.size < schedule.size ∨ left.size = 0) :
      Call max taken schedule (.pending, ⟨max, state⟩, left)
  | ended {outcome : ReadOutcome} {bytes : Bytes} {left : Schedule}
      (stream_eq : schedule.stream = bytes ++ left.stream)
      (whole : Frame.Whole max (taken ++ bytes) outcome) (less : left.size < schedule.size) :
      Call max taken schedule (outcome, ⟨max, .idle⟩, left)
  | badMagic {found : UInt8} {left : Schedule}
      (stream_eq : schedule.stream = found :: left.stream) (fresh : taken = [])
      (bad : found ≠ Frame.magic) :
      Call max taken schedule (.failed (.badMagic found), ⟨max, .idle⟩, left)

/-- A reader that lacks bytes takes some, or meets a piece that brings none. -/
theorem call_read {max : Nat} {state : ReaderState} {taken : Bytes}
    (stands : state.Stands max taken) (short : 0 < state.missing) (schedule : Schedule) :
    Call max taken schedule (read ⟨max, state⟩ schedule) := by
  have reads := reads_resume stands schedule
  unfold read
  generalize resume max state schedule = step at reads ⊢
  cases reads with
  | @pending state' bytes s₁ left yields vain stands' short' =>
    obtain ⟨front, fewer⟩ := Schedule.stream_eq_of_yields yields
    obtain ⟨same, less⟩ := Schedule.fewer_of_vain vain
    rw [same] at front
    refine .pending front stands' short' ?_
    rcases less with less | none
    · have lt := Nat.lt_of_lt_of_le less fewer
      exact .inl (Schedule.size_lt front (Nat.le_of_lt lt) (.inr lt))
    · exact .inr none
  | @ended outcome bytes left yields whole =>
    obtain ⟨front, fewer⟩ := Schedule.stream_eq_of_yields yields
    -- no frame was whole before this read, so that some bytes of it were still to come
    have some : bytes ≠ [] := by
      rintro rfl
      have parsed := Frame.parseOne_whole whole []
      rw [List.append_nil, List.append_nil, Frame.parseOne_stands stands short] at parsed
      cases parsed
    exact .ended front whole (Schedule.size_lt front fewer (.inl some))
  | @badMagic found left yields fresh bad =>
    exact .badMagic (Schedule.stream_eq_of_yields yields).1 fresh bad
  | broken yields broke =>
    obtain ⟨limit, -, failed⟩ := broke
    exact absurd failed (Schedule.read_ne_failed _ _ limit _)

/-- **A reader that has come to some outcomes** on the bytes so far stands where parsing those bytes
leaves off. -/
structure Reached (max : Nat) (past : Bytes) (done : List ReadOutcome) (part : Bytes)
    (state : ReaderState) : Prop where
  parsed : Frame.parse max past = (done, part)
  ended : ∀ o ∈ done, o.endsFrame = true
  stands : state.Stands max part
  short : 0 < state.missing

/-- A new reader has taken nothing. -/
theorem reached_idle (max : Nat) : Reached max [] [] [] .idle where
  parsed := Frame.parse_nil max
  ended _ mem := absurd mem List.not_mem_nil
  stands := .idle
  short := Nat.one_pos

/-- Bytes that do not make the frame whole are **left over** with those before them. -/
theorem Reached.pending {max : Nat} {past part bytes : Bytes} {done : List ReadOutcome}
    {state state' : ReaderState} (h : Reached max past done part state)
    (stands : state'.Stands max (part ++ bytes)) (short : 0 < state'.missing) :
    Reached max (past ++ bytes) done (part ++ bytes) state' where
  parsed := by
    have none := Frame.parseOne_stands stands short
    rw [Frame.parse_append h.parsed h.ended, Frame.parse_of_none none, List.append_nil]
  ended := h.ended
  stands := stands
  short := short

/-- Bytes that make the frame whole are its **last**, and the next frame begins behind them. -/
theorem Reached.whole {max : Nat} {past part bytes : Bytes} {done : List ReadOutcome}
    {state : ReaderState} {outcome : ReadOutcome} (h : Reached max past done part state)
    (whole : Frame.Whole max (part ++ bytes) outcome) :
    Reached max (past ++ bytes) (done ++ [outcome]) [] .idle where
  parsed := by
    have alone := Frame.parse_whole whole []
    rw [List.append_nil, Frame.parse_nil] at alone
    rw [Frame.parse_append h.parsed h.ended, alone]
  ended o mem := by
    rcases List.mem_append.mp mem with mem | mem
    · exact h.ended o mem
    · rw [List.mem_singleton.mp mem]
      exact whole.endsFrame
  stands := .idle
  short := Nat.one_pos

/-- A bad byte where a frame should begin is the **end of parsing**. -/
theorem Reached.parse_badMagic {max : Nat} {past : Bytes} {done : List ReadOutcome}
    {state : ReaderState} {found : UInt8} (h : Reached max past done [] state)
    (bad : found ≠ Frame.magic) (more : Bytes) :
    Frame.parse max (past ++ found :: more) = (done ++ [.failed (.badMagic found)], more) := by
  rw [Frame.parse_append h.parsed h.ended, List.nil_append, Frame.parse_badMagic bad]

/-- **What the next call comes to.** Either the reader goes on from where parsing leaves off then,
or it has met a bad byte and stops. -/
inductive Next (max : Nat) (past : Bytes) (done : List ReadOutcome) (schedule : Schedule) :
    ReadOutcome × FrameReader × Schedule → Prop
  | goesOn {outcome : ReadOutcome} {bytes part : Bytes} {state : ReaderState} {left : Schedule}
      (stream_eq : schedule.stream = bytes ++ left.stream)
      (fine : ∀ error, outcome ≠ .failed error)
      (reached : Reached max (past ++ bytes)
        (done ++ outcomes [(outcome, ⟨max, state⟩, left)]) part state)
      (ends : outcome.endsFrame = true → part = [])
      (less : left.size < schedule.size ∨ left.size = 0) :
      Next max past done schedule (outcome, ⟨max, state⟩, left)
  | stops {found : UInt8} {left : Schedule} (stream_eq : schedule.stream = found :: left.stream)
      (parsed : ∀ more, Frame.parse max (past ++ found :: more) =
        (done ++ [.failed (.badMagic found)], more)) :
      Next max past done schedule (.failed (.badMagic found), ⟨max, .idle⟩, left)

theorem Reached.next {max : Nat} {past part : Bytes} {done : List ReadOutcome}
    {state : ReaderState} (h : Reached max past done part state) (schedule : Schedule) :
    Next max past done schedule (read ⟨max, state⟩ schedule) := by
  have call := call_read h.stands h.short schedule
  generalize read ⟨max, state⟩ schedule = step at call ⊢
  cases call with
  | @pending state' bytes left stream_eq stands short less =>
    have reached := h.pending stands short
    have same : done ++ outcomes [(.pending, ⟨max, state'⟩, left)] = done := by
      rw [outcomes_pending, List.append_nil]
    rw [← same] at reached
    exact .goesOn stream_eq (fun _ failed => by cases failed) reached (fun ends => by cases ends)
      less
  | @ended outcome bytes left stream_eq whole less =>
    have ends := whole.endsFrame
    have fine : ∀ error, outcome ≠ .failed error := by
      rintro error rfl
      cases ends
    refine .goesOn stream_eq fine ?_ (fun _ => rfl) (.inl less)
    rw [outcomes_of_endsFrame ends]
    exact h.whole whole
  | badMagic stream_eq fresh bad =>
    subst fresh
    exact .stops stream_eq (h.parse_badMagic bad)

/-- Calling a reader goes on after a call that did not fail. -/
theorem readTimes_succ {σ : Type} [Channel σ] {reader reader' : FrameReader} {s s' : σ}
    {outcome : ReadOutcome} (step : reader.read s = (outcome, reader', s'))
    (fine : ∀ error, outcome ≠ .failed error) (times : Nat) :
    readTimes (times + 1) reader s = (outcome, reader', s') :: readTimes times reader' s' := by
  rw [readTimes, step]
  cases outcome with
  | failed error => exact absurd rfl (fine error)
  | _ => rfl

/-- Calling a reader **stops** at a call that fails. -/
theorem readTimes_succ_of_failed {σ : Type} [Channel σ] {reader reader' : FrameReader} {s s' : σ}
    {error : FrameError} (step : reader.read s = (.failed error, reader', s')) (times : Nat) :
    readTimes (times + 1) reader s = [(.failed error, reader', s')] := by
  rw [readTimes, step]

/-- **All outcomes** of a reader that is called often enough are those of parsing. -/
theorem Reached.outcomes_readTimes {max : Nat} {past part : Bytes} {done : List ReadOutcome}
    {state : ReaderState} {schedule : Schedule} {times : Nat}
    (h : Reached max past done part state) (enough : schedule.size ≤ times) :
    done ++ outcomes (readTimes times ⟨max, state⟩ schedule) =
      (Frame.parse max (past ++ schedule.stream)).1 := by
  induction times generalizing past done part state schedule with
  | zero =>
    -- a schedule that may be read no more times has no bytes left
    have none : schedule.stream = [] := by
      rw [Schedule.size] at enough
      exact List.eq_nil_of_length_eq_zero (by omega)
    rw [none, List.append_nil, h.parsed]
    exact List.append_nil done
  | succ times ih =>
    have next := h.next schedule
    generalize step : read ⟨max, state⟩ schedule = after at next
    cases next with
    | @goesOn outcome bytes part' state' left stream_eq fine reached ends less =>
      rw [readTimes_succ step fine, outcomes_cons, ← List.append_assoc, ih reached (by omega),
        stream_eq, List.append_assoc]
    | stops stream_eq parsed =>
      rw [readTimes_succ_of_failed step, stream_eq, parsed]
      rfl

/-- **What a call shows of the bytes so far**: its outcome is the last to which parsing them comes,
if it is any; the reader is in a frame just if parsing leaves bytes over; and at the end of a frame
all bytes so far are those of frames. -/
def Shows (max : Nat) (past : Bytes) (done : List ReadOutcome)
    (step : ReadOutcome × FrameReader × Schedule) : Prop :=
  ∃ part, Frame.parse max past = (done ++ outcomes [step], part) ∧
    (step.2.1.inProgress = true ↔ part ≠ []) ∧
    (step.1.endsFrame = true →
      past.length = ((done ++ outcomes [step]).map ReadOutcome.size).sum)

/-- A reader that goes on **shows** what parsing comes to. -/
theorem Reached.shows {max : Nat} {past part : Bytes} {done : List ReadOutcome}
    {state : ReaderState} {outcome : ReadOutcome} {left : Schedule}
    (h : Reached max past (done ++ outcomes [(outcome, ⟨max, state⟩, left)]) part state)
    (whole : outcome.endsFrame = true → part = []) :
    Shows max past done (outcome, ⟨max, state⟩, left) := by
  refine ⟨part, h.parsed, h.stands.inProgress_iff, fun ends => ?_⟩
  rw [Frame.length_eq_of_parse h.parsed h.ended, whole ends]
  rfl

/-- A reader that stops at a bad byte shows it, and is in no frame. -/
theorem shows_badMagic {max : Nat} {past : Bytes} {done : List ReadOutcome} {found : UInt8}
    (parsed : Frame.parse max (past ++ [found]) = (done ++ [.failed (.badMagic found)], []))
    (left : Schedule) :
    Shows max (past ++ [found]) done (.failed (.badMagic found), ⟨max, .idle⟩, left) := by
  refine ⟨[], parsed, ?_, fun ends => by cases ends⟩
  constructor
  · intro begun
    cases begun
  · intro some
    exact absurd rfl some

/-- **Before every call**, the reader stands where parsing the bytes so far leaves off. -/
theorem Reached.exists_of_readTimes {max : Nat} {past part : Bytes} {done : List ReadOutcome}
    {state : ReaderState} {schedule : Schedule} {times : Nat}
    (h : Reached max past done part state) {step : ReadOutcome × FrameReader × Schedule}
    {before later : List (ReadOutcome × FrameReader × Schedule)}
    (steps : readTimes times ⟨max, state⟩ schedule = before ++ step :: later) :
    ∃ taken part' state' schedule', schedule.stream = taken ++ schedule'.stream ∧
      Reached max (past ++ taken) (done ++ outcomes before) part' state' ∧
      step = read ⟨max, state'⟩ schedule' := by
  induction times generalizing past done part state schedule before with
  | zero => exact absurd steps (by simp [readTimes])
  | succ times ih =>
    have next := h.next schedule
    generalize first : read ⟨max, state⟩ schedule = after at next
    -- the call in question is this one, or comes later
    cases before with
    | nil =>
      have same : step = after := by
        cases next with
        | goesOn _ fine =>
          rw [readTimes_succ first fine] at steps
          exact (List.cons_eq_cons.mp steps).1.symm
        | stops =>
          rw [readTimes_succ_of_failed first] at steps
          exact (List.cons_eq_cons.mp steps).1.symm
      refine ⟨[], part, state, schedule, rfl, ?_, ?_⟩
      · rwa [outcomes_nil, List.append_nil, List.append_nil]
      · rw [same, first]
    | cons earlier before =>
      cases next with
      | @goesOn outcome bytes _ state₁ left stream_eq fine reached =>
        rw [readTimes_succ first fine] at steps
        obtain ⟨rfl, rest⟩ := List.cons_eq_cons.mp steps
        obtain ⟨taken, part', state', schedule', left_eq, reached', step_eq⟩ := ih reached rest
        refine ⟨bytes ++ taken, part', state', schedule', ?_, ?_, step_eq⟩
        · rw [stream_eq, left_eq, List.append_assoc]
        · rwa [outcomes_cons, ← List.append_assoc, ← List.append_assoc]
      | stops =>
        -- no call follows one that fails
        rw [readTimes_succ_of_failed first] at steps
        exact absurd (List.cons_eq_cons.mp steps).2 (by simp)

/-- **Every call** shows what parsing the bytes so far comes to. -/
theorem Reached.shows_readTimes {max : Nat} {past part : Bytes} {done : List ReadOutcome}
    {state : ReaderState} {schedule : Schedule} {times : Nat}
    (h : Reached max past done part state) {step : ReadOutcome × FrameReader × Schedule}
    {before later : List (ReadOutcome × FrameReader × Schedule)}
    (steps : readTimes times ⟨max, state⟩ schedule = before ++ step :: later) :
    ∃ taken, schedule.stream = taken ++ step.2.2.stream ∧
      Shows max (past ++ taken) (done ++ outcomes before) step := by
  obtain ⟨taken, part', state', schedule', taken_eq, reached, rfl⟩ := h.exists_of_readTimes steps
  have next := reached.next schedule'
  generalize read ⟨max, state'⟩ schedule' = step at next
  cases next with
  | @goesOn outcome bytes part state left stream_eq _ reached' ends =>
    rw [List.append_assoc] at reached'
    refine ⟨taken ++ bytes, ?_, reached'.shows ends⟩
    rw [taken_eq, stream_eq, List.append_assoc]
  | @stops found left stream_eq parsed =>
    have shows := shows_badMagic (parsed []) left
    rw [List.append_assoc] at shows
    refine ⟨taken ++ [found], ?_, shows⟩
    rw [taken_eq, stream_eq, List.append_assoc]
    rfl

/-- **How a stream is cut does not matter.** A new reader that is called until nothing is to come
any more, or until it fails, comes to what parsing the whole stream comes to. And after each call,
what it has come to is what parsing the bytes that it has taken comes to: it is in a frame just if
these end in the middle of one, and at the end of a frame they are those of the frames so far, of
`9 + C + V` bytes each, and no more. -/
theorem readTimes_eq_parse (max : Nat) (schedule : Schedule) (times : Nat) :
    let steps := readTimes times { maxFrameSize := max } schedule
    (schedule.size ≤ times → outcomes steps = (Frame.parse max schedule.stream).1) ∧
      ∀ before step later, steps = before ++ step :: later →
        ∃ taken part, schedule.stream = taken ++ step.2.2.stream ∧
          Frame.parse max taken = (outcomes (before ++ [step]), part) ∧
          (step.2.1.inProgress = true ↔ part ≠ []) ∧
          (step.1.endsFrame = true →
            taken.length = ((outcomes (before ++ [step])).map ReadOutcome.size).sum) := by
  refine ⟨fun enough => ?_, fun before step later steps => ?_⟩
  · exact (reached_idle max).outcomes_readTimes enough
  · obtain ⟨taken, stream_eq, part, parsed, begun, ends⟩ :=
      (reached_idle max).shows_readTimes steps
    rw [outcomes_append]
    exact ⟨taken, part, stream_eq, parsed, begun, ends⟩

/-- A frame in three pieces, the last of which has a bad byte behind it. -/
def inPieces : Schedule :=
  ⟨[.bytes [70, 0, 0, 0], .block, .bytes [], .bytes [1, 0, 0, 0, 1, 65, 66, 71, 9]]⟩

/-- The frame is read whole, the bad byte is found, and **between the two** exactly eleven bytes are
gone. -/
theorem readTimes_inPieces :
    (inPieces.size ≤ 20 ∧ outcomes (readTimes 20 { maxFrameSize := 2 } inPieces) =
      [.frame ⟨[65], [66]⟩, .failed (.badMagic 71)]) ∧
    ∃ before later, readTimes 20 { maxFrameSize := 2 } inPieces =
        before ++ (.frame ⟨[65], [66]⟩, ⟨2, .idle⟩, ⟨[.bytes [71, 9]]⟩) :: later ∧
      ∃ taken part, inPieces.stream = taken ++ [71, 9] ∧
        Frame.parse 2 taken = ([.frame ⟨[65], [66]⟩], part) ∧
        (ReaderState.idle.inProgress = true ↔ part ≠ []) ∧
        (ReadOutcome.endsFrame (.frame ⟨[65], [66]⟩) = true → taken.length = 11) := by
  have same := readTimes_eq_parse 2 inPieces 20
  have begun : 3 ≤ 4 := by decide
  have steps : readTimes 20 { maxFrameSize := 2 } inPieces =
      [(.pending, ⟨2, .commandLength ⟨4, #[0, 0, 0], begun⟩⟩,
          ⟨[.bytes [], .bytes [1, 0, 0, 0, 1, 65, 66, 71, 9]]⟩),
        (.pending, ⟨2, .commandLength ⟨4, #[0, 0, 0], begun⟩⟩,
          ⟨[.bytes [1, 0, 0, 0, 1, 65, 66, 71, 9]]⟩)] ++
      (.frame ⟨[65], [66]⟩, ⟨2, .idle⟩, ⟨[.bytes [71, 9]]⟩) ::
      [(.failed (.badMagic 71), ⟨2, .idle⟩, ⟨[.bytes [9]]⟩)] := by with_unfolding_all rfl
  refine ⟨⟨by decide, (same.1 (by decide)).trans (by decide +kernel)⟩, ?_⟩
  exact ⟨_, _, steps, same.2 _ _ _ steps⟩

end FrameReader

end DriveLink
