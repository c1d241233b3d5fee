import DriveLink.Channel.Waiter
import DriveLink.Proofs.Frame.Schedule

/-! # Channels that a drive opens

A drive opens its side of a connection by itself: bytes come in any pieces, and once all are there,
the channel either stays silent or fails. Time passes meanwhile as it likes, and waiting for the
channel works.

* `Opening` — such a channel;
* `Opening.After` — the same channel later, some bytes further on;
* `Opening.heard` — all that can be heard on it;
* `Opening.Available` — everything that comes comes in time. -/

namespace DriveLink

open Channel (Yields Vain Broke)

/-- A channel that a **drive opens**. -/
structure Opening where
  schedule : Schedule
  /-- How the channel fails once all pieces are gone, if it does. -/
  fate : Option IoError := none
  /-- The time, by what is still to come and how often somebody has waited. -/
  clock : Schedule → Nat → Nat
  waits : Nat := 0
  /-- Whether there is a source to be registered. -/
  source : Bool := false

namespace Opening

/-- **Read** from the pieces. Once all of them are gone, a channel that is to fail does. -/
def read (o : Opening) (limit : Nat) : Transfer (Chunk limit) × Opening :=
  match o.schedule.arrivals, o.fate with
  | [], some error => (.failed error, o)
  | _, _ => ((o.schedule.read limit).1, { o with schedule := (o.schedule.read limit).2 })

/-- Something **is to come**: a piece, or the failure. -/
def Coming (o : Opening) : Prop := o.schedule.arrivals ≠ [] ∨ o.fate ≠ none

/-- **The same channel later**, when some bytes have been taken. -/
structure After (o : Opening) (taken : Bytes) (later : Opening) : Prop where
  stream_eq : o.schedule.stream = taken ++ later.schedule.stream
  fewer : later.schedule.arrivals.length ≤ o.schedule.arrivals.length
  fate_eq : later.fate = o.fate
  clock_eq : later.clock = o.clock
  waits_le : o.waits ≤ later.waits

variable {o later last : Opening} {taken more : Bytes} {limit : Nat} {error : IoError}

theorem After.refl (o : Opening) : o.After [] o := ⟨rfl, Nat.le_refl _, rfl, rfl, Nat.le_refl _⟩

theorem After.trans (h : o.After taken later) (h₁ : later.After more last) :
    o.After (taken ++ more) last where
  stream_eq := by rw [h.stream_eq, h₁.stream_eq, List.append_assoc]
  fewer := Nat.le_trans h₁.fewer h.fewer
  fate_eq := h₁.fate_eq.trans h.fate_eq
  clock_eq := h₁.clock_eq.trans h.clock_eq
  waits_le := Nat.le_trans h.waits_le h₁.waits_le

/-! ## Reading -/

theorem read_progress {chunk : Chunk limit} (h : o.read limit = (.progress chunk, later)) :
    o.After chunk.bytes later ∧ (chunk.bytes = [] → 0 < limit →
      later.schedule.arrivals.length < o.schedule.arrivals.length) := by
  unfold read at h
  split at h
  · cases h
  · obtain ⟨moved, rfl⟩ := Prod.mk.inj h
    obtain ⟨front, fewer, less⟩ := Schedule.read_progress (Prod.ext moved rfl)
    exact ⟨⟨front, fewer, rfl, rfl, Nat.le_refl _⟩, less⟩

theorem read_wouldBlock (h : o.read limit = (.wouldBlock, later)) :
    o.After [] later ∧ (later.schedule.arrivals.length < o.schedule.arrivals.length ∨
      ¬later.Coming) := by
  unfold read at h
  split at h
  · cases h
  · rename_i lives
    obtain ⟨blocked, rfl⟩ := Prod.mk.inj h
    have step : o.schedule.read limit = (.wouldBlock, (o.schedule.read limit).2) :=
      Prod.ext blocked rfl
    obtain ⟨same, less⟩ := Schedule.read_wouldBlock step
    rcases less with less | ⟨none, unchanged⟩
    · exact ⟨⟨same, Nat.le_of_lt less, rfl, rfl, Nat.le_refl _⟩, .inl less⟩
    · rw [unchanged]
      refine ⟨⟨rfl, Nat.le_refl _, rfl, rfl, Nat.le_refl _⟩, .inr ?_⟩
      -- without pieces, only a channel that does not fail has whoever reads it wait
      rintro (some | fails)
      · exact some none
      · obtain ⟨error, fate_eq⟩ := Option.ne_none_iff_exists'.mp fails
        exact lives error none fate_eq

theorem read_failed (h : o.read limit = (.failed error, later)) :
    later = o ∧ o.schedule.arrivals = [] ∧ o.fate = some error := by
  unfold read at h
  split at h
  · rename_i none fate_eq
    cases h
    exact ⟨rfl, none, fate_eq⟩
  · have step : o.schedule.read limit = (.failed error, (o.schedule.read limit).2) :=
      Prod.ext (Prod.mk.inj h).1 rfl
    exact absurd step (Schedule.read_ne_failed o.schedule _ limit error)

/-- What is read **is no longer to come**. -/
theorem length_stream_of_read {chunk : Chunk limit} (h : o.read limit = (.progress chunk, later)) :
    later.schedule.stream.length + chunk.bytes.length ≤ o.schedule.stream.length := by
  rw [(read_progress h).1.stream_eq, List.length_append]
  omega

/-- An opening is a channel. It takes what is written to it, as its schedule does. -/
instance : Channel Opening where
  read := read
  write o offered := ((Channel.write o.schedule offered).1, o)
  flush o := ((Channel.flush o.schedule).1, o)
  inbound o := o.schedule.stream.length
  read_inbound := length_stream_of_read

/-- **What an opening yields** stands at the front of its stream. -/
theorem after_of_yields (h : Yields o taken later) : o.After taken later := by
  induction h with
  | nothing o => exact .refl o
  | progress read _ ih => exact (read_progress read).1.trans ih
  | wouldBlock read _ ih => exact (read_wouldBlock read).1.trans ih
  | failed read _ ih =>
    obtain ⟨rfl, -, -⟩ := read_failed read
    exact ih

/-- **Asking in vain** uses up a piece, unless nothing is to come any more. -/
theorem fewer_of_vain (h : Vain o later) : o.After [] later ∧
    (later.schedule.arrivals.length < o.schedule.arrivals.length ∨ ¬later.Coming) := by
  cases h with
  | wouldBlock wants read => exact read_wouldBlock read
  | nothing wants read none =>
    obtain ⟨after, less⟩ := read_progress read
    rw [none] at after
    exact ⟨after, .inl (less none wants)⟩

/-- An opening **fails** only when all pieces are gone. -/
theorem eq_of_broke (h : Broke error o later) :
    later = o ∧ o.schedule.arrivals = [] ∧ o.fate = some error := by
  obtain ⟨limit, -, read⟩ := h
  exact read_failed read

/-! ## Waiting -/

/-- The same channel after **one more wait**. -/
def waited (o : Opening) : Opening := { o with waits := o.waits + 1 }

theorem after_waited (o : Opening) : o.After [] o.waited :=
  ⟨rfl, Nat.le_refl _, rfl, rfl, Nat.le_succ _⟩

instance : Pollable Opening where
  now o := o.clock o.schedule o.waits
  sleep o _ := o.waited
  hasSource o := o.source
  register o _ _ := (.ok (), o)
  reregister o _ _ := (.ok (), o)
  deregister o _ := (.ok (), o)
  poll o _ := (.ok true, o.waited)

/-- **Waiting works**, and takes nothing. -/
theorem exists_wait (waiter : Waiter) (readiness : Readiness) (timeout : Duration) (o : Opening) :
    ∃ ready waiter' later, waiter.wait readiness timeout o = (.ok ready, waiter', later) ∧
      o.After [] later ∧ later.schedule = o.schedule := by
  obtain ⟨registrar, registered, since⟩ := waiter
  unfold Waiter.wait
  split
  · cases registered <;> exact ⟨_, _, _, rfl, after_waited o, rfl⟩
  · simp only
    split
    · exact ⟨_, _, _, rfl, .refl o, rfl⟩
    · exact ⟨_, _, _, rfl, after_waited o, rfl⟩

/-- Taking the registration back **changes nothing**. -/
theorem release_eq (waiter : Waiter) (o : Opening) : (waiter.release o).2 = o := by
  unfold Waiter.release
  split
  · simp only
    split <;> rfl
  · rfl

/-! ## All that can be heard -/

/-- **All that can be heard** by a reader that has taken some bytes of a frame: the frames of the
stream that goes on behind them, and the failure of the channel. -/
def heard (o : Opening) (max : Nat) (part : Bytes) : List ReadOutcome :=
  (Frame.parse max (part ++ o.schedule.stream)).1 ++ (o.fate.map (.failed ∘ .channel)).toList

/-- Behind some bytes that make up whole frames, **the rest is heard**. -/
theorem heard_of_after {max : Nat} {part rest : Bytes} {ends : List ReadOutcome}
    (after : o.After taken later)
    (parsed : ∀ more, (Frame.parse max (part ++ taken ++ more)).1 =
      ends ++ (Frame.parse max (rest ++ more)).1) :
    o.heard max part = ends ++ later.heard max rest := by
  rw [heard, heard, after.stream_eq, ← List.append_assoc, parsed, List.append_assoc, after.fate_eq]

/-- Once nothing is to come any more, **nothing is heard** of a frame that is not whole. -/
theorem heard_of_not_coming {max : Nat} {part : Bytes} (silent : ¬o.Coming)
    (none : Frame.parseOne max part = none) : o.heard max part = [] := by
  rw [Coming, not_or, not_not, not_not] at silent
  have nothing : o.schedule.stream = [] := by
    rw [Schedule.stream, silent.1]
    rfl
  rw [heard, nothing, List.append_nil, Frame.parse_of_none none, silent.2]
  rfl

/-- **A read that fails** is the first thing that can be heard. -/
theorem exists_heard_of_failed {max : Nat} {part : Bytes} {state : ReaderState}
    {error : FrameError} (h : FrameReader.Reads max part o ⟨.failed error, state, later⟩) :
    ∃ behind, o.heard max part = .failed error :: behind := by
  cases h with
  | ended yields whole => cases whole.endsFrame
  | @badMagic found _ yields fresh bad =>
    have stream_eq := (after_of_yields yields).stream_eq
    rw [heard, fresh, List.nil_append, stream_eq, List.singleton_append,
      Frame.parse_badMagic bad]
    exact ⟨_, rfl⟩
  | @broken state error bytes o₁ _ yields broke stands short =>
    obtain ⟨-, none, fate_eq⟩ := eq_of_broke broke
    have after := after_of_yields yields
    have stream_eq := after.stream_eq
    have nothing : o₁.schedule.stream = [] := by
      rw [Schedule.stream, none]
      rfl
    rw [nothing, List.append_nil] at stream_eq
    rw [heard, stream_eq, Frame.parse_of_none (Frame.parseOne_stands stands short),
      ← after.fate_eq, fate_eq]
    exact ⟨[], rfl⟩

/-- As long as something is to come, **it is not too late**. -/
def Available (o : Opening) (timeout : Duration) : Prop :=
  ∀ {taken later}, o.After taken later → later.Coming →
    Pollable.now later < Pollable.now o + timeout.nanoseconds

end Opening

end DriveLink
