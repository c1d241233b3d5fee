import DriveLink.Proofs.Frame.Train
import DriveLink.Proofs.Pipeline.Fault

/-! # What a call to receive takes in

A call to receive goes through whole frames, one after the other, as long as somebody waits and no
frame says to stop. Then it halts: there is nothing to read for, a frame says to stop, the channel
has no more, or reading fails. What it has done by then depends on the bytes of these frames alone.

* `Correlator.afterAll`, `Correlator.told` — what some frames do, one after the other;
* `Inbox.Through` — the frames that a call goes through, with the bytes that it takes for them;
* `Inbox.Halts` — how it halts;
* `Inbox.receives_receiveFrom` — every call goes through some frames and halts;
* `Inbox.Next`, `Next.receive` — a frame that lies ready is what a call takes in first. -/

namespace DriveLink

variable {σ η : Type}

open Channel (Yields Vain)
open FrameReader (Reads)

/-! ## What some frames do -/

namespace Correlator

/-- Who waits, and what is known, **after the end of some frames**. -/
def afterAll (c : Correlator η) (ends : List ReadOutcome) : Correlator η :=
  ends.foldl (fun c outcome => (c.accept outcome).correlator) c

/-- What **happens at the end of a frame**. -/
def toldOf (c : Correlator η) (outcome : ReadOutcome) : List (Event η) :=
  .received outcome :: (c.accept outcome).completions.map .completed

/-- What **happens at the end of some frames**, one after the other. -/
def told (c : Correlator η) : List ReadOutcome → List (Event η)
  | [] => []
  | outcome :: ends => c.toldOf outcome ++ (c.accept outcome).correlator.told ends

@[simp] theorem afterAll_nil (c : Correlator η) : c.afterAll [] = c := rfl

@[simp] theorem afterAll_cons (c : Correlator η) (outcome : ReadOutcome)
    (ends : List ReadOutcome) :
    c.afterAll (outcome :: ends) = (c.accept outcome).correlator.afterAll ends := rfl

theorem afterAll_append (c : Correlator η) (ends later : List ReadOutcome) :
    c.afterAll (ends ++ later) = (c.afterAll ends).afterAll later := List.foldl_append

@[simp] theorem told_nil (c : Correlator η) : c.told [] = [] := rfl

theorem told_cons (c : Correlator η) (outcome : ReadOutcome) (ends : List ReadOutcome) :
    c.told (outcome :: ends) = c.toldOf outcome ++ (c.accept outcome).correlator.told ends := rfl

theorem told_append (c : Correlator η) (ends later : List ReadOutcome) :
    c.told (ends ++ later) = c.told ends ++ (c.afterAll ends).told later := by
  induction ends generalizing c with
  | nil => rfl
  | cons outcome ends ih =>
    rw [List.cons_append, told_cons, told_cons, ih, afterAll_cons, List.append_assoc]

/-- The requests that the end of a frame **completes**. -/
theorem completions_toldOf (c : Correlator η) (outcome : ReadOutcome) :
    Event.completions (c.toldOf outcome) = (c.accept outcome).completions := by
  rw [toldOf, ← List.singleton_append, Event.completions_append, Event.completions_map_completed]
  rfl

/-- **No frame** changes whose key is used. -/
theorem sameKey_afterAll (c : Correlator η) {ends : List ReadOutcome}
    (whole : ∀ outcome ∈ ends, outcome.endsFrame = true) : SameKey c (c.afterAll ends) := by
  induction ends generalizing c with
  | nil => exact .refl c
  | cons outcome ends ih =>
    have first := (c.accepts_accept (whole outcome (List.mem_cons_self ..))).sameKey
    exact first.trans (ih _ fun other mem => whole other (List.mem_cons_of_mem _ mem))

/-- The end of a frame completes **only requests that wait**, and lets no others wait. -/
theorem Accepts.waits {c : Correlator η} {outcome : ReadOutcome} {accepted : Accepted η}
    (h : Accepts c outcome accepted) :
    accepted.correlator.outstanding.entries.Sublist c.outstanding.entries ∧
      ∀ completion ∈ accepted.completions,
        ∃ request ∈ c.outstanding.entries, completion.key = request.key := by
  cases h with
  | giveUp status connectionId stop =>
    refine ⟨List.nil_sublist _, fun completion mem => ?_⟩
    obtain ⟨request, inside, rfl⟩ := List.mem_map.mp mem
    exact ⟨request, inside, rfl⟩
  | passOver connectionId => exact ⟨.refl _, fun _ mem => absurd mem List.not_mem_nil⟩
  | @answer frame _ response request before after opened answers entries_eq connectionId =>
    rw [entries_eq]
    refine ⟨(List.sublist_cons_self request after).append_left before, fun completion mem => ?_⟩
    refine ⟨request, List.mem_append_right _ (List.mem_cons_self ..), ?_⟩
    rw [List.mem_singleton.mp mem, Completion.answer]
    split <;> rfl
  | @tooLarge bytes commandLength valueLength request before after acknowledged entries_eq =>
    rw [entries_eq]
    refine ⟨(List.sublist_cons_self request after).append_left before, fun completion mem => ?_⟩
    refine ⟨request, List.mem_append_right _ (List.mem_cons_self ..), ?_⟩
    rw [List.mem_singleton.mp mem]
    rfl

/-- Behind some frames **nobody waits who did not** before them. -/
theorem afterAll_sublist (c : Correlator η) {ends : List ReadOutcome}
    (whole : ∀ outcome ∈ ends, outcome.endsFrame = true) :
    (c.afterAll ends).outstanding.entries.Sublist c.outstanding.entries := by
  induction ends generalizing c with
  | nil => exact .refl _
  | cons outcome ends ih =>
    have fewer := (c.accepts_accept (whole outcome (List.mem_cons_self ..))).waits.1
    exact (ih _ fun other mem => whole other (List.mem_cons_of_mem _ mem)).trans fewer

end Correlator

/-! ## Going through frames -/

namespace Inbox

variable [Channel σ]

/-- **The frames that a call to receive goes through**, if it has taken some bytes of the first one
before. Each of them is read because there is something to read for, and none of them says to
stop. -/
inductive Through (max : Nat) : Correlator η → Bytes → σ → List ReadOutcome → Correlator η →
    Bytes → σ → Prop
  | done (c : Correlator η) (taken : Bytes) (s : σ) : Through max c taken s [] c taken s
  | frame {c c' : Correlator η} {taken taken' bytes : Bytes} {s s₁ s' : σ} {outcome : ReadOutcome}
      {ends : List ReadOutcome} (wanted : taken ≠ [] ∨ c.outstanding.entries ≠ [])
      (yields : Yields s bytes s₁) (whole : Frame.Whole max (taken ++ bytes) outcome)
      (goesOn : (c.accept outcome).stop = false)
      (later : Through max (c.accept outcome).correlator [] s₁ ends c' taken' s') :
      Through max c taken s (outcome :: ends) c' taken' s'

/-- **How a call to receive halts** at a frame of which it has taken some bytes. -/
inductive Halts (max : Nat) (c : Correlator η) (taken : Bytes) (s : σ) : Received η σ → Prop
  /-- There is nothing to read for. -/
  | nothing (between : taken = []) (nobody : c.outstanding.entries = []) :
      Halts max c taken s ⟨.idle, [], { correlator := c, reader := ⟨max, .idle⟩ }, s⟩
  /-- The frame says to stop. -/
  | stops {bytes : Bytes} {s' : σ} {outcome : ReadOutcome}
      (wanted : taken ≠ [] ∨ c.outstanding.entries ≠ [])
      (yields : Yields s bytes s') (whole : Frame.Whole max (taken ++ bytes) outcome)
      (stop : (c.accept outcome).stop = true) :
      Halts max c taken s ⟨.idle, c.toldOf outcome,
        { correlator := (c.accept outcome).correlator, reader := ⟨max, .idle⟩ }, s'⟩
  /-- The channel has no more. -/
  | waits {state : ReaderState} {bytes : Bytes} {s₁ s' : σ}
      (wanted : taken ≠ [] ∨ c.outstanding.entries ≠ []) (yields : Yields s bytes s₁)
      (vain : Vain s₁ s') (stands : state.Stands max (taken ++ bytes)) (short : 0 < state.missing) :
      Halts max c taken s ⟨.waiting, [], { correlator := c, reader := ⟨max, state⟩ }, s'⟩
  /-- Reading fails, and with it every request that is out. -/
  | fails {error : FrameError} {s' : σ} (wanted : taken ≠ [] ∨ c.outstanding.entries ≠ [])
      (reads : Reads max taken s ⟨.failed error, .idle, s'⟩) :
      Halts max c taken s ⟨.failed, .received (.failed error) ::
          (OutstandingRequest.failures c.outstanding.entries
            (.client .ioError ("I/O read error: " ++ error.message))).map .completed,
        { correlator := { c with outstanding := .empty }, reader := ⟨max, .idle⟩, failed := true },
        s'⟩

/-- **What a call to receive does**: it goes through some frames, and halts. -/
inductive Receives (max : Nat) (c : Correlator η) (taken : Bytes) (s : σ) : Received η σ → Prop
  | intro {ends : List ReadOutcome} {c' : Correlator η} {taken' : Bytes} {s₁ : σ}
      {last : Received η σ} (through : Through max c taken s ends c' taken' s₁)
      (halts : Halts max c' taken' s₁ last) :
      Receives max c taken s { last with events := c.told ends ++ last.events }

variable {max : Nat} {c c' : Correlator η} {taken taken' : Bytes} {s s' : σ}
  {ends : List ReadOutcome}

/-- A call that goes through no frame **halts at once**. -/
theorem Halts.receives {last : Received η σ} (h : Halts max c taken s last) :
    Receives max c taken s last := .intro (.done c taken s) h

/-- A call goes through a frame **before** it goes through others. -/
theorem Receives.cons {bytes : Bytes} {outcome : ReadOutcome} {later : Received η σ}
    (wanted : taken ≠ [] ∨ c.outstanding.entries ≠ []) (yields : Yields s bytes s')
    (whole : Frame.Whole max (taken ++ bytes) outcome) (goesOn : (c.accept outcome).stop = false)
    (h : Receives max (c.accept outcome).correlator [] s' later) :
    Receives max c taken s { later with events := c.toldOf outcome ++ later.events } := by
  cases h with
  | @intro ends c' taken' s₁ last through halts =>
    have all := Receives.intro (.frame wanted yields whole goesOn through) halts
    rwa [Correlator.told_cons, List.append_assoc] at all

theorem Through.endsFrame {s₁ : σ} (h : Through max c taken s ends c' taken' s₁) :
    ∀ outcome ∈ ends, outcome.endsFrame = true := by
  induction h with
  | done => exact fun _ mem => absurd mem List.not_mem_nil
  | frame _ _ whole _ _ ih =>
    intro outcome mem
    rcases List.mem_cons.mp mem with rfl | mem
    · exact whole.endsFrame
    · exact ih outcome mem

/-- Behind the frames that a call goes through, **what is known** is what they leave behind. -/
theorem Through.correlator_eq {s₁ : σ} (h : Through max c taken s ends c' taken' s₁) :
    c' = c.afterAll ends := by
  induction h with
  | done => rfl
  | frame _ _ _ _ _ ih => exact ih

/-- None of the frames that a call to receive goes through **says to stop**. -/
theorem Through.goesOn {sooner later : List ReadOutcome} {outcome : ReadOutcome}
    (h : Through max c taken s ends c' taken' s') (ends_eq : ends = sooner ++ outcome :: later) :
    ((c.afterAll sooner).accept outcome).stop = false := by
  induction h generalizing sooner with
  | done => exact absurd ends_eq (by simp)
  | frame wanted yields whole goesOn _ ih =>
    cases sooner with
    | nil =>
      obtain ⟨rfl, -⟩ := List.cons_eq_cons.mp ends_eq
      exact goesOn
    | cons first sooner =>
      rw [List.cons_append] at ends_eq
      obtain ⟨rfl, rest_eq⟩ := List.cons_eq_cons.mp ends_eq
      exact ih rest_eq

/-- **The frames that a call goes through are those of the bytes that it takes for them.** Whatever
comes behind them is parsed as if it came there. -/
theorem Through.exists_parse {s₁ : σ} (h : Through max c taken s ends c' taken' s₁) :
    ∃ got, Yields s got s₁ ∧ ∀ more, Frame.parse max (taken ++ got ++ more) =
      (ends ++ (Frame.parse max (taken' ++ more)).1, (Frame.parse max (taken' ++ more)).2) := by
  induction h with
  | done c taken s =>
    refine ⟨[], .nothing s, fun more => ?_⟩
    rw [List.append_nil]
    rfl
  | frame _ yields whole _ _ ih =>
    obtain ⟨got, yields', parsed⟩ := ih
    refine ⟨_, yields.trans yields', fun more => ?_⟩
    rw [← List.append_assoc, List.append_assoc, Frame.parse_whole whole]
    -- behind the first frame, a frame is parsed from its front on
    have later := parsed more
    rw [List.nil_append] at later
    rw [later]
    rfl

end Inbox

/-! ## Every call -/

namespace FrameReader

variable {max : Nat} {taken : Bytes} [Channel σ] {s s' : σ} {outcome : ReadOutcome}
  {state : ReaderState}

/-- A read that **came to the end of a frame** took the rest of it. -/
theorem Reads.of_endsFrame (h : Reads max taken s ⟨outcome, state, s'⟩)
    (ends : outcome.endsFrame = true) :
    ∃ bytes, Yields s bytes s' ∧ Frame.Whole max (taken ++ bytes) outcome ∧ state = .idle := by
  cases h with
  | ended yields whole => exact ⟨_, yields, whole, rfl⟩
  | _ => cases ends

/-- A read that **has to wait** stands further on in the frame. -/
theorem Reads.of_pending (h : Reads max taken s ⟨.pending, state, s'⟩) :
    ∃ bytes s₁, Yields s bytes s₁ ∧ Vain s₁ s' ∧ state.Stands max (taken ++ bytes) ∧
      0 < state.missing := by
  cases h with
  | pending yields vain stands short => exact ⟨_, _, yields, vain, stands, short⟩
  | ended _ whole => cases whole.endsFrame

/-- A read that **fails** leaves the reader between two frames. -/
theorem Reads.idle_of_failed {error : FrameError}
    (h : Reads max taken s ⟨.failed error, state, s'⟩) : state = .idle := by
  cases h <;> rfl

/-- What a read comes to, **by the reader's own account**. -/
theorem reads_read {reader : FrameReader} (stands : reader.state.Stands reader.maxFrameSize taken)
    (s : σ) :
    Reads reader.maxFrameSize taken s
      ⟨(reader.read s).1, (reader.read s).2.1.state, (reader.read s).2.2⟩ :=
  reads_resume stands s

/-- A reader that is **between two frames** afterwards has only its limit. -/
theorem read_eq_of_idle {reader : FrameReader} (idle : (reader.read s).2.1.state = .idle) :
    (reader.read s).2.1 = ⟨reader.maxFrameSize, .idle⟩ := by
  rw [← idle]
  rfl

end FrameReader

namespace Inbox

variable [Channel σ]

/-- Whoever goes on reading has **something to read for**. -/
theorem wanted_of_some {c : Correlator η} {reader : FrameReader} {taken : Bytes}
    (stands : reader.state.Stands reader.maxFrameSize taken)
    (some : ¬ (!reader.inProgress && c.outstanding.isEmpty) = true) :
    taken ≠ [] ∨ c.outstanding.entries ≠ [] := by
  by_cases inside : reader.inProgress = true
  · exact .inl (stands.inProgress_iff.mp inside)
  · refine .inr fun nobody => some ?_
    rw [Bool.eq_false_iff.mpr inside, Outstanding.isEmpty, nobody]
    rfl

/-- **Every call** to receive goes through some frames, and halts. -/
theorem receives_receiveFrom (c : Correlator η) (reader : FrameReader) (s : σ) :
    ∀ taken, reader.state.Stands reader.maxFrameSize taken →
      Receives reader.maxFrameSize c taken s (receiveFrom c reader s) := by
  -- what has been taken of the first frame is told by the state of the reader, and changes with it
  fun_induction receiveFrom c reader s with
  | case1 c reader s nothing =>
    intro taken stands
    obtain ⟨between, nobody⟩ := Bool.and_eq_true_iff.mp nothing
    obtain ⟨max, state⟩ := reader
    cases state with
    | idle =>
      cases stands
      exact (Halts.nothing rfl (List.isEmpty_iff.mp nobody)).receives
    | _ => cases between
  | case2 c reader s some read ends accepted events stop =>
    intro taken stands
    obtain ⟨bytes, yields, whole, idle⟩ := (FrameReader.reads_read stands s).of_endsFrame ends
    have halts := Halts.stops (wanted_of_some stands some) yields whole stop
    rw [← FrameReader.read_eq_of_idle idle] at halts
    exact halts.receives
  | case3 c reader s some read ends accepted events more later ih =>
    intro taken stands
    obtain ⟨bytes, yields, whole, idle⟩ := (FrameReader.reads_read stands s).of_endsFrame ends
    -- the rest of the call begins with nothing taken
    have after : read.2.1.state.Stands read.2.1.maxFrameSize [] := by
      show (reader.read s).2.1.state.Stands _ []
      rw [idle]
      exact .idle
    exact (ih [] after).cons (wanted_of_some stands some) yields whole (Bool.eq_false_iff.mpr more)
  | case4 c reader s some read open' error failure failed c' all =>
    intro taken stands
    have reads := FrameReader.reads_read stands s
    have failure : (reader.read s).1 = .failed error := failure
    rw [failure] at reads
    have idle := reads.idle_of_failed
    rw [idle] at reads
    have halts := Halts.fails (wanted_of_some stands some) reads
    rw [← FrameReader.read_eq_of_idle idle, ← failure] at halts
    cases all
    exact halts.receives
  | case5 c reader s some read open' fine =>
    intro taken stands
    -- what is neither the end of a frame nor a failure is having to wait
    have pending : (reader.read s).1 = .pending := by
      cases outcome : (reader.read s).1 with
      | pending => rfl
      | failed error => exact (fine error outcome).elim
      | frame frame => exact absurd (congrArg ReadOutcome.endsFrame outcome) open'
      | tooLarge => exact absurd (congrArg ReadOutcome.endsFrame outcome) open'
    have reads := FrameReader.reads_read stands s
    rw [pending] at reads
    obtain ⟨bytes, s₁, yields, vain, stands', short⟩ := reads.of_pending
    exact (Halts.waits (wanted_of_some stands some) yields vain stands' short).receives

/-! ## The frame that comes next -/

variable [Stocked σ]

/-- A frame is **the next one** for an inbox that works and has something to read for: with what has
been taken of it, it lies ready, and so do some bytes behind it. -/
structure Next (inbox : Inbox η) (s : σ) (frame : Frame) (rest : Bytes) : Prop where
  working : inbox.failed = false
  wanted : inbox.reader.inProgress = true ∨ inbox.correlator.outstanding.entries ≠ []
  lengths : Frame.checkLengths frame.command.length frame.value.length = .ok ()
  front : ∃ taken, inbox.reader.state.Stands inbox.reader.maxFrameSize taken ∧
    frame.encode ++ rest <+: taken ++ Stocked.stock s

/-- **The next frame** is read as a whole, whether or not it is too large, and handed over. Then
reading goes on behind it, unless the frame says to stop. -/
theorem Next.receive {inbox : Inbox η} {s : σ} {frame : Frame} {rest : Bytes}
    (h : inbox.Next s frame rest) :
    ∃ outcome s₁, frame.Arrives inbox.reader.maxFrameSize outcome ∧ rest <+: Stocked.stock s₁ ∧
      inbox.receive s =
        let accepted := inbox.correlator.accept outcome
        let between : FrameReader := ⟨inbox.reader.maxFrameSize, .idle⟩
        let events := inbox.correlator.toldOf outcome
        if accepted.stop = true then ⟨.idle, events, ⟨accepted.correlator, between, false⟩, s₁⟩
        else
          let later := receiveFrom accepted.correlator between s₁
          { later with events := events ++ later.events } := by
  obtain ⟨taken, stands, front⟩ := h.front
  obtain ⟨outcome, whole, arrives⟩ := Frame.exists_arrives h.lengths inbox.reader.maxFrameSize
  obtain ⟨outcome_eq, reader_eq, behind⟩ := FrameReader.read_of_front stands whole front
  have wanted : ¬ (!inbox.reader.inProgress && inbox.correlator.outstanding.isEmpty) = true := by
    rw [Bool.and_eq_true, Outstanding.isEmpty, List.isEmpty_iff]
    rintro ⟨between, nobody⟩
    rcases h.wanted with begun | some
    · rw [begun] at between
      cases between
    · exact some nobody
  refine ⟨outcome, (inbox.reader.read s).2.2, arrives, behind, ?_⟩
  rw [receive_of_working h.working, receiveFrom, if_neg wanted]
  simp only [outcome_eq, reader_eq]
  exact dif_pos whole.endsFrame

/-- What happens in a call to receive **begins with what the next frame does**. -/
theorem Next.exists_events {inbox : Inbox η} {s : σ} {frame : Frame} {rest : Bytes}
    (h : inbox.Next s frame rest) :
    ∃ outcome later, frame.Arrives inbox.reader.maxFrameSize outcome ∧
      (inbox.receive s).events = inbox.correlator.toldOf outcome ++ later := by
  obtain ⟨outcome, s₁, arrives, -, receive_eq⟩ := h.receive
  refine ⟨outcome, ?_⟩
  rw [receive_eq]
  simp only
  split
  · exact ⟨[], arrives, (List.append_nil _).symm⟩
  · exact ⟨_, arrives, rfl⟩

end Inbox

end DriveLink
