import DriveLink.Proofs.Frame.Schedule
import DriveLink.Proofs.Pipeline.Intake

/-! # Receiving again and again

An inbox whose frames come in pieces has to be called once for each piece. If somebody waits at each
frame and none of them says to stop, then the pieces do not matter: once all are there, the calls
have done together what the frames do one after the other.

* `Inbox.receiveTimes` — calls an inbox so many times;
* `Correlator.Wants` — frames at each of which somebody waits, and none of which says to stop;
* `Inbox.Round`, `Inbox.round_receiveFrom` — what one call comes to on such frames;
* `Inbox.receiveTimes_of_wants` — what all of them come to. -/

namespace DriveLink

variable {η : Type}

namespace Inbox

/-- **Receive** so many times: the events of all calls, and how the last one ended. Without a call,
that is like having to wait. -/
def receiveTimes {σ : Type} [Channel σ] : (times : Nat) → Inbox η → σ → Received η σ
  | 0, inbox, s => ⟨.waiting, [], inbox, s⟩
  | times + 1, inbox, s =>
    let received := inbox.receive s
    let later := receiveTimes times received.inbox received.channel
    { later with events := received.events ++ later.events }

theorem receiveTimes_succ {σ : Type} [Channel σ] (times : Nat) (inbox : Inbox η) (s : σ) :
    inbox.receiveTimes (times + 1) s =
      let received := inbox.receive s
      let later := received.inbox.receiveTimes times received.channel
      { later with events := received.events ++ later.events } := rfl

end Inbox

/-! ## Frames that are wanted -/

namespace Correlator

/-- Frames that are **all wanted**: somebody waits at each of them, and none of them says to stop.
-/
inductive Wants : Correlator η → List ReadOutcome → Prop
  | nil (c : Correlator η) : Wants c []
  | cons {c : Correlator η} {outcome : ReadOutcome} {ends : List ReadOutcome}
      (somebody : c.outstanding.entries ≠ []) (goesOn : (c.accept outcome).stop = false)
      (later : Wants (c.accept outcome).correlator ends) : Wants c (outcome :: ends)

/-- Behind some of them, **the others are wanted**. -/
theorem Wants.of_append {c : Correlator η} {ends later : List ReadOutcome}
    (h : c.Wants (ends ++ later)) : (c.afterAll ends).Wants later := by
  induction ends generalizing c with
  | nil => exact h
  | cons outcome ends ih =>
    cases h with
    | cons _ _ rest => exact ih rest

end Correlator

/-! ## One call -/

/-- A stream of no frames that leaves nothing over **is empty**. -/
theorem Frame.eq_nil_of_parse {max : Nat} {stream : Bytes} (h : parse max stream = ([], [])) :
    stream = [] :=
  List.eq_nil_of_length_eq_zero (length_eq_of_parse h fun _ mem => absurd mem List.not_mem_nil)

/-- A reader that has taken nothing of a frame is **between two frames**. -/
theorem ReaderState.Stands.eq_idle {max : Nat} {state : ReaderState} (h : state.Stands max []) :
    state = .idle := by
  cases h
  rfl

namespace Inbox

variable {max : Nat} {c : Correlator η} {ends : List ReadOutcome} {state : ReaderState}
  {part : Bytes} {schedule : Schedule}

/-- **What one call comes to** on a schedule of frames that are all wanted: some of the frames are
done, and the others are what is to come. A piece is used up, or nothing is to come any more. -/
inductive Round (max : Nat) (c : Correlator η) (ends : List ReadOutcome) (schedule : Schedule) :
    Received η Schedule → Prop
  | intro {sooner later : List ReadOutcome} {part : Bytes} {state : ReaderState}
      {received : Received η Schedule} (ends_eq : ends = sooner ++ later)
      (events_eq : received.events = c.told sooner)
      (inbox_eq : received.inbox = { correlator := c.afterAll sooner, reader := ⟨max, state⟩ })
      (stands : state.Stands max part) (short : 0 < state.missing)
      (parsed : Frame.parse max (part ++ received.channel.stream) = (later, []))
      (suffix : received.channel.stream <:+ schedule.stream)
      (less : received.channel.arrivals.length < schedule.arrivals.length ∨
        received.channel.stream = []) : Round max c ends schedule received

theorem round_receiveFrom (wants : c.Wants ends)
    (whole : ∀ outcome ∈ ends, outcome.endsFrame = true) (stands : state.Stands max part)
    (parsed : Frame.parse max (part ++ schedule.stream) = (ends, [])) :
    Round max c ends schedule (receiveFrom c ⟨max, state⟩ schedule) := by
  have receives := receives_receiveFrom c ⟨max, state⟩ schedule part stands
  generalize receiveFrom c ⟨max, state⟩ schedule = received at receives ⊢
  cases receives with
  | @intro sooner c' part' left last through halts =>
    obtain ⟨got, yields, further⟩ := through.exists_parse
    obtain ⟨stream_eq, fewer⟩ := Schedule.stream_eq_of_yields yields
    rw [stream_eq, ← List.append_assoc, further] at parsed
    obtain ⟨ends_eq, nothing⟩ := Prod.mk.inj parsed
    obtain rfl := through.correlator_eq
    -- what has been done makes up the frames so far, and the others are still to come
    obtain ⟨later, later_eq⟩ : ∃ later, (Frame.parse max (part' ++ left.stream)).1 = later :=
      ⟨_, rfl⟩
    have rest : Frame.parse max (part' ++ left.stream) = (later, []) := Prod.ext later_eq nothing
    rw [later_eq] at ends_eq
    subst ends_eq
    have wanted := wants.of_append
    cases halts with
    | nothing between nobody =>
      -- if another frame came, somebody would wait for it
      subst between
      cases wanted with
      | cons somebody => exact absurd nobody somebody
      | nil =>
        rw [List.nil_append] at rest
        exact .intro rfl (List.append_nil _) rfl .idle Nat.one_pos rest ⟨got, stream_eq.symm⟩
          (.inr (Frame.eq_nil_of_parse rest))
    | @stops bytes left' outcome want yields' ended stop =>
      rw [(Schedule.stream_eq_of_yields yields').1, ← List.append_assoc,
        Frame.parse_whole ended] at rest
      -- no frame that is wanted says to stop
      obtain ⟨rfl, -⟩ := Prod.mk.inj rest
      cases wanted with
      | cons _ goesOn =>
        rw [stop] at goesOn
        cases goesOn
    | @waits state' bytes s₁ left' want yields' vain stands' short =>
      obtain ⟨stream_eq', fewer'⟩ := Schedule.stream_eq_of_yields yields'
      obtain ⟨same, less⟩ := Schedule.fewer_of_vain vain
      rw [stream_eq', same, ← List.append_assoc] at rest
      have suffix : left'.stream <:+ schedule.stream := by
        rw [stream_eq, stream_eq', same, ← List.append_assoc]
        exact List.suffix_append _ _
      refine .intro rfl (List.append_nil _) rfl stands' short rest suffix ?_
      rcases less with less | none
      · exact .inl (Nat.lt_of_lt_of_le less (Nat.le_trans fewer' fewer))
      · exact .inr (List.eq_nil_of_length_eq_zero (Nat.eq_zero_of_add_eq_zero_right none))
    | @fails error left' want reads =>
      -- the stream is one of whole frames, and a schedule never fails
      cases reads with
      | ended _ ended => cases ended.endsFrame
      | @badMagic found _ yields' fresh bad =>
        rw [(Schedule.stream_eq_of_yields yields').1, fresh, List.nil_append, List.singleton_append,
          Frame.parse_badMagic bad] at rest
        obtain ⟨rfl, -⟩ := Prod.mk.inj rest
        cases whole _ (List.mem_append_right _ (List.mem_singleton_self _))
      | broken _ broke =>
        obtain ⟨limit, -, failed⟩ := broke
        exact absurd failed (Schedule.read_ne_failed _ _ limit _)

/-- **All calls together**: once every piece is there, they have done what the frames do one after
the other, and the inbox is between two frames. -/
theorem receiveTimes_of_wants {times : Nat} (wants : c.Wants ends)
    (whole : ∀ outcome ∈ ends, outcome.endsFrame = true) (stands : state.Stands max part)
    (short : 0 < state.missing) (parsed : Frame.parse max (part ++ schedule.stream) = (ends, []))
    (enough : schedule.arrivals.length ≤ times ∨ schedule.stream = []) :
    let run := receiveTimes times { correlator := c, reader := ⟨max, state⟩ } schedule
    run.events = c.told ends ∧
      run.inbox = { correlator := c.afterAll ends, reader := ⟨max, .idle⟩ } := by
  -- on the calls that are left: each of them uses up a piece, unless nothing is to come any more
  induction times generalizing c ends state part schedule with
  | zero =>
    have silent : schedule.stream = [] := by
      rcases enough with none | silent
      · rw [Schedule.stream, List.eq_nil_of_length_eq_zero (Nat.le_zero.mp none)]
        rfl
      · exact silent
    have none := Frame.parseOne_stands stands short
    rw [silent, List.append_nil, Frame.parse_of_none none] at parsed
    obtain ⟨rfl, rfl⟩ := Prod.mk.inj parsed
    rw [stands.eq_idle]
    exact ⟨rfl, rfl⟩
  | succ times ih =>
    have round := round_receiveFrom wants whole stands parsed
    have receive_eq : receive { correlator := c, reader := ⟨max, state⟩ } schedule =
        receiveFrom c ⟨max, state⟩ schedule := rfl
    rw [receiveTimes_succ, receive_eq]
    generalize receiveFrom c ⟨max, state⟩ schedule = received at round ⊢
    cases round with
    | @intro sooner later part' state' _ ends_eq events_eq inbox_eq stands' short' rest suffix
        less =>
      subst ends_eq
      have still : received.channel.arrivals.length ≤ times ∨ received.channel.stream = [] := by
        rcases less with less | silent
        · rcases enough with enough | silent
          · exact .inl (by omega)
          · rw [silent, List.suffix_nil] at suffix
            exact .inr suffix
        · exact .inr silent
      obtain ⟨events_eq', inbox_eq'⟩ := ih wants.of_append
        (fun outcome mem => whole outcome (List.mem_append_right _ mem)) stands' short' rest still
      simp only
      rw [inbox_eq, events_eq, events_eq', inbox_eq', Correlator.told_append,
        Correlator.afterAll_append]
      exact ⟨rfl, rfl⟩

end Inbox

end DriveLink
