import DriveLink.Proofs.Frame.Reading
import DriveLink.Proofs.Pipeline.Correlation

/-! # A connection and its halves

A half of a connection that fails takes the whole with it, in the same run. So as long as the
connection is alive, both of its halves work; and dead or alive, its reader stands somewhere in a
frame.

* `Multiplexer.Coherent` — a connection that agrees with its halves;
* `coherent_of_start`, `Coherent.live` — every connection agrees with its halves. -/

namespace DriveLink

variable {σ η : Type} [Channel σ]

/-! ## Receiving -/

namespace Inbox

/-- Between two frames there is **nothing to read for** if nothing is out. -/
theorem receiveFrom_of_nothing {c : Correlator η} {reader : FrameReader}
    (between : reader.inProgress = false) (none : c.outstanding.entries = []) (s : σ) :
    receiveFrom c reader s = ⟨.idle, [], { correlator := c, reader }, s⟩ := by
  have nothing : (!reader.inProgress && c.outstanding.isEmpty) = true := by
    rw [between, Outstanding.isEmpty, none]
    rfl
  rw [receiveFrom, if_pos nothing]

/-- Receiving leaves the reader **somewhere in a frame**. -/
theorem sound_receiveFrom {reader : FrameReader} (sound : reader.Sound) (c : Correlator η) (s : σ) :
    (receiveFrom c reader s).inbox.reader.Sound := by
  fun_induction receiveFrom c reader s with
  | case1 c reader s nothing => exact sound
  | case2 c reader s some read ends accepted events stop => exact sound.read s
  | case3 c reader s some read ends accepted events more later ih => exact ih (sound.read s)
  | case4 c reader s some read open' error failure failed c' all => exact sound.read s
  | case5 c reader s some read open' fine => exact sound.read s

theorem sound_receive {inbox : Inbox η} (sound : inbox.reader.Sound) (s : σ) :
    (inbox.receive s).inbox.reader.Sound := by
  unfold receive
  split
  · exact sound
  · exact sound_receiveFrom sound _ _

end Inbox

/-! ## Sending -/

namespace Outbox

/-- A request whose frame is out changes an inbox **in what is out** only. -/
theorem exists_outstanding_of_release (request : InFlight η) (inbox : Inbox η) :
    ∃ outstanding, (release request inbox).2 =
      { inbox with correlator := { inbox.correlator with outstanding } } := by
  have releases := releases_release request inbox
  generalize release request inbox = released at releases ⊢
  cases releases with
  | unasked none => exact ⟨inbox.correlator.outstanding, rfl⟩
  | tracked some fresh => exact ⟨_, rfl⟩
  | refused some taken => exact ⟨inbox.correlator.outstanding, rfl⟩

theorem exists_outstanding_of_sendFrom (request : InFlight η) (queue : List (QueuedRequest η))
    (inbox : Inbox η) (s : σ) :
    ∃ outstanding, (sendFrom request queue inbox s).inbox =
      { inbox with correlator := { inbox.correlator with outstanding } } := by
  fun_induction sendFrom request queue inbox s with
  | case1 queue request inbox s writer s' took write =>
    exact ⟨inbox.correlator.outstanding, rfl⟩
  | case2 queue request inbox s writer s' took error status failed write =>
    exact ⟨inbox.correlator.outstanding, rfl⟩
  | case3 request inbox s writer s' took released inbox' release events write =>
    have out := exists_outstanding_of_release request inbox
    rwa [release] at out
  | case4 request inbox s writer s' took released inbox' release events next queue later write ih =>
    have out := exists_outstanding_of_release request inbox
    rw [release] at out
    obtain ⟨outstanding, rfl⟩ := out
    exact ih

/-- **Sending changes an inbox** in what is out only. -/
theorem exists_outstanding_of_send (outbox : Outbox η) (inbox : Inbox η) (s : σ) :
    ∃ outstanding, (outbox.send inbox s).inbox =
      { inbox with correlator := { inbox.correlator with outstanding } } := by
  unfold send
  split
  · exact ⟨inbox.correlator.outstanding, rfl⟩
  · simp only
    split
    · exact exists_outstanding_of_sendFrom _ _ _ _
    · exact exists_outstanding_of_sendFrom _ _ _ _
    · exact ⟨inbox.correlator.outstanding, rfl⟩

end Outbox

/-! ## The whole and its halves -/

/-- A connection that **agrees with its halves**. -/
structure Multiplexer.Coherent (m : Multiplexer σ η) : Prop where
  outbox : m.failed = false → m.outbox.failed = false
  inbox : m.failed = false → m.inbox.failed = false
  sound : m.inbox.reader.Sound

namespace Multiplexer

/-- Sending leaves the reader where it was. -/
theorem Coherent.sound_send {m : Multiplexer σ η} (h : m.Coherent) :
    (m.outbox.send m.inbox m.channel).inbox.reader.Sound := by
  obtain ⟨outstanding, inbox_eq⟩ := Outbox.exists_outstanding_of_send m.outbox m.inbox m.channel
  rw [inbox_eq]
  exact h.sound

theorem Coherent.run {m : Multiplexer σ η} (h : m.Coherent) : m.run.service.Coherent := by
  have sound := h.sound_send
  unfold Multiplexer.run
  split
  · exact h
  · simp only
    split
    · exact ⟨nofun, nofun, sound⟩
    · rename_i sends
      split
      · exact ⟨nofun, nofun, Inbox.sound_receive sound _⟩
      -- neither half said that it is dead
      · rename_i receives
        refine ⟨fun _ => ?_, fun _ => ?_, Inbox.sound_receive sound _⟩
        · exact Bool.eq_false_iff.mpr (mt (Outbox.failed_send_iff _ _ _).mp sends)
        · exact Bool.eq_false_iff.mpr (mt (Inbox.failed_receive_iff _ _).mp receives)

/-- **Every turn** leaves a connection in agreement with its halves. -/
theorem Coherent.turn {m : Multiplexer σ η} (h : m.Coherent) (turn : Turn σ η) :
    (m.turn turn).service.Coherent := by
  rcases m.turn_cases turn with rfl | ⟨channel, rfl⟩ | still
  · exact h.run
  · exact ⟨h.outbox, h.inbox, h.sound⟩
  · constructor
    · rw [still.failed, still.outbox]
      exact h.outbox
    · rw [still.failed, still.inbox]
      exact h.inbox
    · rw [still.reader]
      exact h.sound

/-- So a connection agrees with its halves **at every moment**. -/
theorem Coherent.live {m : Multiplexer σ η} (h : m.Coherent) (turns : List (Turn σ η)) :
    (m.live turns).service.Coherent :=
  live_invariant (fun _ m => m.Coherent) h (fun _ turn so_far => so_far.turn turn) turns

end Multiplexer

/-! ## From the greeting on -/

/-- What the end of a frame does to an inbox that waits for **at most one** request: nothing, or
there is none any more. -/
theorem Correlator.Accepts.of_one {c : Correlator η} {outcome : ReadOutcome}
    {accepted : Accepted η} (h : Accepts c outcome accepted)
    (one : c.outstanding.entries.length ≤ 1) :
    accepted.correlator.outstanding.entries = [] ∨
      accepted.completions = [] ∧
        accepted.correlator.outstanding.entries.length ≤ 1 := by
  cases h with
  | giveUp status connectionId stop => exact .inl rfl
  | passOver connectionId => exact .inr ⟨rfl, one⟩
  | answer opened answers entries_eq connectionId =>
    refine .inl (List.eq_nil_of_length_eq_zero ?_)
    rw [entries_eq, List.length_append, List.length_cons] at one
    simp only [List.length_append]
    omega
  | tooLarge acknowledged entries_eq =>
    refine .inl (List.eq_nil_of_length_eq_zero ?_)
    rw [entries_eq, List.length_append, List.length_cons] at one
    simp only [List.length_append]
    omega

namespace Inbox

/-- An inbox that waits for at most one request goes on doing so, and if it dies, **nobody has been
answered**. -/
theorem receiveFrom_of_one {c : Correlator η} (one : c.outstanding.entries.length ≤ 1)
    (reader : FrameReader) (s : σ) :
    (receiveFrom c reader s).inbox.correlator.outstanding.entries.length ≤ 1 ∧
      ((receiveFrom c reader s).inbox.failed = true →
        ∀ completion ∈ (receiveFrom c reader s).completions,
          completion.outcome.response? = none) := by
  fun_induction receiveFrom c reader s with
  | case1 c reader s nothing => exact ⟨one, fun dead => absurd dead Bool.false_ne_true⟩
  | case2 c reader s some read ends accepted events stop =>
    refine ⟨?_, fun dead => absurd dead Bool.false_ne_true⟩
    rcases (c.accepts_accept ends).of_one one with none | ⟨-, few⟩
    · simp only [accepted, none, List.length_nil, Nat.zero_le]
    · exact few
  | case3 c reader s some read ends accepted events more later ih =>
    rcases (c.accepts_accept ends).of_one one with none | ⟨nobody, few⟩
    · have idle : later = ⟨.idle, [], { correlator := accepted.correlator, reader := read.2.1 },
          read.2.2⟩ := receiveFrom_of_nothing (FrameReader.inProgress_read ends) none _
      rw [idle]
      refine ⟨?_, fun dead => absurd dead Bool.false_ne_true⟩
      simp only [accepted, none, List.length_nil, Nat.zero_le]
    · obtain ⟨kept, silent⟩ := ih few
      refine ⟨kept, fun dead completion mem => silent dead completion ?_⟩
      have nothing : Event.completions events = [] := by
        show Event.completions (.received read.1 :: accepted.completions.map .completed) = []
        rw [nobody]
        rfl
      rwa [Received.completions, Event.completions_append, nothing] at mem
  | case4 c reader s some read open' error failure failed c' all =>
    cases all
    refine ⟨Nat.zero_le 1, fun _ completion mem => ?_⟩
    rw [Received.completions, ← List.singleton_append, Event.completions_append,
      Event.completions_map_completed] at mem
    obtain ⟨request, -, rfl⟩ := List.mem_map.mp mem
    rfl
  | case5 c reader s some read open' fine => exact ⟨one, fun dead => absurd dead Bool.false_ne_true⟩

/-- Receiving from an inbox **that works**. -/
theorem receive_of_working {inbox : Inbox η} (working : inbox.failed = false) (s : σ) :
    inbox.receive s = receiveFrom inbox.correlator inbox.reader s := by
  rw [receive, if_neg (Bool.eq_false_iff.mp working)]

end Inbox

namespace Multiplexer

/-- **A connection that is started** agrees with its halves. -/
theorem coherent_of_start [Pollable σ] {patience : Nat} {signer : Signer} {options : Options}
    {s : σ} {m : Multiplexer σ η} (started : start patience signer options s = some (.ok m)) :
    m.Coherent := by
  -- until the greeting comes, the inbox works and waits for nothing else
  obtain ⟨inbox, s₁, ⟨working, sound, one⟩, -, reader_eq, failed_eq, greeted, -⟩ :=
    exists_receive_of_start
      (fun (inbox : Inbox Unit) _ => inbox.failed = false ∧ inbox.reader.Sound ∧
        inbox.correlator.outstanding.entries.length ≤ 1)
      (by
        rintro inbox s ⟨working, sound, one⟩ alive -
        refine ⟨Bool.eq_false_iff.mpr (mt (Inbox.failed_receive_iff inbox s).mp alive),
          Inbox.sound_receive sound s, ?_⟩
        rw [Inbox.receive_of_working working]
        exact (Inbox.receiveFrom_of_one one _ _).1)
      (fun _ _ _ _ kept => kept) ⟨rfl, FrameReader.sound_new _, Nat.le_refl 1⟩ started
  obtain ⟨-, outbox_eq⟩ := outbox_of_start started
  refine ⟨fun _ => ?_, fun _ => ?_, ?_⟩
  · rw [outbox_eq]
  · rw [failed_eq]
    by_contra dead
    have silent := (Inbox.receiveFrom_of_one one inbox.reader s₁).2
    rw [← Inbox.receive_of_working working] at silent
    -- the greeting is a response, and no inbox that died has come to one
    unfold greetingResult at greeted
    split at greeted
    · cases greeted
    · rename_i completion rest completions_eq
      have none := silent (Bool.eq_true_of_not_eq_false dead) completion
        (completions_eq ▸ List.mem_cons_self ..)
      split at greeted
      · rename_i answered
        rw [answered] at none
        cases none
      · cases greeted
  · rw [reader_eq]
    exact Inbox.sound_receive sound s₁

end Multiplexer

end DriveLink
