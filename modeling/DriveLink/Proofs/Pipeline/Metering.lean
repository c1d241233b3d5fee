import DriveLink.Proofs.Channel.Meter
import DriveLink.Proofs.Pipeline.Coherence
import DriveLink.Proofs.Pipeline.Written

/-! # What a connection writes, by the meter

The events of a connection say which bytes its channel has taken and when a request is out. A meter
on the channel says the same of itself. They agree: whatever the owner does, and in whatever pieces
the channel takes what it is offered, the meter shows what the events say.

* `gauge_run`, `gauge_turn` — a run does to the meter what its events say;
* `Multiplexer.Steady` — between the owner's calls the channel takes nothing;
* `gauge_live` — what the meter shows after a life;
* `Gauge.accepted_afterAll` — the bytes that it has counted. -/

namespace DriveLink

variable {σ η : Type} [Channel σ] [Metered σ]

open Metered (gauge)

/-! ## Writing and reading -/

omit [Channel σ] [Metered σ] in
/-- What happens to a request that is out: its last bytes are **taken and pushed**. -/
theorem Gauge.afterAll_release (meter : Gauge) (request : InFlight η) (inbox : Inbox η)
    (bytes : Bytes) :
    meter.afterAll (.took request.sequence bytes :: .sent request.sequence ::
      (Outbox.release request inbox).1) = (meter.take bytes).push := by
  have releases := Outbox.releases_release request inbox
  generalize Outbox.release request inbox = released at releases ⊢
  cases releases <;> rfl

theorem gauge_sendFrom (request : InFlight η) (queue : List (QueuedRequest η)) (inbox : Inbox η)
    (s : σ) :
    gauge (Outbox.sendFrom request queue inbox s).channel =
      (gauge s).afterAll (Outbox.sendFrom request queue inbox s).events := by
  fun_induction Outbox.sendFrom request queue inbox s with
  | case1 queue request inbox s writer s' took write => exact FrameWriter.gauge_write write
  | case2 queue request inbox s writer s' took error status failed write =>
    rw [Gauge.afterAll_cons, Gauge.afterAll_completed]
    exact FrameWriter.gauge_write write
  | case3 request inbox s writer s' took released inbox' release events write =>
    have out := Gauge.afterAll_release (gauge s) request inbox (request.writer.taken writer)
    rw [release] at out
    exact (FrameWriter.gauge_write write).trans out.symm
  | case4 request inbox s writer s' took released inbox' release events next queue later write ih =>
    have out := Gauge.afterAll_release (gauge s) request inbox (request.writer.taken writer)
    have first : gauge s' = ((gauge s).take (request.writer.taken writer)).push :=
      FrameWriter.gauge_write write
    rw [release, ← first] at out
    rw [Gauge.afterAll_append, out]
    exact ih

theorem gauge_send (outbox : Outbox η) (inbox : Inbox η) (s : σ) :
    gauge (outbox.send inbox s).channel =
      (gauge s).afterAll (outbox.send inbox s).events := by
  unfold Outbox.send
  split
  · rfl
  · simp only
    split
    · exact gauge_sendFrom _ _ _ _
    · exact gauge_sendFrom _ _ _ _
    · rfl

omit [Channel σ] [Metered σ] in
/-- What happens at the end of a frame **leaves a meter as it is**. -/
theorem Gauge.afterAll_received (meter : Gauge) (outcome : ReadOutcome)
    (done : List (Completion η)) :
    meter.afterAll (.received outcome :: done.map .completed) = meter := by
  rw [afterAll_cons, afterAll_completed]
  rfl

theorem gauge_receiveFrom {reader : FrameReader} (sound : reader.Sound) (c : Correlator η) (s : σ) :
    gauge (Inbox.receiveFrom c reader s).channel =
      (gauge s).afterAll (Inbox.receiveFrom c reader s).events := by
  have reads {reader : FrameReader} (sound : reader.Sound) (s : σ) :
      gauge (reader.read s).2.2 = gauge s := by
    obtain ⟨bytes, yields⟩ := sound.yields s
    exact yields.gauge_eq
  fun_induction Inbox.receiveFrom c reader s with
  | case1 c reader s nothing => rfl
  | case2 c reader s some read ends accepted events stop =>
    rw [Gauge.afterAll_received]
    exact reads sound s
  | case3 c reader s some read ends accepted events more later ih =>
    rw [Gauge.afterAll_append, Gauge.afterAll_received, ← reads sound s]
    exact ih (sound.read s)
  | case4 c reader s some read open' error failure failed c' all =>
    rw [Gauge.afterAll_received]
    exact reads sound s
  | case5 c reader s some read open' fine => exact reads sound s

theorem gauge_receive {inbox : Inbox η} (sound : inbox.reader.Sound) (s : σ) :
    gauge (inbox.receive s).channel = (gauge s).afterAll (inbox.receive s).events := by
  unfold Inbox.receive
  split
  · rfl
  · exact gauge_receiveFrom sound _ _

/-! ## Runs and turns -/

/-- **A run** does to the meter what its events say. -/
theorem gauge_run {m : Multiplexer σ η} (h : m.Coherent) :
    gauge m.run.service.channel = (gauge m.channel).afterAll m.run.events := by
  have sends := gauge_send m.outbox m.inbox m.channel
  have sound := h.sound_send
  have receives := gauge_receive sound (m.outbox.send m.inbox m.channel).channel
  rw [sends, ← Gauge.afterAll_append] at receives
  unfold Multiplexer.run
  split
  · rfl
  · simp only
    split
    · exact sends
    · split
      · exact receives
      · exact receives

omit [Channel σ] [Metered σ] in
/-- What happens while the owner submits or takes back **leaves a meter as it is**. -/
theorem Gauge.afterAll_of_inCall {events : List (Event η)} (h : ∀ event ∈ events, event.InCall)
    (meter : Gauge) : meter.afterAll events = meter := by
  induction events with
  | nil => rfl
  | cons event events ih =>
    rw [afterAll_cons]
    cases h event (List.mem_cons_self ..) <;> exact ih fun _ mem => h _ (List.mem_cons_of_mem _ mem)

/-- **Every turn** of the owner does to the meter what its events say. -/
theorem gauge_turn {m : Multiplexer σ η} (h : m.Coherent) {turn : Turn σ η}
    (steady : ∀ channel, turn = .elapse channel → gauge channel = gauge m.channel) :
    gauge (m.turn turn).service.channel = (gauge m.channel).afterAll (m.turn turn).events := by
  rcases m.turn_cases turn with rfl | ⟨channel, rfl⟩ | still
  · exact gauge_run h
  · exact steady channel rfl
  · rw [still.channel, Gauge.afterAll_of_inCall still.events]

/-! ## Lives -/

/-- **Between the calls of its owner** the channel takes nothing: wherever it changes by itself, its
meter shows the same as before. -/
def Multiplexer.Steady (m : Multiplexer σ η) (turns : List (Turn σ η)) : Prop :=
  m.Elapses (fun s s' => gauge s' = gauge s) turns

/-- **What the meter shows after a life** is what the events say. -/
theorem gauge_live {m : Multiplexer σ η} (h : m.Coherent) {turns : List (Turn σ η)}
    (steady : m.Steady turns) :
    gauge (m.live turns).service.channel = (gauge m.channel).afterAll (m.live turns).events := by
  induction turns generalizing m with
  | nil => rfl
  | cons turn turns ih =>
    obtain ⟨first, later⟩ := steady.of_cons
    rw [Multiplexer.live_cons]
    simp only
    rw [ih (h.turn turn) later, gauge_turn h first, Gauge.afterAll_append]

omit [Channel σ] [Metered σ] in
/-- **The bytes that a meter has counted**: those that were taken, one after the other. -/
theorem Gauge.accepted_afterAll (meter : Gauge) (events : List (Event η)) :
    (meter.afterAll events).accepted = meter.accepted ++ (Event.wire events).map Prod.snd := by
  induction events generalizing meter with
  | nil => exact (List.append_nil _).symm
  | cons event events ih =>
    have wire_eq : Event.wire (event :: events) = event.bytes ++ Event.wire events :=
      List.flatMap_cons
    rw [afterAll_cons, ih, wire_eq, List.map_append, ← List.append_assoc]
    refine congrArg (· ++ _) ?_
    cases event with
    | took sequence bytes =>
      rw [Event.bytes, labelled, List.map_map]
      exact congrArg _ (List.map_id' bytes).symm
    | _ => exact (List.append_nil _).symm

end DriveLink
