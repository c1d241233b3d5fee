import DriveLink.Proofs.Pipeline.Move
import DriveLink.Proofs.Channel.Calls

/-! # What a run leaves alone

A run writes and reads, and calls its channel for nothing else. So whatever of the channel no read,
no write and no flush changes, whether it fails or not, a run leaves as it is.

* `Channel.Untouched` — what no such call changes;
* `Untouched.send`, `Untouched.receive`, `Untouched.run` — what therefore stays as it is. -/

namespace DriveLink

variable {σ η α : Type} [Channel σ]

/-- What **no read, no write and no flush** changes of a channel. -/
structure Channel.Untouched (view : σ → α) : Prop where
  read (s : σ) (limit : Nat) : view (Channel.read s limit).2 = view s
  write (s : σ) (offered : Bytes) : view (Channel.write s offered).2 = view s
  flush (s : σ) : view (Channel.flush s).2 = view s

namespace Channel.Untouched

variable {view : σ → α}

theorem pushes (h : Untouched view) {s s' : σ} (pushes : Pushes s s') : view s' = view s := by
  induction pushes with
  | refl => rfl
  | tail _ last ih =>
    cases last with
    | write call => exact ((congrArg (view ·.2) call).symm.trans (h.write _ _)).trans ih
    | flush call => exact ((congrArg (view ·.2) call).symm.trans (h.flush _)).trans ih

theorem pulls (h : Untouched view) {s s' : σ} (pulls : Pulls s s') : view s' = view s := by
  induction pulls with
  | refl => rfl
  | tail _ last ih =>
    obtain ⟨call, -⟩ := last
    exact ((congrArg (view ·.2) call).symm.trans (h.read _ _)).trans ih

/-- **Writing** leaves it as it is, whether it fails or not. -/
theorem pushed (h : Untouched view) {s s' : σ} {error : Option IoError}
    (pushed : Pushed s error s') : view s' = view s := by
  cases pushed with
  | works pushes => exact h.pushes pushes
  | fails pushes refuses =>
    rw [← h.pushes pushes]
    cases refuses with
    | write call => exact (congrArg (view ·.2) call).symm.trans (h.write _ _)
    | flush call => exact (congrArg (view ·.2) call).symm.trans (h.flush _)

/-- **Reading** leaves it as it is, whether it fails or not. -/
theorem pulled (h : Untouched view) {s s' : σ} {error : Option IoError}
    (pulled : Pulled s error s') : view s' = view s := by
  cases pulled with
  | works pulls => exact h.pulls pulls
  | fails pulls broke =>
    rw [← h.pulls pulls]
    obtain ⟨_, -, call⟩ := broke
    exact (congrArg (view ·.2) call).symm.trans (h.read _ _)

theorem sendFrom (h : Untouched view) (request : InFlight η) (queue : List (QueuedRequest η))
    (inbox : Inbox η) (s : σ) :
    view (Outbox.sendFrom request queue inbox s).channel = view s := by
  have writes {request : InFlight η} {s s' : σ} {outcome : WriteOutcome} {writer : FrameWriter}
      (write : request.writer.write s = (outcome, writer, s')) : view s' = view s :=
    h.pushed (FrameWriter.pushed_write write)
  fun_induction Outbox.sendFrom request queue inbox s with
  | case1 queue request inbox s writer s' took write => exact writes write
  | case2 queue request inbox s writer s' took error status failed write => exact writes write
  | case3 request inbox s writer s' took released inbox' release events write =>
    exact writes write
  | case4 request inbox s writer s' took released inbox' release events next queue later write ih =>
    exact ih.trans (writes write)

theorem send (h : Untouched view) (outbox : Outbox η) (inbox : Inbox η) (s : σ) :
    view (outbox.send inbox s).channel = view s := by
  unfold Outbox.send
  split
  · rfl
  · simp only
    split
    · exact h.sendFrom _ _ _ _
    · exact h.sendFrom _ _ _ _
    · rfl

theorem receiveFrom (h : Untouched view) (c : Correlator η) (reader : FrameReader) (s : σ) :
    view (Inbox.receiveFrom c reader s).channel = view s := by
  have reads (reader : FrameReader) (s : σ) : view (reader.read s).2.2 = view s :=
    h.pulled (reader.pulled_read s)
  fun_induction Inbox.receiveFrom c reader s with
  | case1 c reader s nothing => rfl
  | case2 c reader s some read ends accepted events stop => exact reads reader s
  | case3 c reader s some read ends accepted events more later ih =>
    exact ih.trans (reads reader s)
  | case4 c reader s some read open' error failure failed c' all => exact reads reader s
  | case5 c reader s some read open' fine => exact reads reader s

theorem receive (h : Untouched view) (inbox : Inbox η) (s : σ) :
    view (inbox.receive s).channel = view s := by
  unfold Inbox.receive
  split
  · rfl
  · exact h.receiveFrom _ _ _

/-- **A run** leaves it as it is. -/
theorem run (h : Untouched view) (m : Multiplexer σ η) :
    view m.run.service.channel = view m.channel := by
  have sends := h.send m.outbox m.inbox m.channel
  have receives := (h.receive (m.outbox.send m.inbox m.channel).inbox
    (m.outbox.send m.inbox m.channel).channel).trans sends
  unfold Multiplexer.run
  split
  · rfl
  · simp only
    split
    · exact sends
    · split
      · exact receives
      · exact receives

end Channel.Untouched

end DriveLink
