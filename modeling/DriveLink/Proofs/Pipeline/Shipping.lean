import DriveLink.Proofs.Channel.Calls
import DriveLink.Proofs.Pipeline.Names

/-! # What a call to send gets out

A call to send gets frames out, one after the other, and each of them makes its request wait for its
answer. Then it halts: the channel takes no more, all frames are out, or writing fails. If it fails,
those requests fail that are not out by then, in their order, and nobody else.

* `Writing`, `Ships` — the frames that a call gets out, and where it comes to by that;
* `Ships.inbox_eq`, `Ships.pushes` — what becomes of these requests, and of the channel;
* `Outbox.exists_ships_of_failed` — what a call does that fails;
* `Path.completions_eq_nil` — getting frames out completes nobody, as long as names are in order. -/

namespace DriveLink

variable {σ η : Type}

open Channel (Pushed Pushes)

/-- **Where writing has come to**: the request that is being written, those behind it, the inbox,
and the channel. -/
structure Writing (η σ : Type) where
  request : InFlight η
  queue : List (QueuedRequest η)
  inbox : Inbox η
  channel : σ

namespace Writing

/-- The tickets of the requests that are not entirely written. -/
def tickets (w : Writing η σ) : List (Ticket η) :=
  w.request.ticket :: w.queue.map QueuedRequest.ticket

/-- The inbox once the **request that is being written is out**. -/
def released (w : Writing η σ) : Inbox η := (Outbox.release w.request w.inbox).2

/-- What happens when the request that is being written **comes to be out**. -/
def releasing (w : Writing η σ) (writer : FrameWriter) : List (Event η) :=
  .took w.request.sequence (w.request.writer.taken writer) :: .sent w.request.sequence ::
    (Outbox.release w.request w.inbox).1

/-- What a call to send does **from there on**. -/
def send [Channel σ] (w : Writing η σ) : Outbox.Stopped η σ :=
  Outbox.sendFrom w.request w.queue w.inbox w.channel

end Writing

/-- **The frames that a call to send gets out**, with what happens meanwhile. -/
inductive Ships [Channel σ] : Writing η σ → List (Ticket η) → List (Event η) → Writing η σ → Prop
  | done (w : Writing η σ) : Ships w [] [] w
  | frame {w w' : Writing η σ} {next : QueuedRequest η} {queue : List (QueuedRequest η)}
      {writer : FrameWriter} {s : σ} {out : List (Ticket η)} {events : List (Event η)}
      (behind : w.queue = next :: queue)
      (write : w.request.writer.write w.channel = (.done, writer, s))
      (later : Ships ⟨next.begin, queue, w.released, s⟩ out events w') :
      Ships w (w.request.ticket :: out) (w.releasing writer ++ events) w'

/-- The status of a request that **could not be told** that it is out. -/
def untracked : Status := .client .internalError "could not track response for request"

/-- Whoever is completed in some events only learns that **it could not be told** that its request
is out. -/
def Event.Untold (events : List (Event η)) : Prop :=
  ∀ completion ∈ Event.completions events, completion.outcome = .failed untracked none

theorem Event.untold_append {events later : List (Event η)} (h : Event.Untold events)
    (h' : Event.Untold later) : Event.Untold (events ++ later) := by
  intro completion mem
  rw [Event.completions_append, List.mem_append] at mem
  rcases mem with mem | mem
  · exact h completion mem
  · exact h' completion mem

namespace Writing

variable (w : Writing η σ) (writer : FrameWriter)

theorem untold_releasing : Event.Untold (w.releasing writer) := by
  have releases := Outbox.releases_release w.request w.inbox
  unfold releasing
  generalize Outbox.release w.request w.inbox = released at releases ⊢
  intro completion mem
  cases releases with
  | unasked none => exact absurd mem List.not_mem_nil
  | tracked some fresh => exact absurd mem List.not_mem_nil
  | refused some taken =>
    obtain rfl := List.mem_singleton.mp mem
    rfl

theorem outgoing_releasing : Event.outgoing (w.releasing writer) = [w.request.sequence] := by
  have releases := Outbox.releases_release w.request w.inbox
  unfold releasing
  generalize Outbox.release w.request w.inbox = released at releases ⊢
  cases releases <;> rfl

/-- A request that is out waits **behind those that wait already**, unless it has no handler or
could not be told. -/
theorem exists_added :
    ∃ added, w.released = { w.inbox with correlator := { w.inbox.correlator with
        outstanding := ⟨w.inbox.correlator.outstanding.entries ++ added⟩ } } ∧
      (Event.completions (w.releasing writer) = [] → added.map OutstandingRequest.ticket =
        [w.request.ticket].filter (·.handler.isSome)) := by
  have releases := Outbox.releases_release w.request w.inbox
  unfold releasing released
  obtain ⟨⟨left, sequence, key, handler⟩, queue, inbox, channel⟩ := w
  generalize Outbox.release _ _ = released at releases ⊢
  cases releases with
  | unasked none =>
    subst none
    exact ⟨[], by rw [List.append_nil], fun _ => rfl⟩
  | tracked some fresh =>
    subst some
    exact ⟨_, rfl, fun _ => rfl⟩
  | refused some taken =>
    -- whoever could not be told is completed
    refine ⟨[], by rw [List.append_nil], fun none => ?_⟩
    cases none

end Writing

/-! ## Getting frames out -/

namespace Ships

variable [Channel σ] {w w' : Writing η σ} {out : List (Ticket η)} {events : List (Event η)}

/-- **The requests that get out** are the first ones. -/
theorem tickets_eq (h : Ships w out events w') : w.tickets = out ++ w'.tickets := by
  induction h with
  | done => rfl
  | frame behind _ _ ih =>
    rw [Writing.tickets, behind, List.cons_append, ← ih]
    rfl

theorem outgoing_eq (h : Ships w out events w') :
    Event.outgoing events = out.map Ticket.sequence := by
  induction h with
  | done => rfl
  | frame _ _ _ ih =>
    rw [Event.outgoing_append, Writing.outgoing_releasing, ih]
    rfl

theorem untold (h : Ships w out events w') : Event.Untold events := by
  induction h with
  | done => exact fun _ mem => absurd mem List.not_mem_nil
  | @frame w _ _ _ writer _ _ _ _ _ _ ih =>
    exact Event.untold_append (w.untold_releasing writer) ih

/-- The requests that get out wait **behind those that wait already**. If nobody is completed
meanwhile, they are all those that have a handler. -/
theorem inbox_eq (h : Ships w out events w') :
    ∃ added, w'.inbox = { w.inbox with correlator := { w.inbox.correlator with
        outstanding := ⟨w.inbox.correlator.outstanding.entries ++ added⟩ } } ∧
      (Event.completions events = [] →
        added.map OutstandingRequest.ticket = out.filter (·.handler.isSome)) := by
  induction h with
  | done => exact ⟨[], by rw [List.append_nil], fun _ => rfl⟩
  | @frame w w' next queue writer s out events behind write later ih =>
    obtain ⟨first, released_eq, first_eq⟩ := w.exists_added writer
    obtain ⟨rest, inbox_eq, rest_eq⟩ := ih
    refine ⟨first ++ rest, ?_, fun none => ?_⟩
    · rw [inbox_eq, released_eq]
      simp only [List.append_assoc]
    · rw [Event.completions_append, List.append_eq_nil_iff] at none
      rw [List.map_append, first_eq none.1, rest_eq none.2, ← List.filter_append]
      rfl

end Ships

/-! ## Calls that fail, and calls that do not -/

namespace Outbox

variable [Channel σ]

/-- What a call to send does **that fails**: it gets some frames out, and then a call to the channel
fails. So do the requests that are not out. -/
theorem exists_ships_of_failed (w : Writing η σ) (fails : w.send.activity = .failed) :
    ∃ out before w' error bytes, Ships w out before w' ∧
      Pushed w.channel (some error) w.send.channel ∧ w.send.inbox = w'.inbox ∧
      w.send.current = none ∧ w.send.queue = [] ∧
      w.send.events = before ++ .took w'.request.sequence bytes ::
        (w'.tickets.flatMap (Ticket.fail · (.client .ioError
          ("I/O write error: " ++ (FrameError.channel error).message)))).map .completed := by
  obtain ⟨request, queue, inbox, s⟩ := w
  unfold Writing.send at fails ⊢
  fun_induction sendFrom request queue inbox s with
  | case1 queue request inbox s writer s' took write => cases fails
  | case2 queue request inbox s writer s' took error status failed write =>
    -- the first call fails, with everything still unsent
    obtain ⟨cause, rfl⟩ := FrameWriter.exists_channel_of_failed write
    refine ⟨[], [], ⟨request, queue, inbox, s⟩, cause, request.writer.taken writer, .done _,
      FrameWriter.pushed_write write, rfl, rfl, rfl, ?_⟩
    show _ :: (failures (some request) queue status).map _ = _
    rw [failures_eq]
    rfl
  | case3 request inbox s writer s' took released inbox' release events write => cases fails
  | case4 request inbox s writer s' took released inbox' release events next queue later write ih =>
    -- the request at the front is out, and the failure lies in the rest of the call
    obtain ⟨out, before, w', error, bytes, ships, pushed, inbox_eq, free, empty, events_eq⟩ :=
      ih fails
    have first : (⟨request, next :: queue, inbox, s⟩ : Writing η σ).released = inbox' :=
      congrArg Prod.snd release
    rw [← first] at ships
    refine ⟨_, _, w', error, bytes, .frame rfl write ships,
      pushed.after (FrameWriter.pushed_write write).pushes, inbox_eq, free, empty, ?_⟩
    show events ++ later.events = _
    rw [events_eq, List.append_assoc, Writing.releasing, release]

/-- What a call to send does **that does not fail**: it gets some frames out, and no call to the
channel fails. -/
theorem pushes_of_works (w : Writing η σ) (works : w.send.activity ≠ .failed) :
    Pushes w.channel w.send.channel ∧ Event.Untold w.send.events := by
  obtain ⟨request, queue, inbox, s⟩ := w
  unfold Writing.send at works ⊢
  fun_induction sendFrom request queue inbox s with
  | case1 queue request inbox s writer s' took write =>
    exact ⟨(FrameWriter.pushed_write write).pushes, fun _ mem => absurd mem List.not_mem_nil⟩
  | case2 queue request inbox s writer s' took error status failed write => exact absurd rfl works
  | case3 request inbox s writer s' took released inbox' release events write =>
    have untold := (⟨request, [], inbox, s⟩ : Writing η σ).untold_releasing writer
    rw [Writing.releasing, release] at untold
    exact ⟨(FrameWriter.pushed_write write).pushes, untold⟩
  | case4 request inbox s writer s' took released inbox' release events next queue later write ih =>
    obtain ⟨pushes, later_untold⟩ := ih works
    have untold := (⟨request, next :: queue, inbox, s⟩ : Writing η σ).untold_releasing writer
    rw [Writing.releasing, release] at untold
    exact ⟨(FrameWriter.pushed_write write).pushes.trans pushes,
      Event.untold_append untold later_untold⟩

variable {outbox : Outbox η}

/-- An outbox that has **nothing to write** does nothing. -/
theorem send_of_nothing (working : outbox.failed = false) (nothing : outbox.unsent = [])
    (inbox : Inbox η) (s : σ) : outbox.send inbox s = ⟨.idle, [], outbox, inbox, s⟩ := by
  obtain ⟨signer, identity, hmacKey, queue, current, nextSequence, failed⟩ := outbox
  subst working
  cases current with
  | some request => cases nothing
  | none =>
    cases queue with
    | nil => rfl
    | cons next queue => cases nothing

/-- An outbox that has something to write **goes on with the first of it**. -/
theorem exists_writing (working : outbox.failed = false) (some : outbox.unsent ≠ [])
    (inbox : Inbox η) (s : σ) :
    ∃ w : Writing η σ, w.tickets = outbox.unsent ∧ w.inbox = inbox ∧ w.channel = s ∧
      outbox.send inbox s = ⟨w.send.activity, w.send.events,
        { outbox with
          current := w.send.current, queue := w.send.queue, failed := w.send.activity = .failed },
        w.send.inbox, w.send.channel⟩ := by
  obtain ⟨signer, identity, hmacKey, queue, current, nextSequence, failed⟩ := outbox
  subst working
  cases current with
  | some request => exact ⟨⟨request, queue, inbox, s⟩, rfl, rfl, rfl, rfl⟩
  | none =>
    cases queue with
    | nil => exact absurd rfl some
    | cons next queue => exact ⟨⟨next.begin, queue, inbox, s⟩, rfl, rfl, rfl, rfl⟩

/-- **Sending that does not fail** makes calls that work, and completes nobody but those who could
not be told that their requests are out. -/
theorem pushes_send (working : outbox.failed = false) {inbox : Inbox η} {s : σ}
    (works : (outbox.send inbox s).activity ≠ .failed) :
    Pushes s (outbox.send inbox s).channel ∧ Event.Untold (outbox.send inbox s).events := by
  by_cases nothing : outbox.unsent = []
  · rw [send_of_nothing working nothing]
    exact ⟨.refl, fun _ mem => absurd mem List.not_mem_nil⟩
  · obtain ⟨w, -, rfl, rfl, send_eq⟩ := exists_writing working nothing inbox s
    rw [send_eq] at works ⊢
    exact pushes_of_works w works

end Outbox

/-- As long as names are in order, getting frames out **completes nobody**. -/
theorem Path.completions_eq_nil [Channel σ] {m m' : Multiplexer σ η}
    {past events later : List (Event η)} (h : Path m (past ++ (events ++ later)) m')
    (fresh : m.Fresh) (few : (Event.submissions (past ++ (events ++ later))).length < 2 ^ 63)
    (untold : Event.Untold events) : Event.completions events = [] := by
  by_contra some
  obtain ⟨completion, mem⟩ := List.exists_mem_of_ne_nil _ some
  have outcome_eq := untold completion mem
  obtain ⟨before, after, rfl⟩ := List.append_of_mem (Event.mem_completions.mp mem)
  rw [List.append_assoc, ← List.append_assoc] at h few
  obtain ⟨-, m₁, sooner, rest, m₂, -, -, order, move, -, -⟩ := h.exists_move_inOrder fresh few
  have internal : completion.outcome.isInternal = true := by
    rw [outcome_eq]
    rfl
  -- the client blames itself for frames that cannot be made, and for nothing else
  obtain ⟨reason, same⟩ := order.internal_cases move
    (List.mem_append_right _ (List.mem_cons_self ..)) internal
  rw [outcome_eq] at same
  exact reason_ne_untracked reason (congrArg Status.text (Outcome.failed.inj same).1).symm

end DriveLink
