import DriveLink.Proofs.Pipeline.Transit
import Mathlib.Data.List.Nodup

/-! # The order in which requests go

Requests get their names in the order in which they are submitted, they are written in that order
and wait for their answers in that order, and nothing ever overtakes. So whatever names two requests
have at any moment, the older request has the lesser ones — as long as numbers do not run out.

* `Event.submissions`, `Event.tickets`, `Event.outgoing` — who is submitted, queued, and out;
* `Path.tickets_sublist`, `Path.outgoing_sublist` — nothing overtakes;
* `Numbered`, `numbered_live` — the names that requests get. -/

namespace DriveLink

variable {σ η : Type}

/-! ## Requests among events -/

namespace Event

/-- The request that is submitted, if one is. -/
def submission? : Event η → Option (RequestKey × Option η)
  | submitted key handler => some (key, handler)
  | _ => none

/-- The request that is queued, if one is. -/
def ticket? : Event η → Option (Ticket η)
  | queued request => some request.ticket
  | _ => none

/-- The number of the request that is out from now on, if one is. -/
def outgoing? : Event η → Option Int64
  | sent sequence => some sequence
  | _ => none

/-- The requests **submitted** in some events, by key, with their handlers. -/
def submissions (events : List (Event η)) : List (RequestKey × Option η) :=
  events.filterMap submission?

/-- The requests **queued** in some events. -/
def tickets (events : List (Event η)) : List (Ticket η) := events.filterMap ticket?

/-- The numbers of the requests that come to be **out** in some events. -/
def outgoing (events : List (Event η)) : List Int64 := events.filterMap outgoing?

@[simp] theorem submissions_append (events later : List (Event η)) :
    submissions (events ++ later) = submissions events ++ submissions later :=
  List.filterMap_append

@[simp] theorem tickets_append (events later : List (Event η)) :
    tickets (events ++ later) = tickets events ++ tickets later :=
  List.filterMap_append

@[simp] theorem outgoing_append (events later : List (Event η)) :
    outgoing (events ++ later) = outgoing events ++ outgoing later :=
  List.filterMap_append

/-- What is picked from some events, when it is picked from **one event** only, is there just if
that event is. -/
theorem mem_filterMap_iff {α : Type} {pick : Event η → Option α} {event : Event η} {a : α}
    (picks : ∀ other, pick other = some a ↔ other = event) {events : List (Event η)} :
    a ∈ events.filterMap pick ↔ event ∈ events := by
  rw [List.mem_filterMap]
  constructor
  · rintro ⟨other, mem, same⟩
    rwa [← (picks other).mp same]
  · intro mem
    exact ⟨event, mem, (picks event).mpr rfl⟩

theorem mem_outgoing {events : List (Event η)} {sequence : Int64} :
    sequence ∈ outgoing events ↔ .sent sequence ∈ events :=
  mem_filterMap_iff fun other => by cases other <;> simp [outgoing?]

/-- A request is among the completions just if it **is completed**. -/
theorem mem_completions {events : List (Event η)} {completion : Completion η} :
    completion ∈ completions events ↔ .completed completion ∈ events :=
  mem_filterMap_iff fun other => by cases other <;> simp [completion?]

/-- Among completions there is **nothing but completions**. -/
theorem filterMap_completed {α : Type} {pick : Event η → Option α}
    (none : ∀ completion, pick (completed completion) = none) (done : List (Completion η)) :
    (done.map completed).filterMap pick = [] := by
  rw [List.filterMap_map]
  exact List.filterMap_eq_nil_iff.mpr fun completion _ => none completion

/-- Behind an event that nothing is picked from, completions leave it at that. -/
theorem filterMap_cons_completed {α : Type} {pick : Event η → Option α} {event : Event η}
    (nothing : pick event = none) (none : ∀ completion, pick (completed completion) = none)
    (done : List (Completion η)) : (event :: done.map completed).filterMap pick = [] := by
  rw [List.filterMap_cons_none nothing]
  exact filterMap_completed none done

theorem submissions_cons_completed {event : Event η} (none : event.submission? = none)
    (done : List (Completion η)) : submissions (event :: done.map completed) = [] :=
  filterMap_cons_completed none (fun _ => rfl) done

theorem tickets_cons_completed {event : Event η} (none : event.ticket? = none)
    (done : List (Completion η)) : tickets (event :: done.map completed) = [] :=
  filterMap_cons_completed none (fun _ => rfl) done

theorem outgoing_cons_completed {event : Event η} (none : event.outgoing? = none)
    (done : List (Completion η)) : outgoing (event :: done.map completed) = [] :=
  filterMap_cons_completed none (fun _ => rfl) done

end Event

/-! ## Nothing overtakes -/

/-- A step **adds tickets at the end** only. -/
theorem Shift.tickets_sublist {t t' : Transit η} {events : List (Event η)}
    (h : Shift t events t') : t'.tickets.Sublist (t.tickets ++ Event.tickets events) := by
  unfold Transit.tickets
  cases h with
  | rest => exact List.sublist_append_left _ _
  | take ticket bytes => exact List.sublist_append_left _ _
  | refuse _ ticket status => exact List.sublist_append_left _ _
  | @submit awaiting unsent request =>
    rw [List.append_assoc]
    exact List.Sublist.refl _
  | @withdraw awaiting before after ticket =>
    refine List.Sublist.trans ?_ (List.sublist_append_left _ _)
    exact ((List.sublist_cons_self ticket after).append_left before).append_left awaiting
  | @disown unsent before after ticket =>
    refine List.Sublist.trans ?_ (List.sublist_append_left _ _)
    exact ((List.sublist_cons_self ticket after).append_left before).append_right unsent
  | @forget awaiting unsent ticket bytes none =>
    refine List.Sublist.trans ?_ (List.sublist_append_left _ _)
    exact (List.sublist_cons_self ticket unsent).append_left awaiting
  | @track awaiting unsent request bytes fresh =>
    rw [List.append_assoc]
    exact List.sublist_append_left _ _
  | @clash awaiting unsent request bytes taken =>
    refine List.Sublist.trans ?_ (List.sublist_append_left _ _)
    exact (List.sublist_cons_self request.ticket unsent).append_left awaiting
  | @breakOut awaiting unsent ticket bytes status =>
    refine List.Sublist.trans ?_ (List.sublist_append_left _ _)
    exact (List.nil_sublist _).append_left awaiting
  | passOver _ outcome => exact List.sublist_append_left _ _
  | @complete unsent before after ticket outcome completion key_eq handler_eq =>
    refine List.Sublist.trans ?_ (List.sublist_append_left _ _)
    exact ((List.sublist_cons_self ticket after).append_left before).append_right unsent
  | @breakIn awaiting unsent outcome status =>
    refine List.Sublist.trans ?_ (List.sublist_append_left _ _)
    exact List.sublist_append_right awaiting unsent

/-- The requests that come to be out stand **before those that are not**. -/
theorem Shift.outgoing_sublist {t t' : Transit η} {events : List (Event η)}
    (h : Shift t events t') :
    (Event.outgoing events ++ t'.unsent.map Ticket.sequence).Sublist
      (t.unsent.map Ticket.sequence ++ (Event.tickets events).map Ticket.sequence) := by
  cases h with
  | rest => exact List.sublist_append_left _ _
  | take ticket bytes => exact List.sublist_append_left _ _
  | refuse _ ticket status =>
    rw [Event.outgoing_cons_completed rfl]
    exact List.sublist_append_left _ _
  | @submit awaiting unsent request =>
    rw [List.map_append]
    exact List.Sublist.refl _
  | @withdraw awaiting before after ticket =>
    refine List.Sublist.trans ?_ (List.sublist_append_left _ _)
    exact ((List.sublist_cons_self ticket after).append_left before).map Ticket.sequence
  | @disown unsent before after ticket => exact List.sublist_append_left _ _
  | @forget awaiting unsent ticket bytes none => exact List.sublist_append_left _ _
  | @track awaiting unsent request bytes fresh => exact List.sublist_append_left _ _
  | @clash awaiting unsent request bytes taken => exact List.sublist_append_left _ _
  | @breakOut awaiting unsent ticket bytes status =>
    rw [Event.outgoing_cons_completed rfl]
    exact List.nil_sublist _
  | passOver _ outcome => exact List.sublist_append_left _ _
  | @complete unsent before after ticket outcome completion key_eq handler_eq =>
    exact List.sublist_append_left _ _
  | @breakIn awaiting unsent outcome status =>
    rw [Event.outgoing_cons_completed rfl]
    exact List.sublist_append_left _ _

/-- What is queued has been **submitted** with it. -/
theorem Shift.submissions_sublist {t t' : Transit η} {events : List (Event η)}
    (h : Shift t events t') :
    ((Event.tickets events).map fun ticket => (ticket.key, ticket.handler)).Sublist
      (Event.submissions events) := by
  cases h with
  | @submit awaiting unsent request => exact List.Sublist.refl _
  | refuse _ ticket status =>
    rw [Event.tickets_cons_completed rfl]
    exact List.nil_sublist _
  | @breakOut awaiting unsent ticket bytes status =>
    rw [Event.tickets_cons_completed rfl]
    exact List.nil_sublist _
  | @breakIn awaiting unsent outcome status =>
    rw [Event.tickets_cons_completed rfl]
    exact List.nil_sublist _
  | _ => exact List.nil_sublist _

/-! ## Counting on -/

/-- **How a step counts on**, by the requests that are submitted and queued in it. -/
inductive Counts (m : Multiplexer σ η) (events : List (Event η)) (m' : Multiplexer σ η) : Prop
  | still (none : Event.submissions events = []) (nothing : Event.tickets events = [])
      (key_eq : m'.nextKey = m.nextKey)
      (sequence_eq : m'.outbox.nextSequence = m.outbox.nextSequence)
  | refuse (handler : Option η) (one : Event.submissions events = [(m.nextKey, handler)])
      (nothing : Event.tickets events = []) (key_eq : m'.nextKey = m.nextKey + 1)
      (sequence_eq : m'.outbox.nextSequence = m.outbox.nextSequence ∨
        m'.outbox.nextSequence = m.outbox.nextSequence + 1)
  | queue (handler : Option η) (one : Event.submissions events = [(m.nextKey, handler)])
      (ticket : Event.tickets events = [⟨m.outbox.nextSequence, m.nextKey, handler⟩])
      (key_eq : m'.nextKey = m.nextKey + 1)
      (sequence_eq : m'.outbox.nextSequence = m.outbox.nextSequence + 1)

/-- Completions behind an event count nothing. -/
theorem counts_completed {m m' : Multiplexer σ η} {event : Event η} {done : List (Completion η)}
    (nobody : event.submission? = none) (nothing : event.ticket? = none)
    (key_eq : m'.nextKey = m.nextKey)
    (sequence_eq : m'.outbox.nextSequence = m.outbox.nextSequence) :
    Counts m (event :: done.map .completed) m' :=
  .still (Event.submissions_cons_completed nobody done) (Event.tickets_cons_completed nothing done)
    key_eq sequence_eq

/-! ## The names that requests get -/

theorem Int64.toInt_add_one {a : Int64} (nonneg : 0 ≤ a.toInt) (lt : a.toInt + 1 < 2 ^ 63) :
    (a + 1).toInt = a.toInt + 1 := by
  rw [Int64.toInt_add, Int64.toInt_one]
  exact Int.bmod_eq_of_le (by omega) (by omega)

theorem UInt64.toNat_add_one {a : UInt64} (lt : a.toNat + 1 < 2 ^ 64) :
    (a + 1).toNat = a.toNat + 1 := by
  rw [UInt64.toNat_add, UInt64.toNat_one]
  exact Nat.mod_eq_of_lt lt

/-- **The names that requests get**: keys are given out one after the other, from zero on, and of
the requests that are queued each has greater names than those before it. -/
structure Numbered (past : List (Event η)) (m : Multiplexer σ η) : Prop where
  keys : (Event.submissions past).map (fun submission => submission.1.toNat) =
    List.range (Event.submissions past).length
  next_key : m.nextKey.toNat = (Event.submissions past).length
  sequence_nonneg : 0 ≤ m.outbox.nextSequence.toInt
  sequence_le : m.outbox.nextSequence.toInt ≤ (Event.submissions past).length
  rising : (Event.tickets past).Pairwise fun t u =>
    t.sequence.toInt < u.sequence.toInt ∧ t.key.toNat < u.key.toNat
  bounded : ∀ t ∈ Event.tickets past, 0 ≤ t.sequence.toInt ∧
    t.sequence.toInt < m.outbox.nextSequence.toInt ∧ t.key.toNat < m.nextKey.toNat

/-- The keys go on with the **next number**. -/
theorem Numbered.keys_append {past : List (Event η)} {m : Multiplexer σ η} (h : Numbered past m)
    (handler : Option η) :
    (Event.submissions past ++ [(m.nextKey, handler)]).map (fun submission => submission.1.toNat) =
      List.range (Event.submissions past ++ [(m.nextKey, handler)]).length := by
  rw [List.map_append, h.keys, List.length_append, List.length_singleton, List.range_succ,
    ← h.next_key]
  rfl

/-- **Counting on keeps names apart**, as long as there are numbers. -/
theorem Numbered.count {past events : List (Event η)} {m m' : Multiplexer σ η}
    (h : Numbered past m) (counts : Counts m events m')
    (few : (Event.submissions (past ++ events)).length < 2 ^ 63) :
    Numbered (past ++ events) m' := by
  have := h.next_key
  have := h.sequence_nonneg
  have := h.sequence_le
  rw [Event.submissions_append, List.length_append] at few
  cases counts with
  | still none nothing key_eq sequence_eq =>
    constructor
    · rw [Event.submissions_append, none, List.append_nil]
      exact h.keys
    · rw [Event.submissions_append, none, List.append_nil, key_eq]
      exact h.next_key
    · rw [sequence_eq]
      exact h.sequence_nonneg
    · rw [Event.submissions_append, none, List.append_nil, sequence_eq]
      exact h.sequence_le
    · rw [Event.tickets_append, nothing, List.append_nil]
      exact h.rising
    · rw [Event.tickets_append, nothing, List.append_nil, sequence_eq, key_eq]
      exact h.bounded
  | refuse handler one nothing key_eq sequence_eq =>
    rw [one, List.length_singleton] at few
    -- a request that is refused may use up its number, or not
    have key_eq : m'.nextKey.toNat = m.nextKey.toNat + 1 := by
      rw [key_eq]
      exact UInt64.toNat_add_one (by omega)
    have sequence_ge : m.outbox.nextSequence.toInt ≤ m'.outbox.nextSequence.toInt ∧
        m'.outbox.nextSequence.toInt ≤ m.outbox.nextSequence.toInt + 1 := by
      rcases sequence_eq with same | next
      · rw [same]
        omega
      · rw [next, Int64.toInt_add_one h.sequence_nonneg (by omega)]
        omega
    constructor
    · rw [Event.submissions_append, one]
      exact h.keys_append handler
    · rw [Event.submissions_append, one, List.length_append, List.length_singleton]
      omega
    · omega
    · rw [Event.submissions_append, one, List.length_append, List.length_singleton]
      omega
    · rw [Event.tickets_append, nothing, List.append_nil]
      exact h.rising
    · rw [Event.tickets_append, nothing, List.append_nil]
      intro t mem
      obtain ⟨nonneg, lt, key_lt⟩ := h.bounded t mem
      omega
  | queue handler one ticket key_eq sequence_eq =>
    rw [one, List.length_singleton] at few
    have key_eq : m'.nextKey.toNat = m.nextKey.toNat + 1 := by
      rw [key_eq]
      exact UInt64.toNat_add_one (by omega)
    have sequence_eq : m'.outbox.nextSequence.toInt = m.outbox.nextSequence.toInt + 1 := by
      rw [sequence_eq]
      exact Int64.toInt_add_one h.sequence_nonneg (by omega)
    constructor
    · rw [Event.submissions_append, one]
      exact h.keys_append handler
    · rw [Event.submissions_append, one, List.length_append, List.length_singleton]
      omega
    · omega
    · rw [Event.submissions_append, one, List.length_append, List.length_singleton]
      omega
    -- the new request has greater names than all before it
    · rw [Event.tickets_append, ticket, List.pairwise_append]
      refine ⟨h.rising, List.pairwise_singleton _ _, fun t mem u new => ?_⟩
      rw [List.mem_singleton.mp new]
      exact (h.bounded t mem).2
    · rw [Event.tickets_append, ticket]
      intro t mem
      rcases List.mem_append.mp mem with mem | new
      · obtain ⟨nonneg, lt, key_lt⟩ := h.bounded t mem
        omega
      · rw [List.mem_singleton.mp new]
        simp only
        omega

/-- **No two requests have the same sequence.** -/
theorem Numbered.nodup_sequences {past : List (Event η)} {m : Multiplexer σ η}
    (h : Numbered past m) : ((Event.tickets past).map Ticket.sequence).Nodup := by
  refine List.pairwise_map.mpr (h.rising.imp fun lt same => ?_)
  rw [same] at lt
  exact Int.lt_irrefl _ lt.1

/-- **Either name tells a request from all others.** -/
theorem Numbered.ticket_eq {past : List (Event η)} {m : Multiplexer σ η} (h : Numbered past m)
    {t u : Ticket η} (t_mem : t ∈ Event.tickets past) (u_mem : u ∈ Event.tickets past)
    (same : t.sequence = u.sequence ∨ t.key = u.key) : t = u := by
  rcases same with same | same
  · exact List.inj_on_of_nodup_map h.nodup_sequences t_mem u_mem same
  · have nodup : ((Event.tickets past).map Ticket.key).Nodup := by
      refine List.pairwise_map.mpr (h.rising.imp fun lt same => ?_)
      rw [same] at lt
      exact Nat.lt_irrefl _ lt.2
    exact List.inj_on_of_nodup_map nodup t_mem u_mem same

/-! ## Paths -/

variable [Channel σ]

/-- **Nothing overtakes**: the requests on their way stand as they were queued. -/
theorem Path.tickets_sublist {m m' : Multiplexer σ η} {events : List (Event η)}
    (h : Path m events m') :
    m'.transit.tickets.Sublist (m.transit.tickets ++ Event.tickets events) := by
  induction h with
  | done m => exact List.sublist_append_left _ _
  | step move _ ih =>
    rw [Event.tickets_append, ← List.append_assoc]
    exact ih.trans (move.shift.tickets_sublist.append_right _)

/-- The requests that are out were queued **before those that are not**. -/
theorem Path.outgoing_sublist {m m' : Multiplexer σ η} {events : List (Event η)}
    (h : Path m events m') :
    (Event.outgoing events ++ m'.transit.unsent.map Ticket.sequence).Sublist
      (m.transit.unsent.map Ticket.sequence ++ (Event.tickets events).map Ticket.sequence) := by
  induction h with
  | done m => exact List.sublist_append_left _ _
  | step move _ ih =>
    rw [Event.tickets_append, Event.outgoing_append, List.map_append, ← List.append_assoc,
      List.append_assoc]
    -- what comes to be out later was not out before
    exact (ih.append_left _).trans (by
      rw [← List.append_assoc]
      exact move.shift.outgoing_sublist.append_right _)

/-- Whatever is queued has been **submitted**. -/
theorem Path.submissions_sublist {m m' : Multiplexer σ η} {events : List (Event η)}
    (h : Path m events m') :
    ((Event.tickets events).map fun ticket => (ticket.key, ticket.handler)).Sublist
      (Event.submissions events) := by
  induction h with
  | done m => exact List.nil_sublist _
  | step move _ ih =>
    rw [Event.tickets_append, Event.submissions_append, List.map_append]
    exact move.shift.submissions_sublist.append ih

theorem Move.counts {m m' : Multiplexer σ η} {events : List (Event η)} (h : Move m events m') :
    Counts m events m' := by
  cases h with
  | reject dead handler =>
    refine .refuse handler ?_ ?_ rfl (.inl rfl)
    · rw [← List.singleton_append, Event.submissions_append]
      exact congrArg _ (Event.filterMap_completed (fun _ => rfl) _)
    · exact Event.tickets_cons_completed rfl _
  | @misfit _ _ _ handler status alive prepared =>
    refine .refuse handler ?_ ?_ rfl (.inr rfl)
    · rw [← List.singleton_append, Event.submissions_append]
      exact congrArg _ (Event.filterMap_completed (fun _ => rfl) _)
    · exact Event.tickets_cons_completed rfl _
  | @queue _ _ _ handler request alive prepared =>
    obtain ⟨-, frame, -, rfl⟩ := Outbox.exists_frame_of_prepare prepared
    exact .queue handler rfl rfl rfl rfl
  | @release request writer channel working current write =>
    have releases := Outbox.releases_release request m.inbox
    generalize Outbox.release request m.inbox = released at releases ⊢
    cases releases <;> exact .still rfl rfl rfl rfl
  | breakOut working current write => exact counts_completed rfl rfl rfl rfl
  | accept working read ends => exact counts_completed rfl rfl rfl rfl
  | breakIn working read all => exact counts_completed rfl rfl rfl rfl
  | _ => exact .still rfl rfl rfl rfl

/-- **Names are kept apart** on every path with few submissions. -/
theorem Path.numbered {m m' : Multiplexer σ η} {events : List (Event η)} (h : Path m events m')
    (start : Numbered [] m) (few : (Event.submissions events).length < 2 ^ 63) :
    Numbered events m' := by
  refine h.invariant (fun past m => (Event.submissions past).length < 2 ^ 63 → Numbered past m)
    (fun _ => start) ?_ few
  intro past m₁ events m₂ _ numbered move few
  refine (numbered ?_).count move.counts few
  rw [Event.submissions_append, List.length_append] at few
  omega

/-! ## Lives -/

omit [Channel σ] in
/-- A new connection has no names to keep apart. -/
theorem Multiplexer.Fresh.numbered {m : Multiplexer σ η} (h : m.Fresh) : Numbered [] m where
  keys := rfl
  next_key := by
    rw [h.key]
    rfl
  sequence_nonneg := by
    rw [h.sequence]
    decide
  sequence_le := by
    rw [h.sequence]
    exact Int.le_refl 0
  rising := List.Pairwise.nil
  bounded _ mem := absurd mem List.not_mem_nil

/-- The handlers that the owner **submits** in some turns, in order. -/
def Turn.submitted (turns : List (Turn σ η)) : List (Option η) :=
  turns.filterMap fun
    | .submit _ _ _ handler => some handler
    | _ => none

omit [Channel σ] in
theorem Turn.submitted_append (turns later : List (Turn σ η)) :
    submitted (turns ++ later) = submitted turns ++ submitted later :=
  List.filterMap_append

/-- **Running submits nothing.** -/
theorem submissions_run (m : Multiplexer σ η) : Event.submissions m.run.events = [] := by
  refine List.filterMap_eq_nil_iff.mpr fun event mem => ?_
  cases inRun_run m event mem <;> rfl

/-- A turn submits what its owner submits in it. -/
theorem submissions_turn (m : Multiplexer σ η) (turn : Turn σ η) :
    (Event.submissions (m.turn turn).events).map Prod.snd = Turn.submitted [turn] := by
  cases turn with
  | submit envelope command value handler =>
    cases alive : m.failed with
    | true =>
      rw [Multiplexer.turn_submit_of_failed alive, Event.submissions, List.filterMap_cons,
        Event.filterMap_completed fun _ => rfl]
      rfl
    | false =>
      cases prepared :
          m.outbox.prepare envelope command value handler m.nextKey m.connectionId with
      | error status =>
        rw [Multiplexer.turn_submit_of_error alive prepared, Event.submissions,
          List.filterMap_cons, Event.filterMap_completed fun _ => rfl]
        rfl
      | ok request =>
        rw [Multiplexer.turn_submit_of_ok alive prepared]
        rfl
  | run =>
    show (Event.submissions m.run.events).map Prod.snd = []
    rw [submissions_run]
    rfl
  | remove key =>
    rw [Multiplexer.turn]
    split <;> rfl
  | elapse channel => rfl

/-- **What a life submits** is what its owner submits. -/
theorem submissions_live (m : Multiplexer σ η) (turns : List (Turn σ η)) :
    (Event.submissions (m.live turns).events).map Prod.snd = Turn.submitted turns := by
  induction turns generalizing m with
  | nil => rfl
  | cons turn turns ih =>
    rw [Multiplexer.live]
    simp only
    rw [Event.submissions_append, List.map_append, submissions_turn, ih, Turn.submitted,
      Turn.submitted, ← List.filterMap_append]
    rfl

/-- So many requests are submitted in a life **as its owner submits**. -/
theorem length_submissions_live (m : Multiplexer σ η) (turns : List (Turn σ η)) :
    (Event.submissions (m.live turns).events).length = (Turn.submitted turns).length := by
  rw [← submissions_live m turns, List.length_map]

/-- **Names are kept apart** in the life of a new connection, as long as there are numbers. -/
theorem numbered_live {m : Multiplexer σ η} (fresh : m.Fresh) (turns : List (Turn σ η))
    (few : (Turn.submitted turns).length < 2 ^ 63) :
    Numbered (m.live turns).events (m.live turns).service := by
  refine (path_live m turns).numbered fresh.numbered ?_
  rwa [length_submissions_live]

end DriveLink
