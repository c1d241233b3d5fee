import DriveLink.Proofs.Pipeline.Move
import DriveLink.Simulation.Drive
import Mathlib.Data.List.Induction

/-! # The life of a connection

The owner of a connection submits requests, runs it and takes requests back, in any order, and the
channel does what it likes meanwhile. What happens in such a life is one list of events.

* `Turn`, `Multiplexer.turn` — one call of the owner, or a change of the channel, and what it does;
* `Multiplexer.live`, `Lived.ended` — turns one after the other, and the end of the connection;
* `exists_receive_of_start` — how a life begins;
* `path_live` — a life is a path;
* `Multiplexer.turn_cases` — the turns in which nothing is written or read;
* `Multiplexer.live_append`, `exists_turn`, `live_invariant` — lives in parts;
* `Multiplexer.Elapses` — what the channel does between two calls. -/

namespace DriveLink

variable {σ η : Type}

/-- **One turn** in the life of a connection. -/
inductive Turn (σ η : Type)
  | submit (envelope : Envelope) (command : Command) (value : Bytes) (handler : Option η)
  | run
  | remove (key : RequestKey)
  /-- Between two calls of its owner, the channel has come to another state. -/
  | elapse (channel : σ)

/-- **Some life of a connection**: what happened, and what has become of the connection. -/
structure Lived (σ η : Type) where
  events : List (Event η)
  service : Multiplexer σ η

/-- The handler of the request with the key, if it has one and waits for its turn or its answer. -/
def Multiplexer.handlerOf (m : Multiplexer σ η) (key : RequestKey) : Option η :=
  match m.outbox.queue.find? (·.key = key) with
  | some request => request.handler
  | none => (m.inbox.correlator.outstanding.entries.find? (·.key = key)).map (·.handler)

/-- **One turn.** What is queued is what stands behind the old queue afterwards, and a request is
taken back if the call says so. -/
def Multiplexer.turn [Channel σ] (m : Multiplexer σ η) : Turn σ η → Lived σ η
  | .submit envelope command value handler =>
    let (key, completions, after) := m.submit envelope command value handler
    let queued := after.outbox.queue.drop m.outbox.queue.length
    ⟨.submitted key handler :: (queued.map .queued ++ completions.map .completed), after⟩
  | .run => ⟨m.run.events, m.run.service⟩
  | .remove key =>
    match m.remove key with
    | (true, after) => ⟨[.cancelled key (m.handlerOf key)], after⟩
    | (false, after) => ⟨[], after⟩
  | .elapse channel => ⟨[], { m with channel }⟩

/-- **Turns one after the other.** -/
def Multiplexer.live [Channel σ] (m : Multiplexer σ η) : List (Turn σ η) → Lived σ η
  | [] => ⟨[], m⟩
  | turn :: turns =>
    let first := m.turn turn
    let later := first.service.live turns
    ⟨first.events ++ later.events, later.service⟩

/-- What has happened once the connection is at its **end**, too. -/
def Lived.ended (lived : Lived σ η) : List (Event η) :=
  lived.events ++ lived.service.shutDown.map .completed

namespace Multiplexer

/-! ## Submitting, and taking back -/

theorem submit_of_alive {m : Multiplexer σ η} (alive : m.failed = false) (envelope : Envelope)
    (command : Command) (value : Bytes) (handler : Option η) :
    m.submit envelope command value handler =
      let (_, completions, outbox) :=
        m.outbox.enqueue envelope command value handler m.nextKey m.connectionId
      (m.nextKey, completions, { m with nextKey := m.nextKey + 1, outbox }) := by
  rw [submit]
  exact if_neg (Bool.eq_false_iff.mp alive)

theorem remove_of_absent {m : Multiplexer σ η} {key : RequestKey}
    (absent : m.outbox.queue.find? (·.key = key) = none) :
    m.remove key = ((m.inbox.remove key).1, { m with inbox := (m.inbox.remove key).2 }) := by
  have none : ¬ m.outbox.queue.any (·.key = key) = true := by
    intro any
    obtain ⟨request, mem, same⟩ := List.any_eq_true.mp any
    exact List.find?_eq_none.mp absent request mem same
  rw [remove, Outbox.remove, if_neg none]
  rfl

variable [Channel σ]

/-- What **submitting** to a dead connection does. -/
theorem turn_submit_of_failed {m : Multiplexer σ η} (dead : m.failed = true)
    (envelope : Envelope) (command : Command) (value : Bytes) (handler : Option η) :
    m.turn (.submit envelope command value handler) =
      ⟨.submitted m.nextKey handler :: (Completion.failIfAny m.nextKey handler
          (.client .shutdown "connection has failed")).map .completed,
        { m with nextKey := m.nextKey + 1 }⟩ := by
  have submitted : m.submit envelope command value handler =
      (m.nextKey, Completion.failIfAny m.nextKey handler
        (.client .shutdown "connection has failed"), { m with nextKey := m.nextKey + 1 }) := by
    rw [submit]
    exact if_pos dead
  rw [turn, submitted]
  simp only [List.drop_length, List.map_nil, List.nil_append]

/-- What submitting does that comes to **no request**. -/
theorem turn_submit_of_error {m : Multiplexer σ η} (alive : m.failed = false)
    {envelope : Envelope} {command : Command} {value : Bytes} {handler : Option η}
    {status : Status}
    (prepared : m.outbox.prepare envelope command value handler m.nextKey m.connectionId =
      .error status) :
    m.turn (.submit envelope command value handler) =
      ⟨.submitted m.nextKey handler ::
          (Completion.failIfAny m.nextKey handler status).map .completed,
        { m with
          nextKey := m.nextKey + 1
          outbox := { m.outbox with nextSequence := m.outbox.nextSequence + 1 } }⟩ := by
  rw [turn, submit_of_alive alive, Outbox.enqueue, prepared]
  simp only [List.drop_length, List.map_nil, List.nil_append]

/-- What submitting does that comes to a **request**. -/
theorem turn_submit_of_ok {m : Multiplexer σ η} (alive : m.failed = false)
    {envelope : Envelope} {command : Command} {value : Bytes} {handler : Option η}
    {request : QueuedRequest η}
    (prepared : m.outbox.prepare envelope command value handler m.nextKey m.connectionId =
      .ok request) :
    m.turn (.submit envelope command value handler) =
      ⟨[.submitted m.nextKey handler, .queued request],
        { m with
          nextKey := m.nextKey + 1
          outbox := { m.outbox with
            queue := m.outbox.queue ++ [request]
            nextSequence := m.outbox.nextSequence + 1 } }⟩ := by
  rw [turn, submit_of_alive alive, Outbox.enqueue, prepared]
  simp only [List.drop_left, List.map_cons, List.map_nil, List.append_nil]

/-- What taking back does to a request that **waits for its turn**. -/
theorem turn_remove_of_queued {m : Multiplexer σ η} {key : RequestKey}
    {request : QueuedRequest η}
    (found : m.outbox.queue.find? (·.key = key) = some request) :
    m.turn (.remove key) =
      ⟨[.cancelled key request.handler],
        { m with outbox := { m.outbox with
          queue := m.outbox.queue.eraseP (·.key = key) } }⟩ := by
  have same := List.find?_some found
  have any : m.outbox.queue.any (·.key = key) = true :=
    List.any_eq_true.mpr ⟨request, List.mem_of_find?_eq_some found, same⟩
  rw [turn, remove, Outbox.remove, if_pos any, handlerOf, found]
  rfl

/-- What taking back does to a request that **waits for its answer**. -/
theorem turn_remove_of_outstanding {m : Multiplexer σ η} {key : RequestKey}
    {request : OutstandingRequest η}
    (absent : m.outbox.queue.find? (·.key = key) = none)
    (found : m.inbox.correlator.outstanding.entries.find? (·.key = key) = some request) :
    m.turn (.remove key) =
      ⟨[.cancelled key (some request.handler)],
        { m with inbox := { m.inbox with correlator := { m.inbox.correlator with
          outstanding := ⟨m.inbox.correlator.outstanding.entries.eraseP (·.key = key)⟩ } } }⟩ := by
  rw [turn, remove_of_absent absent, Inbox.remove, Outstanding.removeByKey, found, handlerOf,
    absent, found]
  rfl

/-- Taking back does **nothing** where there is no such request. -/
theorem turn_remove_of_absent {m : Multiplexer σ η} {key : RequestKey}
    (absent : m.outbox.queue.find? (·.key = key) = none)
    (gone : m.inbox.correlator.outstanding.entries.find? (·.key = key) = none) :
    m.turn (.remove key) = ⟨[], m⟩ := by
  rw [turn, remove_of_absent absent, Inbox.remove, Outstanding.removeByKey, gone]

end Multiplexer

/-! ## How a life begins -/

/-- **A new connection** has no requests, and all its numbers are still to be used. -/
structure Multiplexer.Fresh (m : Multiplexer σ η) : Prop where
  queue : m.outbox.queue = []
  current : m.outbox.current = none
  sequence : m.outbox.nextSequence = 0
  outstanding : m.inbox.correlator.outstanding = .empty
  key : m.nextKey = 0

/-- **A connection that is started is new**, whatever went on before the greeting came. -/
theorem Multiplexer.fresh_of_start [Channel σ] [Pollable σ] {patience : Nat} {signer : Signer}
    {options : Options} {s : σ} {m : Multiplexer σ η}
    (started : start patience signer options s = some (.ok m)) : m.Fresh := by
  unfold start at started
  split at started
  · cases started
  · cases started
  · rename_i greeted s' greets
    cases started
    refine ⟨rfl, rfl, rfl, ?_, rfl⟩
    unfold greet at greets
    simp only at greets
    split at greets
    · cases greets
    · split at greets
      · cases greets
      · cases greets
        rfl

/-- **A connection that is started is alive**, and its outbox has nothing to do. -/
theorem Multiplexer.outbox_of_start [Channel σ] [Pollable σ] {patience : Nat} {signer : Signer}
    {options : Options} {s : σ} {m : Multiplexer σ η}
    (started : start patience signer options s = some (.ok m)) :
    m.failed = false ∧
      m.outbox = { signer, identity := options.userId, hmacKey := options.hmacKey } := by
  unfold start at started
  split at started
  · cases started
  · cases started
  · cases started
    exact ⟨rfl, rfl⟩

section Beginning

variable [Channel σ] [Pollable σ] {holds : Inbox Unit → σ → Prop}

/-- **How the wait for the greeting ends**: with a call to receive that is answered, on an inbox and
a channel of which everything holds that receiving keeps while nobody is answered, and waiting
too. -/
theorem exists_receive_of_awaitGreeting
    (step : ∀ inbox s, holds inbox s → (inbox.receive s).activity ≠ .failed →
      (inbox.receive s).completions = [] → holds (inbox.receive s).inbox (inbox.receive s).channel)
    (wait : ∀ inbox (waiter : Waiter) limit s, holds inbox s →
      holds inbox (waiter.wait .forRead limit s).2.2)
    {timeout : Duration} {deadline patience : Nat} {inbox inbox' : Inbox Unit} {waiter : Waiter}
    {s : σ} {result : GreetingStep σ} {greeting : Command} (start : holds inbox s)
    (awaits : awaitGreeting timeout deadline patience inbox waiter s = some result)
    (greeted : result.result = .ok (inbox', greeting)) :
    ∃ inbox₁ s₁, holds inbox₁ s₁ ∧ inbox' = (inbox₁.receive s₁).inbox ∧
      result.channel = (inbox₁.receive s₁).channel ∧
      greetingResult (inbox₁.receive s₁).completions = some (.ok greeting) := by
  induction patience generalizing inbox waiter s with
  | zero => cases awaits
  -- each round of waiting receives once, and may be the last
  | succ patience ih =>
    unfold awaitGreeting at awaits
    simp only at awaits
    split at awaits
    · rename_i answered
      cases awaits
      cases greeted
      exact ⟨inbox, s, start, rfl, rfl, answered⟩
    · cases awaits
      cases greeted
    · rename_i unanswered
      split at awaits
      · cases awaits
        cases greeted
      · rename_i working
        split at awaits
        · cases awaits
          cases greeted
        · have nobody : (inbox.receive s).completions = [] := by
            unfold greetingResult at unanswered
            split at unanswered
            · assumption
            · split at unanswered <;> cases unanswered
          have waits := wait _ waiter ⟨deadline - Pollable.now (inbox.receive s).channel⟩ _
            (step inbox s start working nobody)
          split at awaits
          · rename_i waited
            rw [waited] at waits
            exact ih waits awaits
          · cases awaits
            cases greeted

/-- **How a connection begins.** Its inbox is that which was greeted, nothing is out any more, and
the source has been released. -/
theorem exists_receive_of_start (holds : Inbox Unit → σ → Prop)
    (step : ∀ inbox s, holds inbox s → (inbox.receive s).activity ≠ .failed →
      (inbox.receive s).completions = [] → holds (inbox.receive s).inbox (inbox.receive s).channel)
    (wait : ∀ inbox (waiter : Waiter) limit s, holds inbox s →
      holds inbox (waiter.wait .forRead limit s).2.2)
    {patience : Nat} {signer : Signer} {options : Options} {s : σ} {m : Multiplexer σ η}
    (start : holds (.forGreeting signer options) s)
    (started : Multiplexer.start patience signer options s = some (.ok m)) :
    ∃ inbox s₁, holds inbox s₁ ∧
      m.inbox.correlator = { (inbox.receive s₁).inbox.correlator with outstanding := .empty } ∧
      m.inbox.reader = (inbox.receive s₁).inbox.reader ∧
      m.inbox.failed = (inbox.receive s₁).inbox.failed ∧
      greetingResult (inbox.receive s₁).completions = some (.ok m.greeting) ∧
      ∃ waiter : Waiter, m.channel = (waiter.release (inbox.receive s₁).channel).2 := by
  unfold Multiplexer.start at started
  split at started
  · cases started
  · cases started
  · rename_i greeted s' greets
    cases started
    unfold greet at greets
    simp only at greets
    split at greets
    · cases greets
    · rename_i greeting awaits
      split at greets
      · cases greets
      · rename_i result
        cases greets
        obtain ⟨inbox₁, s₁, kept, rfl, channel_eq, answered⟩ :=
          exists_receive_of_awaitGreeting step wait start awaits result
        exact ⟨inbox₁, s₁, kept, rfl, rfl, rfl, answered, greeting.waiter, by rw [channel_eq]⟩

end Beginning

/-- A result that is there is one that **went well**. -/
theorem eq_ok_of_toOption {ε α : Type} {result : Except ε α} {a : α}
    (h : result.toOption = some a) : result = .ok a := by
  cases result <;> cases h
  rfl

/-- If something holds of the connection that is started, **one is started** of which it holds. -/
theorem exists_started {α : Type} {result : Option (Except Failure α)} {holds : α → Bool}
    (h : (result.any fun started => started.toOption.any holds) = true) :
    ∃ a, result = some (.ok a) ∧ holds a = true := by
  obtain ⟨started, rfl, some⟩ := (Option.any_eq_true _ _).mp h
  obtain ⟨a, ok, holds⟩ := (Option.any_eq_true _ _).mp some
  rw [eq_ok_of_toOption ok]
  exact ⟨a, rfl, holds⟩

/-- What a drive says when it is **connected to**, at the least. -/
def hello : Bytes :=
  Frame.encode ⟨{ Envelope.unsolicited with
    command := Command.encode { status := some { code := .success } } }.encode, []⟩

/-! ## A life is a path -/

variable [Channel σ]

/-- **Every turn is a path.** -/
theorem path_turn (m : Multiplexer σ η) (turn : Turn σ η) :
    Path m (m.turn turn).events (m.turn turn).service := by
  cases turn with
  | submit envelope command value handler =>
    cases alive : m.failed with
    | true =>
      rw [Multiplexer.turn_submit_of_failed alive]
      exact (Move.reject alive handler).path
    | false =>
      cases prepared :
          m.outbox.prepare envelope command value handler m.nextKey m.connectionId with
      | error status =>
        rw [Multiplexer.turn_submit_of_error alive prepared]
        exact (Move.misfit alive prepared).path
      | ok request =>
        rw [Multiplexer.turn_submit_of_ok alive prepared]
        exact (Move.queue alive prepared).path
  | run => exact path_run m
  | remove key =>
    cases found : m.outbox.queue.find? (·.key = key) with
    | some request =>
      rw [Multiplexer.turn_remove_of_queued found]
      exact (Move.withdraw found).path
    | none =>
      cases tracked : m.inbox.correlator.outstanding.entries.find? (·.key = key) with
      | some request =>
        rw [Multiplexer.turn_remove_of_outstanding found tracked]
        exact (Move.disown found tracked).path
      | none =>
        rw [Multiplexer.turn_remove_of_absent found tracked]
        exact .done m
  | elapse channel => exact (Move.elapse channel).path

/-- **Every life is a path.** -/
theorem path_live (m : Multiplexer σ η) (turns : List (Turn σ η)) :
    Path m (m.live turns).events (m.live turns).service := by
  induction turns generalizing m with
  | nil => exact .done m
  | cons turn turns ih => exact (path_turn m turn).trans (ih (m.turn turn).service)

/-! ## Turns in which the channel is still -/

/-- **What may happen while the owner submits or takes back.** -/
inductive Event.InCall : Event η → Prop
  | submitted (key : RequestKey) (handler : Option η) : InCall (.submitted key handler)
  | queued (request : QueuedRequest η) : InCall (.queued request)
  | completed (completion : Completion η) : InCall (.completed completion)
  | cancelled (key : RequestKey) (handler : Option η) : InCall (.cancelled key handler)

/-- **A turn in which nothing is written or read**, and nothing dies. -/
structure Multiplexer.Still (m : Multiplexer σ η) (lived : Lived σ η) : Prop where
  events : ∀ event ∈ lived.events, event.InCall
  channel : lived.service.channel = m.channel
  reader : lived.service.inbox.reader = m.inbox.reader
  failed : lived.service.failed = m.failed
  outbox : lived.service.outbox.failed = m.outbox.failed
  inbox : lived.service.inbox.failed = m.inbox.failed

/-- Only runs write and read, and only they and the channel itself **change the channel**. -/
theorem Multiplexer.turn_cases (m : Multiplexer σ η) (turn : Turn σ η) :
    turn = .run ∨ (∃ channel, turn = .elapse channel) ∨ m.Still (m.turn turn) := by
  have nothing : ∀ event ∈ ([] : List (Event η)), event.InCall :=
    fun _ mem => absurd mem List.not_mem_nil
  have alone {event : Event η} (h : event.InCall) : ∀ other ∈ [event], other.InCall := by
    intro other mem
    rw [List.mem_singleton.mp mem]
    exact h
  cases turn with
  | submit envelope command value handler =>
    refine .inr (.inr ?_)
    cases alive : m.failed with
    | true =>
      rw [turn_submit_of_failed alive]
      exact ⟨forall_mem_cons_completed (.submitted _ _) .completed _, rfl, rfl, rfl, rfl, rfl⟩
    | false =>
      cases prepared :
          m.outbox.prepare envelope command value handler m.nextKey m.connectionId with
      | error status =>
        rw [turn_submit_of_error alive prepared]
        exact ⟨forall_mem_cons_completed (.submitted _ _) .completed _, rfl, rfl, rfl, rfl, rfl⟩
      | ok request =>
        rw [turn_submit_of_ok alive prepared]
        refine ⟨fun event mem => ?_, rfl, rfl, rfl, rfl, rfl⟩
        rcases List.mem_cons.mp mem with rfl | mem
        · exact .submitted _ _
        · exact alone (.queued _) event mem
  | run => exact .inl rfl
  | remove key =>
    refine .inr (.inr ?_)
    cases found : m.outbox.queue.find? (·.key = key) with
    | some request =>
      rw [turn_remove_of_queued found]
      exact ⟨alone (.cancelled _ _), rfl, rfl, rfl, rfl, rfl⟩
    | none =>
      cases tracked : m.inbox.correlator.outstanding.entries.find? (·.key = key) with
      | some request =>
        rw [turn_remove_of_outstanding found tracked]
        exact ⟨alone (.cancelled _ _), rfl, rfl, rfl, rfl, rfl⟩
      | none =>
        rw [turn_remove_of_absent found tracked]
        exact ⟨nothing, rfl, rfl, rfl, rfl, rfl⟩
  | elapse channel => exact .inr (.inl ⟨channel, rfl⟩)

/-! ## Lives in parts -/

namespace Multiplexer

theorem live_cons (m : Multiplexer σ η) (turn : Turn σ η) (turns : List (Turn σ η)) :
    m.live (turn :: turns) =
      ⟨(m.turn turn).events ++ ((m.turn turn).service.live turns).events,
        ((m.turn turn).service.live turns).service⟩ := rfl

/-- Some turns and then others are **one life**. -/
theorem live_append (m : Multiplexer σ η) (turns later : List (Turn σ η)) :
    m.live (turns ++ later) =
      ⟨(m.live turns).events ++ ((m.live turns).service.live later).events,
        ((m.live turns).service.live later).service⟩ := by
  induction turns generalizing m with
  | nil => rfl
  | cons turn turns ih =>
    rw [List.cons_append, live_cons, ih, live_cons]
    simp only [List.append_assoc]

/-- A life and **one more turn**. -/
theorem live_concat (m : Multiplexer σ η) (turns : List (Turn σ η)) (turn : Turn σ η) :
    m.live (turns ++ [turn]) =
      ⟨(m.live turns).events ++ ((m.live turns).service.turn turn).events,
        ((m.live turns).service.turn turn).service⟩ := by
  rw [live_append, live_cons]
  exact congrArg (Lived.mk · _) (congrArg _ (List.append_nil _))

/-- Wherever the channel **changes by itself** in some turns, it does so as it may. -/
def Elapses (m : Multiplexer σ η) (may : σ → σ → Prop) (turns : List (Turn σ η)) : Prop :=
  ∀ before channel after, turns = before ++ .elapse channel :: after →
    may (m.live before).service.channel channel

/-- Where the channel changes in some turns, it does so in the first one, or **behind it**. -/
theorem Elapses.of_cons {may : σ → σ → Prop} {m : Multiplexer σ η} {turn : Turn σ η}
    {turns : List (Turn σ η)} (h : m.Elapses may (turn :: turns)) :
    (∀ channel, turn = .elapse channel → may m.channel channel) ∧
      (m.turn turn).service.Elapses may turns := by
  constructor
  · rintro channel rfl
    exact h [] channel turns rfl
  · rintro before channel after rfl
    exact h (turn :: before) channel after rfl

theorem Elapses.of_append {may : σ → σ → Prop} {m : Multiplexer σ η} {turns later : List (Turn σ η)}
    (h : m.Elapses may (turns ++ later)) : m.Elapses may turns := by
  rintro before channel after rfl
  exact h before channel (after ++ later) (List.append_assoc ..)

/-- Where the channel changes as it may in some turns and in those behind them, it does so **in all
of them**. -/
theorem Elapses.append {may : σ → σ → Prop} {m : Multiplexer σ η} {turns later : List (Turn σ η)}
    (h : m.Elapses may turns) (h' : (m.live turns).service.Elapses may later) :
    m.Elapses may (turns ++ later) := by
  intro before channel after split
  rcases List.append_eq_append_iff.mp split with ⟨between, rfl, rest⟩ | ⟨between, rfl, rest⟩
  · rw [live_append]
    exact h' between channel after rest
  · cases between with
    | nil =>
      rw [List.append_nil] at h'
      exact h' [] channel after rest.symm
    | cons turn between =>
      obtain ⟨rfl, -⟩ := List.cons.inj rest
      exact h before channel between rfl

theorem Elapses.singleton {may : σ → σ → Prop} {m : Multiplexer σ η} {turn : Turn σ η}
    (may_turn : ∀ channel, turn = .elapse channel → may m.channel channel) :
    m.Elapses may [turn] := by
  intro before channel after split
  cases before with
  | nil => exact may_turn channel (List.cons.inj split).1
  | cons first before => simp at split

/-- In turns of the owner alone, the channel **never** changes by itself. -/
theorem Elapses.of_none {may : σ → σ → Prop} {m : Multiplexer σ η} {turns : List (Turn σ η)}
    (none : ∀ channel, .elapse channel ∉ turns) : m.Elapses may turns := by
  rintro before channel after rfl
  exact absurd (List.mem_append_right _ (List.mem_cons_self ..)) (none channel)

/-- **What happens in a life happens in some turn.** -/
theorem exists_turn {m : Multiplexer σ η} {turns : List (Turn σ η)} {event : Event η}
    (mem : event ∈ (m.live turns).events) :
    ∃ before turn after, turns = before ++ turn :: after ∧
      event ∈ ((m.live before).service.turn turn).events := by
  induction turns generalizing m with
  | nil => exact absurd mem List.not_mem_nil
  | cons turn turns ih =>
    rw [live_cons] at mem
    rcases List.mem_append.mp mem with now | later
    · exact ⟨[], turn, turns, rfl, now⟩
    · obtain ⟨before, turn', after, rfl, inside⟩ := ih later
      exact ⟨turn :: before, turn', after, rfl, inside⟩

/-- What holds at the start and is **kept by every turn** holds after every life. -/
theorem live_invariant {m : Multiplexer σ η} (holds : List (Turn σ η) → Multiplexer σ η → Prop)
    (start : holds [] m)
    (step : ∀ turns turn, holds turns (m.live turns).service →
      holds (turns ++ [turn]) ((m.live turns).service.turn turn).service)
    (turns : List (Turn σ η)) : holds turns (m.live turns).service := by
  induction turns using List.reverseRecOn with
  | nil => exact start
  | append_singleton turns turn ih =>
    rw [live_concat]
    exact step turns turn ih

end Multiplexer

end DriveLink
