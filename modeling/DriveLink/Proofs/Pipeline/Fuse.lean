import DriveLink.Proofs.Pipeline.Coherence
import DriveLink.Proofs.Pipeline.Once

/-! # The fuse

A connection dies with the first of its halves that fails, and nothing brings it back. From then on
it leaves its channel alone, and whoever submits a request is told at once, under a key that nobody
else has.

* `Tallied`, `Counter` — a channel that counts the calls that are made to it;
* `Multiplexer.Fused` — a connection that is dead just if one of its halves is;
* `Multiplexer.live_of_failed` — a dead connection stays as it is;
* `Keyed`, `keyed_live` — the keys that requests get;
* `fuse_is_one_way` — all of it, in the life of a connection. -/

namespace DriveLink

variable {σ η : Type}

/-! ## Calls to a channel -/

/-- A channel that **counts the calls** that are made to it. -/
class Tallied (σ : Type) [Channel σ] where
  /-- How many times the channel has been called to read, to write or to flush. -/
  calls : σ → Nat
  calls_read (s : σ) (limit : Nat) : calls (Channel.read s limit).2 = calls s + 1
  calls_write (s : σ) (offered : Bytes) : calls (Channel.write s offered).2 = calls s + 1
  calls_flush (s : σ) : calls (Channel.flush s).2 = calls s + 1

open Tallied (calls)

/-- Any channel, with **a count of the calls** added to it. -/
structure Counter (σ : Type) where
  channel : σ
  calls : Nat := 0

namespace Counter

/-- What somebody is told who calls the channel, with so many calls more. -/
def answer {α : Type} (counter : Counter σ) (more : Nat) (result : α × σ) : α × Counter σ :=
  (result.1, ⟨result.2, counter.calls + more⟩)

instance [Channel σ] : Channel (Counter σ) where
  read counter limit := counter.answer 1 (Channel.read counter.channel limit)
  write counter offered := counter.answer 1 (Channel.write counter.channel offered)
  flush counter := counter.answer 1 (Channel.flush counter.channel)
  inbound counter := Channel.inbound counter.channel
  read_inbound := by
    intro counter counter' limit chunk read
    obtain ⟨progress, rfl⟩ := Prod.mk.inj read
    exact Channel.read_inbound (Prod.ext progress rfl)

instance [Channel σ] : Tallied (Counter σ) where
  calls := Counter.calls
  calls_read _ _ := rfl
  calls_write _ _ := rfl
  calls_flush _ := rfl

instance [Pollable σ] : Pollable (Counter σ) where
  now counter := Pollable.now counter.channel
  sleep counter d := { counter with channel := Pollable.sleep counter.channel d }
  hasSource counter := Pollable.hasSource counter.channel
  register counter registrar interest :=
    counter.answer 0 (Pollable.register counter.channel registrar interest)
  reregister counter registrar interest :=
    counter.answer 0 (Pollable.reregister counter.channel registrar interest)
  deregister counter registrar :=
    counter.answer 0 (Pollable.deregister counter.channel registrar)
  poll counter timeout := counter.answer 0 (Pollable.poll counter.channel timeout)

end Counter

variable [Channel σ]

/-! ## The fuse -/

namespace Multiplexer

/-- A connection that is **dead just if one of its halves is**. -/
def Fused (m : Multiplexer σ η) : Prop :=
  m.failed = true ↔ m.outbox.failed = true ∨ m.inbox.failed = true

omit [Channel σ] in
/-- A connection that is dead, and so is one of its halves. -/
theorem fused_of_dead {m : Multiplexer σ η} (dead : m.failed = true)
    (broken : m.outbox.failed = true ∨ m.inbox.failed = true) : m.Fused :=
  ⟨fun _ => broken, fun _ => dead⟩

omit [Channel σ] in
/-- A connection that is alive, and so are its halves. -/
theorem fused_of_alive {m : Multiplexer σ η} (alive : m.failed = false)
    (outbox : m.outbox.failed = false) (inbox : m.inbox.failed = false) : m.Fused := by
  rw [Fused, alive, outbox, inbox]
  simp only [Bool.false_eq_true, or_self]

/-- **A run blows the fuse** just if a half fails in it. -/
theorem Fused.run {m : Multiplexer σ η} (h : m.Fused) : m.run.service.Fused := by
  unfold Multiplexer.run
  split
  · exact h
  · simp only
    split
    · rename_i sends
      exact fused_of_dead rfl (.inl ((Outbox.failed_send_iff _ _ _).mpr sends))
    · rename_i alive sends
      split
      · rename_i receives
        exact fused_of_dead rfl (.inr ((Inbox.failed_receive_iff _ _).mpr receives))
      · rename_i receives
        exact fused_of_alive (Bool.eq_false_iff.mpr alive)
          (Bool.eq_false_iff.mpr (mt (Outbox.failed_send_iff _ _ _).mp sends))
          (Bool.eq_false_iff.mpr (mt (Inbox.failed_receive_iff _ _).mp receives))

theorem Fused.turn {m : Multiplexer σ η} (h : m.Fused) (turn : Turn σ η) :
    (m.turn turn).service.Fused := by
  rcases m.turn_cases turn with rfl | ⟨channel, rfl⟩ | still
  · exact h.run
  · exact h
  · rwa [Fused, still.failed, still.outbox, still.inbox]

/-- **At every moment** a connection is dead just if one of its halves is. -/
theorem Fused.live {m : Multiplexer σ η} (h : m.Fused) (turns : List (Turn σ η)) :
    (m.live turns).service.Fused :=
  live_invariant (fun _ m => m.Fused) h (fun _ turn so_far => so_far.turn turn) turns

theorem fused_of_start [Pollable σ] {patience : Nat} {signer : Signer} {options : Options} {s : σ}
    {m : Multiplexer σ η} (started : start patience signer options s = some (.ok m)) :
    m.Fused := by
  obtain ⟨alive, -⟩ := outbox_of_start started
  have coherent := coherent_of_start started
  exact fused_of_alive alive (coherent.outbox alive) (coherent.inbox alive)

/-! ## A dead connection -/

end Multiplexer

/-- **Nothing revives** a dead connection. -/
theorem Path.failed {m m' : Multiplexer σ η} {events : List (Event η)} (h : Path m events m')
    (dead : m.failed = true) : m'.failed = true := by
  induction h with
  | done m => exact dead
  | step move path ih =>
    refine ih ?_
    cases move with
    | fuse broken => rfl
    | _ => exact dead

/-- A connection that is alive **has been alive** before. -/
theorem Multiplexer.alive_of_live {m : Multiplexer σ η} {turns more : List (Turn σ η)}
    (alive : (m.live (turns ++ more)).service.failed = false) :
    (m.live turns).service.failed = false := by
  rw [← Bool.not_eq_true] at alive ⊢
  intro dead
  rw [live_append] at alive
  exact alive ((path_live _ more).failed dead)

namespace Multiplexer

theorem run_of_failed {m : Multiplexer σ η} (dead : m.failed = true) : m.run = ⟨none, [], m⟩ :=
  if_pos dead

/-- **A run that says that the connection is dead** leaves it so. -/
theorem failed_of_readiness {m : Multiplexer σ η} (h : m.run.readiness = none) :
    m.run.service.failed = true := by
  unfold Multiplexer.run at h ⊢
  split
  · assumption
  · rename_i alive
    rw [if_neg alive] at h
    simp only at h ⊢
    split
    · rfl
    · rename_i sends
      rw [if_neg sends] at h
      split
      · rfl
      · rename_i receives
        rw [if_neg receives] at h
        cases h

/-- Nothing **calls the channel** of a dead connection, and nothing revives it. -/
theorem turn_of_failed [Tallied σ] {m : Multiplexer σ η} (dead : m.failed = true)
    {turn : Turn σ η} (idle : ∀ channel, turn = .elapse channel → calls channel = calls m.channel) :
    (m.turn turn).service.failed = true ∧
      calls (m.turn turn).service.channel = calls m.channel := by
  rcases m.turn_cases turn with rfl | ⟨channel, rfl⟩ | still
  · show m.run.service.failed = true ∧ calls m.run.service.channel = calls m.channel
    rw [run_of_failed dead]
    exact ⟨dead, rfl⟩
  · exact ⟨dead, idle channel rfl⟩
  · rw [still.failed, still.channel]
    exact ⟨dead, rfl⟩

/-- **A dead connection stays dead**, and its channel is left alone. -/
theorem live_of_failed [Tallied σ] {m : Multiplexer σ η} (dead : m.failed = true)
    {turns : List (Turn σ η)} (idle : m.Elapses (fun s s' => calls s' = calls s) turns) :
    (m.live turns).service.failed = true ∧
      calls (m.live turns).service.channel = calls m.channel := by
  induction turns generalizing m with
  | nil => exact ⟨dead, rfl⟩
  | cons turn turns ih =>
    obtain ⟨first, behind⟩ := idle.of_cons
    obtain ⟨dead', calls_eq⟩ := turn_of_failed dead first
    rw [live_cons]
    obtain ⟨dead'', calls_eq'⟩ := ih dead' behind
    exact ⟨dead'', calls_eq'.trans calls_eq⟩

end Multiplexer

/-! ## Keys -/

/-- **The keys that requests get** are given out one after the other, from zero on. -/
structure Keyed (past : List (Event η)) (m : Multiplexer σ η) : Prop where
  keys : (Event.submissions past).map (fun submission => submission.1.toNat) =
    List.range (Event.submissions past).length
  next_key : m.nextKey.toNat = (Event.submissions past).length

omit [Channel σ] in
/-- Whoever submits gets the next key, **as long as there are keys**. -/
theorem Keyed.submit {past events : List (Event η)} {m m' : Multiplexer σ η} (h : Keyed past m)
    {handler : Option η} (one : Event.submissions events = [(m.nextKey, handler)])
    (key_eq : m'.nextKey = m.nextKey + 1)
    (few : (Event.submissions (past ++ events)).length < 2 ^ 64) : Keyed (past ++ events) m' := by
  have next := h.next_key
  rw [Event.submissions_append, one, List.length_append, List.length_singleton] at few
  constructor
  · rw [Event.submissions_append, one, List.map_append, h.keys, List.length_append,
      List.length_singleton, List.range_succ, ← next]
    rfl
  · rw [Event.submissions_append, one, List.length_append, List.length_singleton, key_eq, ← next]
    exact UInt64.toNat_add_one (by omega)

/-- **Keys are given out one after the other** on every path with fewer submissions than keys. -/
theorem Path.keyed {m m' : Multiplexer σ η} {events : List (Event η)} (h : Path m events m')
    (start : Keyed [] m) (few : (Event.submissions events).length < 2 ^ 64) :
    Keyed events m' := by
  -- the invariant holds as long as there have been few submissions
  refine h.invariant (fun past m => (Event.submissions past).length < 2 ^ 64 → Keyed past m)
    (fun _ => start) ?_ few
  intro past m₁ events m₂ _ so_far move few
  have before : (Event.submissions past).length < 2 ^ 64 := by
    rw [Event.submissions_append, List.length_append] at few
    omega
  have keyed := so_far before
  cases move.counts with
  | still none _ key_eq _ =>
    constructor
    · rw [Event.submissions_append, none, List.append_nil]
      exact keyed.keys
    · rw [Event.submissions_append, none, List.append_nil, key_eq]
      exact keyed.next_key
  | refuse handler one _ key_eq _ => exact keyed.submit one key_eq few
  | queue handler one _ key_eq _ => exact keyed.submit one key_eq few

/-- The keys that requests get **in the life** of a new connection. -/
theorem keyed_live {m : Multiplexer σ η} (fresh : m.Fresh) (turns : List (Turn σ η))
    (few : (Turn.submitted turns).length < 2 ^ 64) :
    Keyed (m.live turns).events (m.live turns).service := by
  refine (path_live m turns).keyed ⟨rfl, ?_⟩ ?_
  · rw [fresh.key]
    rfl
  · rwa [length_submissions_live]

namespace Keyed

variable {past : List (Event η)} {m : Multiplexer σ η}

omit [Channel σ]

/-- The next key is **greater than all before it**. -/
theorem lt_next_key (h : Keyed past m) {submission : RequestKey × Option η}
    (mem : submission ∈ Event.submissions past) : submission.1.toNat < m.nextKey.toNat := by
  have in_range : submission.1.toNat ∈ List.range (Event.submissions past).length :=
    h.keys ▸ List.mem_map_of_mem mem
  rw [h.next_key]
  exact List.mem_range.mp in_range

/-- No two handlers are submitted under **one key**. -/
theorem nodup_given (h : Keyed past m) : ((Event.given past).map Prod.fst).Nodup := by
  have nodup : ((Event.submissions past).map Prod.fst).Nodup := by
    refine List.Nodup.of_map UInt64.toNat ?_
    rw [List.map_map]
    exact h.keys ▸ List.nodup_range
  rw [Event.given_eq, Multiset.map_coe, Multiset.coe_nodup]
  exact nodup.sublist (sublist_keys _)

end Keyed

/-! ## Told once -/

/-- **A handler that has been called is not called again**, to the end of the connection. -/
theorem Multiplexer.filter_key_of_completed {m : Multiplexer σ η} (fresh : m.Fresh)
    {turns : List (Turn σ η)} (few : (Turn.submitted turns).length < 2 ^ 64)
    (completion : Completion η)
    (submitted : (completion.key, some completion.handler) ∈
      Event.submissions (m.live turns).events)
    (completed : .completed completion ∈ (m.live turns).events) :
    (Event.completions (m.live turns).ended).filter (·.key = completion.key) = [completion] := by
  have settled := settled_live fresh turns
  have gives : (completion.key, completion.handler) ∈ Event.given (m.live turns).events := by
    rw [Event.given_eq]
    exact Multiset.mem_coe.mpr (List.mem_filterMap.mpr ⟨_, submitted, rfl⟩)
  have mem : completion ∈ Event.completions (m.live turns).ended := by
    rw [Lived.ended, Event.completions_append]
    exact List.mem_append_left _ (Event.mem_completions.mpr completed)
  obtain ⟨back, away⟩ := once_of_settled settled (keyed_live fresh turns few).nodup_given gives
  obtain ⟨outcome, alone⟩ := away fun taken => back taken completion mem rfl
  have same : completion ∈ (Event.completions (m.live turns).ended).filter
      (·.key = completion.key) :=
    List.mem_filter.mpr ⟨mem, decide_eq_true rfl⟩
  rw [alone, List.mem_singleton] at same
  rw [alone, ← same]

/-! ## One way -/

/-- What everybody is told who submits a request to a **dead connection**. -/
def Multiplexer.deadStatus : Status := .client .shutdown "connection has failed"

/-- **A connection whose fuse has blown**, and whose channel has been left alone since it was in the
given state. It refuses whatever it is asked, and nothing comes of it but that a key is used up. -/
structure Multiplexer.Blown [Tallied σ] (m : Multiplexer σ η) (since : σ) : Prop where
  dead : m.isAlive = false
  run : m.run = ⟨none, [], m⟩
  unattended : calls m.channel = calls since
  submit (envelope : Envelope) (command : Command) (value : Bytes) (handler : Option η) :
    m.submit envelope command value handler =
      (m.nextKey, (handler.map fun handler => ⟨m.nextKey, handler, .failed deadStatus none⟩).toList,
        { m with nextKey := m.nextKey + 1 })

theorem Multiplexer.blown_of_failed [Tallied σ] {m : Multiplexer σ η} {since : σ}
    (dead : m.failed = true) (unattended : calls m.channel = calls since) : m.Blown since where
  dead := by rw [isAlive, dead]; rfl
  run := run_of_failed dead
  unattended := unattended
  submit envelope command value handler := if_pos dead

/-- **The fuse blows once and for all.** At every moment in the life of a connection that was
started, it is dead just if one of its halves is. And once a run has said that it is dead, whatever
its owner does later, every run says so, the channel is not called any more, and every submission
fails its handler before it is over, as the connection being shut down. Its key is greater than all
that were given out before, as long as there are keys, and its handler is called this once, up to
the end of the connection. -/
theorem fuse_is_one_way [Pollable σ] [Tallied σ] {patience : Nat} {signer : Signer}
    {options : Options} {s : σ} {m : Multiplexer σ η}
    (started : Multiplexer.start patience signer options s = some (.ok m))
    (turns : List (Turn σ η)) :
    ((m.live turns).service.failed = true ↔
      (m.live turns).service.outbox.failed = true ∨ (m.live turns).service.inbox.failed = true) ∧
    ((m.live turns).service.run.readiness = none → ∀ later : List (Turn σ η),
      (m.live turns).service.run.service.Elapses (fun s s' => calls s' = calls s) later →
      let now := m.live (turns ++ .run :: later)
      now.service.Blown (m.live turns).service.run.service.channel ∧
      ∀ envelope command value handler rest,
        let whole := turns ++ .run :: later ++ .submit envelope command value handler :: rest
        (Turn.submitted whole).length < 2 ^ 64 →
        (∀ earlier ∈ Event.submissions now.events,
          earlier.1.toNat < now.service.nextKey.toNat) ∧
        ∀ called, handler = some called →
          (Event.completions (m.live whole).ended).filter (·.key = now.service.nextKey) =
            [⟨now.service.nextKey, called, .failed Multiplexer.deadStatus none⟩]) := by
  refine ⟨(Multiplexer.fused_of_start started).live turns, fun refused later idle => ?_⟩
  intro now
  have fresh := Multiplexer.fresh_of_start started
  have now_eq : now.service = ((m.live turns).service.run.service.live later).service := by
    show (m.live (turns ++ .run :: later)).service = _
    rw [Multiplexer.live_append, Multiplexer.live_cons]
    rfl
  obtain ⟨dead, unattended⟩ :=
    Multiplexer.live_of_failed (Multiplexer.failed_of_readiness refused) idle
  rw [← now_eq] at dead unattended
  refine ⟨Multiplexer.blown_of_failed dead unattended, ?_⟩
  intro envelope command value handler rest whole few
  have sooner : (Turn.submitted (turns ++ .run :: later)).length < 2 ^ 64 := by
    have split : Turn.submitted whole = Turn.submitted (turns ++ .run :: later) ++
        Turn.submitted (.submit envelope command value handler :: rest) := List.filterMap_append
    rw [split, List.length_append] at few
    omega
  refine ⟨fun earlier mem => (keyed_live fresh _ sooner).lt_next_key mem, ?_⟩
  rintro called rfl
  -- the turn that submits calls the handler, so that it is not called again
  have events_eq : (m.live whole).events = now.events ++
      ((now.service.turn (.submit envelope command value (some called))).events ++
        ((now.service.turn (.submit envelope command value (some called))).service.live
          rest).events) := by
    show (m.live (turns ++ .run :: later ++ _ :: rest)).events = _
    rw [Multiplexer.live_append, Multiplexer.live_cons]
  rw [Multiplexer.turn_submit_of_failed dead] at events_eq
  refine Multiplexer.filter_key_of_completed fresh few
    ⟨now.service.nextKey, called, .failed Multiplexer.deadStatus none⟩ ?_ ?_
  · rw [events_eq, Event.submissions_append, Event.submissions_append]
    exact List.mem_append_right _ (List.mem_append_left _ (List.mem_cons_self ..))
  · rw [events_eq]
    refine List.mem_append_right _ (List.mem_append_left _ (List.mem_cons_of_mem _ ?_))
    exact List.mem_cons_self ..

/-! ## A channel that breaks -/

section Breaking

open Simulation (Drive)

/-- A drive that says hello, takes the first few bytes of a request, and then **breaks**. -/
def breakingDrive : Counter Drive where
  channel := { key := [1], queue := [.bytes hello], writes := [.upTo 5, .fail "broken"] }

/-- One request is submitted before the run in which the channel breaks. -/
def breakingTurns : List (Turn (Counter Drive) Nat) :=
  [.submit (.withPin [1]) {} [] (some 10)]

/-- What the owner tries afterwards. -/
def vainTurns : List (Turn (Counter Drive) Nat) :=
  [.submit (.withPin [1]) {} [] (some 20), .remove 0, .run]

/-- Behind the run in which the channel breaks, **it is not called any more**, and the third request
gets a new key and is failed at once. -/
theorem fuse_is_one_way_breaking :
    ∃ m : Multiplexer (Counter Drive) Nat,
      Multiplexer.start 2 (.constant [7]) { hmacKey := [1] } breakingDrive = some (.ok m) ∧
      (m.live breakingTurns).service.run.readiness = none ∧
      (m.live breakingTurns).service.run.service.outbox.failed = true ∧
      (m.live breakingTurns).service.run.service.Elapses (fun s s' => calls s' = calls s)
        vainTurns ∧
      (m.live (breakingTurns ++ .run :: vainTurns)).service.Blown
        (m.live breakingTurns).service.run.service.channel ∧
      (m.live (breakingTurns ++ .run :: vainTurns)).service.nextKey = 2 ∧
      (Event.completions (m.live (breakingTurns ++ .run :: vainTurns ++
        [.submit (.withPin [1]) {} [] (some 30)])).ended).filter (·.key = 2) =
          [⟨2, 30, .failed Multiplexer.deadStatus none⟩] := by
  have check : ((Multiplexer.start 2 (.constant [7]) { hmacKey := [1] } breakingDrive :
      Option (Except Failure (Multiplexer (Counter Drive) Nat))).any fun started =>
      started.toOption.any fun m =>
        decide ((m.live breakingTurns).service.run.readiness = none ∧
          (m.live breakingTurns).service.run.service.outbox.failed = true ∧
          (m.live (breakingTurns ++ .run :: vainTurns)).service.nextKey = 2)) = true := by
    decide +kernel
  obtain ⟨m, started, check⟩ := exists_started check
  obtain ⟨refused, broken, key_eq⟩ := of_decide_eq_true check
  have idle : (m.live breakingTurns).service.run.service.Elapses
      (fun s s' => calls s' = calls s) vainTurns :=
    Multiplexer.Elapses.of_none (by simp [vainTurns])
  obtain ⟨-, oneWay⟩ := fuse_is_one_way started breakingTurns
  obtain ⟨blown, told⟩ := oneWay refused vainTurns idle
  obtain ⟨-, once⟩ := told (.withPin [1]) {} [] (some 30) [] (by decide)
  have once := once 30 rfl
  rw [key_eq] at once
  exact ⟨m, started, refused, broken, idle, blown, key_eq, once⟩

end Breaking

end DriveLink
