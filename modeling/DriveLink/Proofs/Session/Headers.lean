import DriveLink.Proofs.Pipeline.Carried
import DriveLink.Proofs.Pipeline.Learning
import DriveLink.Proofs.Session.Usage
import Mathlib.Tactic.IntervalCases

/-! # The header of a request

Who asks a drive for something and who writes the request down are far apart. In between, settings
are changed, other requests are taken back, and responses come in that give the connection another
number. None of this reaches a request that has been asked for already: its header says what was in
force at the call, and the drive hears it so, whenever it is written.

* `DriveOperation.messageType`, `DriveOperation.batch?` — what an operation says of itself;
* `Settings`, `Settings.afterAll` — what is in force, by what the owner has done;
* `Connection.exists_places` — every request that is queued goes back to a call of its own;
* `Connection.headers_are_of_the_call` — the header of every request that the drive hears. -/

namespace DriveLink

open Metered (gauge)
open ReadOutcome (lastLearned)
open Simulation (HeardRequest)
open Taped (tape)

/-! ## What an operation says of itself -/

namespace DriveOperation

/-- The **message type** of an operation. -/
def messageType : DriveOperation → MessageType
  | noOp => .noOp
  | get _ => .get
  | getNext _ => .getNext
  | getPrevious _ => .getPrevious
  | getVersion _ => .getVersion
  | getKeyRange .. => .getKeyRange
  | put .. | batchPut .. => .put
  | delete .. | batchDelete .. => .delete
  | flush => .flushAllData
  | withPin .. => .pinOp
  | setErasePin .. | setLockPin .. | setAcls _ => .security
  | setClusterVersion _ | updateFirmware _ => .setup
  | getLog _ | getDeviceLog _ => .getLog
  | push .. => .peerToPeerPush
  | startBatch _ => .startBatch
  | endBatch .. => .endBatch
  | abortBatch _ => .abortBatch

/-- The **batch** that an operation belongs to, if it belongs to one. -/
def batch? : DriveOperation → Option UInt32
  | startBatch batch | batchPut batch .. | batchDelete batch .. | endBatch batch _
  | abortBatch batch => some batch
  | _ => none

/-- The header of a request **says so**, and nothing else. -/
theorem header_request (operation : DriveOperation) : operation.request.command.header =
    { messageType := some operation.messageType, batchId := operation.batch? } := by
  cases operation <;> rfl

end DriveOperation

/-! ## What is in force -/

/-- **What is sent with every request** of a connection. -/
structure Settings where
  clusterVersion : Int64
  priority : Priority
  requestTimeout : Option Duration

namespace Settings

variable {σ τ : Type}

/-- What is in force on a new connection. -/
def ofOptions (options : Options) : Settings :=
  ⟨options.clusterVersion, options.priority, options.requestTimeout⟩

/-- What is in force **behind one use** of the connection. -/
def after (settings : Settings) : Use σ τ → Settings
  | .setClusterVersion clusterVersion => { settings with clusterVersion }
  | .setPriority priority => { settings with priority }
  | .setRequestTimeout requestTimeout => { settings with requestTimeout }
  | _ => settings

/-- What is in force **behind some uses**, one after the other. -/
def afterAll (settings : Settings) (uses : List (Use σ τ)) : Settings := uses.foldl after settings

/-- **The header of a request** for an operation, on a connection with a number: what is in force,
and what the operation says of itself. A time limit is sent in whole milliseconds, as many as fit
into a signed word. Nothing is acknowledged and there is no early exit. -/
def header (settings : Settings) (operation : DriveOperation) (connectionId : Option Int64)
    (sequence : Int64) : Header where
  clusterVersion := some settings.clusterVersion
  connectionId := connectionId
  sequence := some sequence
  ackSequence := none
  messageType := some operation.messageType
  timeout := settings.requestTimeout.map fun limit =>
    Int64.ofNat (min (limit.nanoseconds / 1000000) (2 ^ 63 - 1))
  priority := some settings.priority
  earlyExit := none
  batchId := operation.batch?

end Settings

namespace Connection

variable {σ τ : Type}

/-- What is in force on a connection. -/
def settings (c : Connection σ τ) : Settings := ⟨c.clusterVersion, c.priority, c.requestTimeout⟩

theorem settings_of_start [Channel σ] [Pollable σ] {patience : Nat} {signer : Signer}
    {options : Options} {s : σ} {c : Connection σ τ}
    (started : start patience signer options s = some (.ok c)) :
    c.settings = .ofOptions options := by
  rw [start_eq] at started
  obtain ⟨result, -, mapped⟩ := Option.map_eq_some_iff.mp started
  cases result with
  | error failure => cases mapped
  | ok service =>
    cases mapped
    rfl

variable [Channel σ]

theorem settings_use (c : Connection σ τ) (use : Use σ τ) :
    (c.use use).2.settings = c.settings.after use := by
  cases use <;> rfl

/-- **Only its owner** changes what is in force on a connection. -/
theorem settings_inUse (c : Connection σ τ) (uses : List (Use σ τ)) :
    (c.inUse uses).2.settings = c.settings.afterAll uses := by
  induction uses generalizing c with
  | nil => rfl
  | cons use uses ih =>
    rw [inUse_cons, ih, settings_use]
    rfl

end Connection

/-! ## Which call a request goes back to -/

namespace Multiplexer

variable {σ η : Type} [Channel σ]

/-- One turn queues **at most one request**. -/
theorem requests_turn (m : Multiplexer σ η) (turn : Turn σ η) :
    Event.requests (m.turn turn).events = [] ∨
      ∃ request, Event.requests (m.turn turn).events = [request] := by
  by_cases none : Event.requests (m.turn turn).events = []
  · exact .inl none
  · -- whatever is queued has been submitted, and comes to one request
    obtain ⟨request, mem⟩ := List.exists_mem_of_ne_nil _ none
    obtain ⟨envelope, command, value, handler, rfl, alive, prepared⟩ :=
      prepare_of_queued (Event.mem_requests.mp mem)
    refine .inr ⟨request, ?_⟩
    rw [turn_submit_of_ok alive prepared]
    rfl

end Multiplexer

namespace Connection

variable {σ τ : Type} [Channel σ]

/-- **What is heard of some requests**, each with the place of its call. -/
theorem forall₂_heard_of_calls {calls : List (Nat × QueuedRequest (Callback τ))}
    {tells : Nat → HeardRequest → Prop}
    (hears : ∀ call ∈ calls, ∃ heard, call.2.heard? = some heard ∧ tells call.1 heard) :
    List.Forall₂ tells (calls.map Prod.fst)
      ((calls.map Prod.snd).filterMap QueuedRequest.heard?) := by
  induction calls with
  | nil => exact .nil
  | cons call calls ih =>
    obtain ⟨⟨heard, heard_eq, said⟩, others⟩ := List.forall_mem_cons.mp hears
    rw [List.map_cons, List.map_cons, List.filterMap_cons_some heard_eq]
    exact .cons said (ih others)

/-- At the place of a use there is a **call that asks for something**, and the request is queued in
it. -/
def QueuedAt (c : Connection σ τ) (uses : List (Use σ τ)) (place : Nat)
    (request : QueuedRequest (Callback τ)) : Prop :=
  let now := (c.inUse (uses.take place)).2
  ∃ operation tag, uses[place]? = some (.ask operation tag) ∧
    .queued request ∈ (now.service.turn (now.asking operation tag)).events

/-- What is queued at a place **is queued there** whatever is done later. -/
theorem QueuedAt.append {c : Connection σ τ} {uses : List (Use σ τ)} {place : Nat}
    {request : QueuedRequest (Callback τ)} (h : c.QueuedAt uses place request)
    (later : List (Use σ τ)) : c.QueuedAt (uses ++ later) place request := by
  obtain ⟨operation, tag, asked, queued⟩ := h
  obtain ⟨inside, -⟩ := List.getElem?_eq_some_iff.mp asked
  have same : (uses ++ later).take place = uses.take place :=
    List.take_append_of_le_length (Nat.le_of_lt inside)
  refine ⟨operation, tag, ?_, same ▸ queued⟩
  rw [List.getElem?_append_left inside]
  exact asked

omit [Channel σ] in
/-- Places stay in order if **one behind all of them** comes last. -/
theorem pairwise_places_concat {α : Type} {asked : List (Nat × α)} {place : Nat}
    (ordered : (asked.map Prod.fst).Pairwise (· < ·)) (inside : ∀ call ∈ asked, call.1 < place)
    {new : List α} (one : new.length ≤ 1) :
    ((asked ++ new.map (Prod.mk place)).map Prod.fst).Pairwise (· < ·) := by
  rw [List.map_append, List.pairwise_append, List.map_map]
  refine ⟨ordered, ?_, fun earlier mem later mem' => ?_⟩
  · match new, one with
    | [], _ => exact .nil
    | [_], _ => exact List.pairwise_singleton _ _
  · obtain ⟨call, before, rfl⟩ := List.mem_map.mp mem
    obtain ⟨_, -, rfl⟩ := List.mem_map.mp mem'
    exact inside call before

/-- **Every request that is queued goes back to a call of its own**, in the order of the calls. -/
theorem exists_places (c : Connection σ τ) (uses : List (Use σ τ)) :
    ∃ asked : List (Nat × QueuedRequest (Callback τ)),
      asked.map Prod.snd = Event.requests (c.service.live (c.turns uses)).events ∧
      (asked.map Prod.fst).Pairwise (· < ·) ∧
      (∀ call ∈ asked, call.1 < uses.length) ∧
      ∀ call ∈ asked, c.QueuedAt uses call.1 call.2 := by
  -- on the uses from the last one on: the places of those before it stay as they are
  induction uses using List.reverseRecOn with
  | nil => exact ⟨[], rfl, .nil, fun _ mem => absurd mem List.not_mem_nil,
      fun _ mem => absurd mem List.not_mem_nil⟩
  | append_singleton uses use ih =>
    obtain ⟨asked, requests_eq, ordered, inside, queued⟩ := ih
    have service_eq := (c.inUse_eq uses).1
    have longer : ∀ call ∈ asked, call.1 < (uses ++ [use]).length := fun call mem =>
      Nat.lt_of_lt_of_le (inside call mem) (by rw [List.length_append]; omega)
    have same : ∀ call ∈ asked, c.QueuedAt (uses ++ [use]) call.1 call.2 := fun call mem =>
      (queued call mem).append [use]
    rw [turns_append, Multiplexer.live_append, Event.requests_append, ← service_eq, turns, turns,
      List.append_nil, ← requests_eq]
    generalize own : (c.inUse uses).2.turn? use = turn?
    cases turn? with
    | none =>
      -- a change of settings is no turn
      exact ⟨asked, (List.append_nil _).symm, ordered, longer, same⟩
    | some turn =>
      rw [Option.toList_some, Multiplexer.live_singleton]
      rcases (c.inUse uses).2.service.requests_turn turn with none | ⟨request, one⟩
      · rw [none]
        exact ⟨asked, (List.append_nil _).symm, ordered, longer, same⟩
      · have now := Event.mem_requests.mp (one ▸ List.mem_singleton_self request)
        obtain ⟨operation, tag, rfl, rfl⟩ := eq_ask_of_queued own now
        have here : c.QueuedAt (uses ++ [.ask operation tag]) uses.length request := by
          refine ⟨operation, tag, List.getElem?_concat_length, ?_⟩
          rw [List.take_left]
          exact now
        refine ⟨asked ++ [request].map (Prod.mk uses.length), ?_,
          pairwise_places_concat ordered inside (Nat.le_refl 1), ?_, ?_⟩
        · rw [List.map_append, one]
          rfl
        · refine List.forall_mem_append.mpr ⟨longer, List.forall_mem_singleton.mpr ?_⟩
          rw [List.length_append]
          exact Nat.lt_succ_self _
        · exact List.forall_mem_append.mpr ⟨same, List.forall_mem_singleton.mpr here⟩

/-! ## What the drive hears -/

section

variable [Metered σ] [Pollable σ] [Taped σ]

/-- Between the calls of its owner a channel **takes nothing and brings nothing**. -/
def Calm (c : Connection σ τ) (uses : List (Use σ τ)) : Prop :=
  c.service.Elapses (fun s s' => gauge s' = gauge s ∧ tape s' = tape s) (c.turns uses)

omit [Metered σ] [Pollable σ] [Taped σ] in
/-- Where a channel changes as it may, it does so **up to every place**. -/
theorem elapses_take {c : Connection σ τ} {may : σ → σ → Prop} {uses : List (Use σ τ)}
    (h : c.service.Elapses may (c.turns uses)) (place : Nat) :
    c.service.Elapses may (c.turns (uses.take place)) := by
  rw [← uses.take_append_drop place, turns_append] at h
  exact h.of_append

omit [Channel σ] [Metered σ] [Pollable σ] [Taped σ] in
/-- A command that is sent has **what is in force** in its header. -/
theorem addressed_prepare (c : Connection σ τ) (operation : DriveOperation) (sequence : Int64)
    (connectionId : Option Int64) :
    Outbox.addressed (c.prepare operation.request.command) sequence connectionId =
      { operation.request.command with
        header := c.settings.header operation connectionId sequence } := by
  rw [Outbox.addressed, prepare]
  simp only
  rw [operation.header_request]
  rfl

/-- **What is heard of a request** that is queued at a place: the operation that was asked for
there, with what was in force then, and with the number of the connection that the drive had given
last. -/
theorem heard_of_queuedAt {patience : Nat} {signer : Signer} {options : Options} {s : σ}
    {c : Connection σ τ} (started : start patience signer options s = some (.ok c))
    (blank : tape s = []) {uses : List (Use σ τ)} (calm : c.Calm uses) {place : Nat}
    {request : QueuedRequest (Callback τ)} (queued : c.QueuedAt uses place request) :
    ∃ heard, request.heard? = some heard ∧ ∃ operation tag,
      uses[place]? = some (.ask operation tag) ∧
      heard.value = operation.request.value ∧
      heard.command = Command.withoutDeviceLog { operation.request.command with
        header := (Settings.afterAll (.ofOptions options) (uses.take place)).header operation
          (lastLearned signer options.hmacKey (Frame.parse options.maxFrameSize
            (tape (c.inUse (uses.take place)).2.service.channel)).1)
          request.sequence } := by
  obtain ⟨operation, tag, asked, now⟩ := queued
  have service_eq := (c.inUse_eq (uses.take place)).1
  obtain ⟨envelope, command, value, handler, turn_eq, alive, -⟩ := Multiplexer.prepare_of_queued now
  obtain ⟨_, _, _, _, turn_eq', hears⟩ := Multiplexer.exists_heard_of_queued now
  cases turn_eq'
  refine ⟨_, QueuedRequest.heard?_of_heard hears, operation, tag, asked, rfl, ?_⟩
  -- the connection was alive at the call, so that it knew what it had read
  have starts := service_of_start started
  have known : (c.inUse (uses.take place)).2.service.connectionId =
      lastLearned signer options.hmacKey (Frame.parse options.maxFrameSize
        (tape (c.inUse (uses.take place)).2.service.channel)).1 := by
    rw [service_eq] at alive ⊢
    have still : c.service.Elapses (fun s s' => tape s' = tape s) (c.turns (uses.take place)) :=
      fun before channel after split => (elapses_take calm place before channel after split).2
    exact (Multiplexer.informed_live (Multiplexer.coherent_of_start starts)
      (fun _ => Multiplexer.informed_of_start starts blank) still alive).connectionId_eq
  have inForce := c.settings_inUse (uses.take place)
  rw [settings_of_start started] at inForce
  rw [← inForce, ← known]
  exact congrArg Command.withoutDeviceLog (addressed_prepare _ operation _ _)

/-- **The header is that of the call.** Take a connection that was started on a channel of which
nothing had been read, and whatever its owner does with it: asking for operations, running, taking
requests back and changing the settings, in any order, while the channel takes and brings bytes in
any pieces. Each request that the drive hears goes back to a call of its own, in the order of the
calls. It has the value and the body that were asked for, and in its header stand the settings that
were in force at the call, the type and the batch of the operation, and the number of the connection
that had come last by then, in a response that fits and can be opened. Nothing is acknowledged in
it, and there is no early exit. -/
theorem headers_are_of_the_call {patience : Nat} {signer : Signer} {options : Options} {s : σ}
    {c : Connection σ τ} (started : start patience signer options s = some (.ok c))
    (blank : tape s = []) (uses : List (Use σ τ)) (calm : c.Calm uses) {stream : Bytes}
    (written : (gauge (c.inUse uses).2.service.channel).accepted =
      (gauge c.service.channel).accepted ++ stream) :
    ∃ places : List Nat, places.Pairwise (· < ·) ∧
      List.Forall₂ (fun (place : Nat) (heard : HeardRequest) =>
        ∃ operation tag, uses[place]? = some (.ask operation tag) ∧
          heard.value = operation.request.value ∧
          heard.command.body = operation.request.command.body.withoutDeviceLog ∧
          ∃ sequence, heard.command.header =
            (Settings.afterAll (.ofOptions options) (uses.take place)).header operation
              (lastLearned signer options.hmacKey (Frame.parse options.maxFrameSize
                (tape (c.inUse (uses.take place)).2.service.channel)).1)
              sequence)
        places (heardIn stream) := by
  have starts := service_of_start started
  have steady : c.service.Steady (c.turns uses) :=
    fun before channel after split => (calm before channel after split).1
  -- what the meter has counted is what has been written
  have shows := congrArg Gauge.accepted
    (gauge_live (Multiplexer.coherent_of_start starts) steady)
  rw [← (c.inUse_eq uses).1, written, Gauge.accepted_afterAll] at shows
  have stream_eq := List.append_cancel_left shows
  obtain ⟨-, -, -, whole, -, -, whole_sub, -, heard_eq⟩ :=
    c.service.exists_whole (Multiplexer.fresh_of_start starts) (c.turns uses)
  obtain ⟨asked, requests_eq, ordered, -, queued⟩ := c.exists_places uses
  rw [← requests_eq] at whole_sub
  obtain ⟨calls, calls_sub, rfl⟩ := List.sublist_map_iff.mp whole_sub
  refine ⟨calls.map Prod.fst, ordered.sublist (calls_sub.map _), ?_⟩
  rw [stream_eq, heard_eq]
  refine forall₂_heard_of_calls fun call mem => ?_
  obtain ⟨heard, hears, operation, tag, asks, value_eq, command_eq⟩ :=
    heard_of_queuedAt started blank calm (queued call (calls_sub.subset mem))
  refine ⟨heard, hears, operation, tag, asks, value_eq, ?_, call.2.sequence, ?_⟩
  · rw [command_eq]
    rfl
  · rw [command_eq]
    rfl

end

/-! ## A drive that gives another number -/

section Renumbering

open Simulation (Drive)

/-- A drive that greets a client with one number of the connection and **answers its first request
with another**. -/
def renumberingDrive : Drive where
  key := [1]
  queue := Simulation.Item.greeting.render [1] none
  replies := [[.frame
    { auth := .pin
      command := .response { connectionId := some 8 } .echo (.given .empty)
        (some { code := .success }) }]]

/-- Settings are changed before and behind each of **two calls**. -/
def changingUses : List (Use (Recorder (Taping Drive)) Nat) :=
  [.setPriority .highest, .ask .noOp 10, .setClusterVersion 5, .run,
    .setRequestTimeout (some ⟨2500000⟩), .ask (.startBatch 3) 20, .setPriority .lowest, .run]

/-- There are no other calls than these. -/
theorem place_of_changingUses {place : Nat} {operation : DriveOperation} {tag : Nat}
    (asks : changingUses[place]? = some (.ask operation tag)) :
    place = 1 ∧ operation = .noOp ∨ place = 5 ∧ operation = .startBatch 3 := by
  obtain ⟨inside, -⟩ := List.getElem?_eq_some_iff.mp asks
  change place < 8 at inside
  interval_cases place <;> cases asks
  · exact .inl ⟨rfl, rfl⟩
  · exact .inr ⟨rfl, rfl⟩

/-- All that the drive does, it does in the runs. -/
theorem calm_changingUses (c : Connection (Recorder (Taping Drive)) Nat) :
    c.Calm changingUses := by
  intro before channel after split
  obtain ⟨sooner, use, later, uses_eq, -, own⟩ := exists_use split
  have mem : use ∈ changingUses := uses_eq ▸ List.mem_append_right _ (List.mem_cons_self ..)
  simp only [changingUses, List.mem_cons, List.not_mem_nil, or_false] at mem
  rcases mem with rfl | rfl | rfl | rfl | rfl | rfl | rfl | rfl <;> cases own

/-- The drive hears each request **as it was called**: the first one without the cluster version
that was set before it was written, the second one with the number that the answer to the first one
gives. -/
theorem headers_are_of_the_call_renumbered :
    ∃ (c : Connection (Recorder (Taping Drive)) Nat) (first second : HeardRequest)
      (sequence sequence' : Int64),
      Connection.start 2 (.constant [7]) { hmacKey := [1] }
        { channel := { channel := renumberingDrive } } = some (.ok c) ∧
      heardIn (gauge (c.inUse changingUses).2.service.channel).accepted = [first, second] ∧
      first.command.header =
        (⟨0, .highest, none⟩ : Settings).header .noOp (some 4242) sequence ∧
      second.command.header =
        (⟨5, .highest, some ⟨2500000⟩⟩ : Settings).header (.startBatch 3) (some 8) sequence' := by
  have check : ((Connection.start 2 (.constant [7]) { hmacKey := [1] }
      { channel := { channel := renumberingDrive } } :
      Option (Except Failure (Connection (Recorder (Taping Drive)) Nat))).any fun started =>
      started.toOption.any fun c =>
        let known (place : Nat) := lastLearned (.constant [7]) [1] (Frame.parse defaultMaxFrameSize
          (tape (c.inUse (changingUses.take place)).2.service.channel)).1
        decide ((gauge c.service.channel).accepted = [] ∧
          (heardIn (gauge (c.inUse changingUses).2.service.channel).accepted).length = 2 ∧
          known 1 = some 4242 ∧ known 5 = some 8)) = true := by
    decide +kernel
  obtain ⟨c, started, check⟩ := exists_started check
  obtain ⟨empty, two, known, known'⟩ := of_decide_eq_true check
  obtain ⟨places, ordered, heard⟩ := headers_are_of_the_call started rfl changingUses
    (calm_changingUses c) (by rw [empty, List.nil_append])
  obtain ⟨first, second, heard_eq⟩ := List.length_eq_two.mp two
  rw [heard_eq] at heard
  obtain ⟨place, _, ⟨operation, tag, asks, -, -, sequence, header_eq⟩, rest, rfl⟩ :=
    List.forall₂_cons_right_iff.mp heard
  obtain ⟨place', _, ⟨operation', tag', asks', -, -, sequence', header_eq'⟩, none, rfl⟩ :=
    List.forall₂_cons_right_iff.mp rest
  have earlier : place < place' := (List.pairwise_cons.mp ordered).1 _ (List.mem_cons_self ..)
  -- two calls, of which the first one is heard first
  obtain ⟨rfl, rfl⟩ | ⟨rfl, rfl⟩ := place_of_changingUses asks
  · obtain ⟨rfl, rfl⟩ | ⟨rfl, rfl⟩ := place_of_changingUses asks'
    · exact absurd earlier (Nat.lt_irrefl 1)
    · refine ⟨c, first, second, sequence, sequence', started, heard_eq, ?_, ?_⟩
      · rw [header_eq]
        exact congrArg (Settings.header _ _ · sequence) known
      · rw [header_eq']
        exact congrArg (Settings.header _ _ · sequence') known'
  · obtain ⟨rfl, -⟩ | ⟨rfl, -⟩ := place_of_changingUses asks' <;> omega

end Renumbering

end Connection

end DriveLink
