import DriveLink.Proofs.Session.History

/-! # A connection in use

The owner of a connection that does not block asks the drive for things, runs the connection, takes
requests back and changes what is sent with each request. All of this comes down to turns of the
multiplexer below: what is asked is submitted, and a change of settings is no turn at all.

* `DriveOperation` — everything that a drive can be asked, with the request that it comes to;
* `Use`, `Connection.use` — one thing that is done with a connection, and what it does;
* `Connection.inUse` — all that is done, one thing after the other;
* `Connection.turns`, `Connection.inUse_eq` — the turns that it comes down to;
* `Connection.called` — whom all of it completes, up to the end of the connection;
* `Connection.exists_ask_of_queued`, `Connection.exists_ask_of_answered` — what a queued request and
  a response go back to. -/

namespace DriveLink

/-! ## What can be asked -/

/-- **Everything that a drive can be asked** through a connection. -/
inductive DriveOperation
  | noOp
  | get (key : Bytes)
  | getNext (key : Bytes)
  | getPrevious (key : Bytes)
  | getVersion (key : Bytes)
  | getKeyRange (startKey : Bytes) (startInclusive : Bool) (endKey : Bytes) (endInclusive : Bool)
      (reverse : Bool) (maxReturned : UInt32)
  | put (key currentVersion : Bytes) (mode : WriteMode) (record : Record)
      (persist : Synchronization)
  | delete (key version : Bytes) (mode : WriteMode) (persist : Synchronization)
  | flush
  /-- To erase, to erase securely, to lock or to unlock. -/
  | withPin (action : PinAction) (pin : Bytes)
  | setErasePin (old new : Bytes)
  | setLockPin (old new : Bytes)
  | setAcls (acls : List Acl)
  | setClusterVersion (version : Int64)
  | updateFirmware (image : Bytes)
  | getLog (types : List LogType)
  | getDeviceLog (name : Bytes)
  | push (peer : Peer) (operations : List PushOperation)
  | startBatch (batch : UInt32)
  | batchPut (batch : UInt32) (key currentVersion : Bytes) (mode : WriteMode) (record : Record)
  | batchDelete (batch : UInt32) (key version : Bytes) (mode : WriteMode)
  | endBatch (batch count : UInt32)
  | abortBatch (batch : UInt32)

namespace DriveOperation

/-- The **shape of the answer** to an operation. -/
def reply : DriveOperation → Reply
  | get _ | getNext _ | getPrevious _ => .record
  | getVersion _ => .version
  | getKeyRange .. => .keys
  | getLog _ | getDeviceLog _ => .log
  | push .. => .pushStatuses
  | batchPut .. | batchDelete .. => .silence
  | _ => .acknowledgement

/-- The **request** that an operation comes to. -/
def request : (operation : DriveOperation) → Request operation.reply
  | noOp => .noOp
  | get key => .get key
  | getNext key => .getNext key
  | getPrevious key => .getPrevious key
  | getVersion key => .getVersion key
  | getKeyRange startKey startInclusive endKey endInclusive reverse maxReturned =>
    .getKeyRange startKey startInclusive endKey endInclusive reverse maxReturned
  | put key currentVersion mode record persist => .put key currentVersion mode record persist
  | delete key version mode persist => .delete key version mode persist
  | flush => .flush
  | withPin action pin => .withPin action pin
  | setErasePin old new => .setErasePin old new
  | setLockPin old new => .setLockPin old new
  | setAcls acls => .setAcls acls
  | setClusterVersion version => .setClusterVersion version
  | updateFirmware image => .updateFirmware image
  | getLog types => .getLog types
  | getDeviceLog name => .getDeviceLog name
  | push peer operations => .push peer operations
  | startBatch batch => .startBatch batch
  | batchPut batch key currentVersion mode record => .batchPut batch key currentVersion mode record
  | batchDelete batch key version mode => .batchDelete batch key version mode
  | endBatch batch count => .endBatch batch count
  | abortBatch batch => .abortBatch batch

end DriveOperation

/-! ## What is done with a connection -/

/-- **What is done with a connection** that does not block, and what its channel does meanwhile. -/
inductive Use (σ τ : Type)
  /-- Later requests are sent with another cluster version. -/
  | setClusterVersion (version : Int64)
  | setPriority (priority : Priority)
  | setRequestTimeout (limit : Option Duration)
  /-- The drive is asked for something, and the tag comes back with the answer. -/
  | ask (operation : DriveOperation) (tag : τ)
  | run
  | remove (key : RequestKey)
  /-- Between two calls of the owner, the channel has come to another state. -/
  | elapse (channel : σ)

section

variable {σ η : Type} [Channel σ]

/-- A life of **one turn**. -/
theorem Multiplexer.live_singleton (m : Multiplexer σ η) (turn : Turn σ η) :
    m.live [turn] = m.turn turn := by
  show (⟨(m.turn turn).events ++ [], (m.turn turn).service⟩ : Lived σ η) = m.turn turn
  rw [List.append_nil]

/-- **Taking a request back** completes nobody. -/
theorem Multiplexer.turn_remove (m : Multiplexer σ η) (key : RequestKey) :
    (m.turn (.remove key)).service = (m.remove key).2 ∧
      Event.completions (m.turn (.remove key)).events = [] := by
  rw [turn]
  rcases m.remove key with ⟨_ | _, after⟩ <;> exact ⟨rfl, rfl⟩

end

namespace Connection

variable {σ τ : Type} [Channel σ]

/-- **One use** of a connection: whose callbacks are called, and what has become of it. -/
def use (c : Connection σ τ) : Use σ τ → List (Completion (Callback τ)) × Connection σ τ
  | .setClusterVersion clusterVersion => ([], { c with clusterVersion })
  | .setPriority priority => ([], { c with priority })
  | .setRequestTimeout requestTimeout => ([], { c with requestTimeout })
  | .ask operation tag => (c.submit operation.request tag).2
  | .run => c.run.2
  | .remove key => ([], (c.remove key).2)
  | .elapse channel => ([], { c with service := { c.service with channel } })

/-- **Uses one after the other.** -/
def inUse (c : Connection σ τ) :
    List (Use σ τ) → List (Completion (Callback τ)) × Connection σ τ
  | [] => ([], c)
  | first :: uses =>
    let (completions, c) := c.use first
    let (later, c) := c.inUse uses
    (completions ++ later, c)

theorem inUse_cons (c : Connection σ τ) (first : Use σ τ) (uses : List (Use σ τ)) :
    c.inUse (first :: uses) =
      ((c.use first).1 ++ ((c.use first).2.inUse uses).1, ((c.use first).2.inUse uses).2) := rfl

/-! ## Turns below -/

omit [Channel σ] in
/-- **Asking for something** is a turn of the multiplexer below. -/
def asking (c : Connection σ τ) (operation : DriveOperation) (tag : τ) : Turn σ (Callback τ) :=
  .submit operation.request.envelope (c.prepare operation.request.command) operation.request.value
    (if operation.reply = .silence then none else some { reply := operation.reply, tag })

omit [Channel σ] in
/-- The **turn of the multiplexer below** that a use is, if it is one. -/
def turn? (c : Connection σ τ) : Use σ τ → Option (Turn σ (Callback τ))
  | .ask operation tag => some (c.asking operation tag)
  | .run => some .run
  | .remove key => some (.remove key)
  | .elapse channel => some (.elapse channel)
  | _ => none

/-- The **turns of the multiplexer below** that some uses are. -/
def turns (c : Connection σ τ) : List (Use σ τ) → List (Turn σ (Callback τ))
  | [] => []
  | first :: uses => (c.turn? first).toList ++ (c.use first).2.turns uses

theorem turns_append (c : Connection σ τ) (uses later : List (Use σ τ)) :
    c.turns (uses ++ later) = c.turns uses ++ (c.inUse uses).2.turns later := by
  induction uses generalizing c with
  | nil => rfl
  | cons first uses ih => rw [List.cons_append, turns, turns, ih, inUse_cons, List.append_assoc]

/-- A use does to the multiplexer below **what its turn does**, and calls whom that completes. -/
theorem use_eq (c : Connection σ τ) (first : Use σ τ) :
    (c.use first).2.service = (c.service.live (c.turn? first).toList).service ∧
      (c.use first).1 = Event.completions (c.service.live (c.turn? first).toList).events := by
  cases first with
  | ask operation tag =>
    rw [turn?, Option.toList_some, Multiplexer.live_singleton, asking,
      Blocking.completions_turn_submit]
    exact ⟨rfl, rfl⟩
  | run =>
    rw [turn?, Option.toList_some, Multiplexer.live_singleton]
    exact ⟨rfl, rfl⟩
  | remove key =>
    obtain ⟨service_eq, none⟩ := c.service.turn_remove key
    rw [turn?, Option.toList_some, Multiplexer.live_singleton, service_eq, none]
    exact ⟨rfl, rfl⟩
  | elapse channel =>
    rw [turn?, Option.toList_some, Multiplexer.live_singleton]
    exact ⟨rfl, rfl⟩
  | _ => exact ⟨rfl, rfl⟩

/-- **A connection in use** is a multiplexer that takes its turns: what becomes of that becomes of
the connection, and whom it completes is called. -/
theorem inUse_eq (c : Connection σ τ) (uses : List (Use σ τ)) :
    (c.inUse uses).2.service = (c.service.live (c.turns uses)).service ∧
      (c.inUse uses).1 = Event.completions (c.service.live (c.turns uses)).events := by
  induction uses generalizing c with
  | nil => exact ⟨rfl, rfl⟩
  | cons first uses ih =>
    obtain ⟨service_eq, completions_eq⟩ := c.use_eq first
    obtain ⟨later_eq, later_completions⟩ := ih (c.use first).2
    rw [inUse_cons, turns, Multiplexer.live_append, Event.completions_append, ← service_eq]
    exact ⟨later_eq, congr (congrArg _ completions_eq) later_completions⟩

/-- **Whose callbacks are called** in some uses of a connection, up to its end. -/
def called (c : Connection σ τ) (uses : List (Use σ τ)) : List (Completion (Callback τ)) :=
  (c.inUse uses).1 ++ (c.inUse uses).2.shutDown

theorem called_eq (c : Connection σ τ) (uses : List (Use σ τ)) :
    c.called uses = Event.completions (c.service.live (c.turns uses)).ended := by
  obtain ⟨service_eq, completions_eq⟩ := c.inUse_eq uses
  rw [called, shutDown, completions_eq, service_eq, Lived.ended, Event.completions_append,
    Event.completions_map_completed]

/-- **Every turn below is some use**, and what is below it has taken the turns of the uses before
it. -/
theorem exists_use {c : Connection σ τ} {uses : List (Use σ τ)}
    {before after : List (Turn σ (Callback τ))} {turn : Turn σ (Callback τ)}
    (turns_eq : c.turns uses = before ++ turn :: after) :
    ∃ sooner use later, uses = sooner ++ use :: later ∧ c.turns sooner = before ∧
      (c.inUse sooner).2.turn? use = some turn := by
  induction uses generalizing c before with
  | nil => exact absurd turns_eq (by simp [turns])
  | cons first uses ih =>
    rw [turns] at turns_eq
    cases own : c.turn? first with
    | none =>
      -- a change of settings is no turn
      rw [own] at turns_eq
      obtain ⟨sooner, use, later, rfl, same, turn_eq⟩ := ih turns_eq
      exact ⟨first :: sooner, use, later, rfl, by rw [turns, own]; exact same, turn_eq⟩
    | some turn' =>
      rw [own] at turns_eq
      cases before with
      | nil =>
        obtain ⟨rfl, -⟩ := List.cons_eq_cons.mp turns_eq
        exact ⟨[], first, uses, rfl, rfl, own⟩
      | cons turn'' before =>
        obtain ⟨rfl, rest_eq⟩ := List.cons_eq_cons.mp turns_eq
        obtain ⟨sooner, use, later, rfl, same, turn_eq⟩ := ih rest_eq
        exact ⟨first :: sooner, use, later, rfl, by rw [turns, own, same]; rfl, turn_eq⟩

/-- Whatever is queued in a turn below **has been asked for**. -/
theorem eq_ask_of_queued {c : Connection σ τ} {use : Use σ τ} {turn : Turn σ (Callback τ)}
    (own : c.turn? use = some turn) {m : Multiplexer σ (Callback τ)}
    {request : QueuedRequest (Callback τ)} (queued : .queued request ∈ (m.turn turn).events) :
    ∃ operation tag, use = .ask operation tag ∧ turn = c.asking operation tag := by
  obtain ⟨envelope, command, value, handler, turn_eq, -⟩ := Multiplexer.prepare_of_queued queued
  cases use with
  | ask operation tag => exact ⟨operation, tag, rfl, (Option.some.inj own).symm⟩
  | _ => cases own.trans (congrArg some turn_eq)

/-- **Every request that is queued below** has been asked for, and its handler is the callback of
whoever asked. -/
theorem exists_ask_of_queued {c : Connection σ τ} {uses : List (Use σ τ)}
    {request : QueuedRequest (Callback τ)}
    (queued : .queued request ∈ (c.service.live (c.turns uses)).events) :
    ∃ sooner operation tag later, uses = sooner ++ .ask operation tag :: later ∧
      .queued request ∈
        ((c.inUse sooner).2.service.turn ((c.inUse sooner).2.asking operation tag)).events ∧
      request.handler =
        if operation.reply = .silence then none else some ⟨operation.reply, tag⟩ := by
  obtain ⟨before, turn, after, turns_eq, now⟩ := Multiplexer.exists_turn queued
  obtain ⟨sooner, use, later, rfl, rfl, own⟩ := exists_use turns_eq
  rw [← (c.inUse_eq sooner).1] at now
  obtain ⟨operation, tag, rfl, rfl⟩ := eq_ask_of_queued own now
  obtain ⟨envelope, command, value, handler, asking_eq, -, prepared⟩ :=
    Multiplexer.prepare_of_queued now
  obtain ⟨-, frame, -, rfl⟩ := Outbox.exists_frame_of_prepare prepared
  cases asking_eq
  exact ⟨sooner, operation, tag, later, rfl, now, rfl⟩

/-- **Every callback that is called with a response** is that of somebody who has asked, and the
response is the answer to what was asked. -/
theorem exists_ask_of_answered {c : Connection σ τ} (fresh : c.service.Fresh)
    {uses : List (Use σ τ)} {completion : Completion (Callback τ)}
    (mem : completion ∈ c.called uses) {response : Command}
    (answered : completion.outcome.response? = some response) :
    ∃ sooner operation later request frame envelope,
      uses = sooner ++ .ask operation completion.handler.tag :: later ∧
      completion.handler.reply = operation.reply ∧
      .queued request ∈ ((c.inUse sooner).2.service.turn
        ((c.inUse sooner).2.asking operation completion.handler.tag)).events ∧
      AnsweredBy completion response request frame envelope := by
  rw [called_eq] at mem
  obtain ⟨before, after, ended_eq⟩ := List.append_of_mem (Event.mem_completions.mp mem)
  obtain ⟨rest, lived_eq⟩ := Lived.exists_of_ended ended_eq answered
  obtain ⟨request, frame, envelope, earlier, between, last, before_eq, answeredBy⟩ :=
    (path_live c.service (c.turns uses)).answered_by fresh lived_eq answered
  have queued : .queued request ∈ (c.service.live (c.turns uses)).events := by
    rw [lived_eq, before_eq]
    exact List.mem_append_left _ (List.mem_append_right _ (List.mem_cons_self ..))
  obtain ⟨sooner, operation, tag, later, uses_eq, now, handler_eq⟩ := exists_ask_of_queued queued
  -- the callback is the handler of the request
  rw [answeredBy.handler] at handler_eq
  split at handler_eq
  · cases handler_eq
  · have same := Option.some.inj handler_eq
    have tag_eq : completion.handler.tag = tag := congrArg Callback.tag same
    rw [tag_eq]
    exact ⟨sooner, operation, later, request, frame, envelope, uses_eq,
      congrArg Callback.reply same, now, answeredBy⟩

end Connection

end DriveLink
