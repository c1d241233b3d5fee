import DriveLink.Proofs.Pipeline.Authentic
import DriveLink.Proofs.Pipeline.Fault
import DriveLink.Proofs.Session.CrossTalk
import DriveLink.Proofs.Session.Usage

/-! # Where errors come from

A request fails because the drive says so, or because the client has noticed something by itself.
Which of the two it was can be told by the code alone: the drive's codes are those of failures that
come with a response, and the response has come in and means just that failure.

* `StatusCode.isRemote_ofDrive`, `Status.isRemote_ofResponse` — what the drive's codes are;
* `Provenance` — what is known of a failure by its status;
* `Path.provenance`, `Lived.provenance` — every failure in a life has it;
* `Reply.clientFault_of_decode` — what a caller learns from a success that lacks something;
* `errors_have_provenance` — all of it, for handlers, callbacks and greetings. -/

namespace DriveLink

variable {σ η τ : Type}

/-! ## What responses mean -/

/-- Every code of the drive but success **is the drive's** to the caller. -/
theorem StatusCode.isRemote_ofDrive (code : DriveCode) :
    (ofDrive code).isRemote = true ↔ code ≠ .success := by
  cases code <;> decide

/-- What the drive reports is no success. -/
theorem StatusCode.ne_ok_of_isRemote {code : StatusCode} (h : code.isRemote = true) :
    code ≠ .ok := by
  rintro rfl
  cases h

namespace Status

variable {response : Command}

/-- What a response **with a status block** means: what the block does, with the cluster version of
its header where the drive complains about that. -/
theorem ofResponse_of_block {block : StatusBlock} (some : response.status = some block) :
    ofResponse response =
      { ofBlock block with
        expectedClusterVersion :=
          if (ofBlock block).code = .remote .clusterVersionMismatch then
            response.header.clusterVersion
          else none } := by
  rw [ofResponse, some]
  simp only
  split
  · rename_i expected mismatch header
    rw [if_pos mismatch, header, mismatch]
    rfl
  · rename_i other
    split
    · rename_i mismatch
      cases header : response.header.clusterVersion with
      | none => rfl
      | some expected => exact absurd header (other expected mismatch)
    · rfl

/-- A response that is no success means **something that the drive reports**. -/
theorem isRemote_ofResponse (refused : response.isSuccess = false) :
    (ofResponse response).code.isRemote = true := by
  cases status : response.status with
  | none =>
    rw [ofResponse, status]
    rfl
  | some block =>
    rw [Command.isSuccess, status] at refused
    rw [ofResponse_of_block status]
    exact (StatusCode.isRemote_ofDrive _).mpr (of_decide_eq_false refused)

/-- The **expected cluster version** is that in the header, where the drive complains about it. -/
theorem expectedClusterVersion_ofResponse (response : Command) :
    (ofResponse response).expectedClusterVersion =
      if (ofResponse response).code = .remote .clusterVersionMismatch then
        response.header.clusterVersion
      else none := by
  cases status : response.status with
  | none =>
    rw [ofResponse, status]
    rfl
  | some block => rw [ofResponse_of_block status]

end Status

/-! ## What is known of a failure -/

/-- **Where a failure comes from**, by its status and the response that comes with it, if this has
happened before it. -/
structure Provenance (signer : Signer) (hmacKey : Bytes) (past : List (Event η)) (status : Status)
    (response : Option Command) : Prop where
  /-- No failure is a success. -/
  not_ok : status.code ≠ .ok
  /-- The codes of the drive are those of failures that come with a response. -/
  isSome_iff : response.isSome = true ↔ status.code.isRemote = true
  /-- The response has come in directly before, in a frame that can be trusted. -/
  received : ∀ command, response = some command → ∃ earlier frame envelope,
    past = earlier ++ [.received (.frame frame)] ∧ frame.Opens signer hmacKey envelope ∧
      envelope.inner = .ok command
  /-- It has no status block, or one that is not for success. -/
  refused : ∀ command, response = some command →
    ∀ block, command.status = some block → block.code ≠ .success
  /-- The failure is what the response means. -/
  meant : ∀ command, response = some command → status = .ofResponse command
  /-- A cluster version is expected just if the drive complains about it and its response has
  one. -/
  expected_iff : ∀ version, status.expectedClusterVersion = some version ↔
    status.code = .remote .clusterVersionMismatch ∧
      ∃ command, response = some command ∧ command.header.clusterVersion = some version
  /-- Without a response, the client has noticed something by itself. -/
  own : response = none → ∃ fault text, status = .client fault text

namespace Provenance

variable {signer : Signer} {hmacKey : Bytes}

/-- **The drive** has answered, and not with success. -/
theorem of_refused {earlier : List (Event η)} {frame : Frame} {envelope : Envelope}
    {command : Command} (opens : frame.Opens signer hmacKey envelope)
    (inner : envelope.inner = .ok command) (refused : command.isSuccess = false) :
    Provenance signer hmacKey (earlier ++ [.received (.frame frame)]) (.ofResponse command)
      (some command) where
  not_ok := StatusCode.ne_ok_of_isRemote (Status.isRemote_ofResponse refused)
  isSome_iff := ⟨fun _ => Status.isRemote_ofResponse refused, fun _ => rfl⟩
  received _ same := by
    cases same
    exact ⟨earlier, frame, envelope, rfl, opens, inner⟩
  refused _ same block some success := by
    cases same
    rw [Command.isSuccess, some] at refused
    exact of_decide_eq_false refused success
  meant _ same := by
    cases same
    rfl
  expected_iff version := by
    rw [Status.expectedClusterVersion_ofResponse]
    split <;> simp [*]
  own none := by cases none

/-- **The client** has noticed something by itself. -/
theorem of_client (past : List (Event η)) (fault : ClientFault) (text : String) :
    Provenance signer hmacKey past (.client fault text) none where
  not_ok same := by cases same
  isSome_iff := ⟨fun some => (by cases some), fun remote => (by cases remote)⟩
  received _ same := by cases same
  refused _ same := by cases same
  meant _ same := by cases same
  expected_iff _ := ⟨fun some => (by cases some), fun mismatch => (by cases mismatch.1)⟩
  own _ := ⟨fault, text, rfl⟩

end Provenance

/-! ## Failures in a life -/

section

variable [Channel σ]

/-- **Every failure on a path** has its provenance. -/
theorem Path.provenance {m m' : Multiplexer σ η} {events before after : List (Event η)}
    {completion : Completion η} {status : Status} {response : Option Command}
    (h : Path m events m') (events_eq : events = before ++ .completed completion :: after)
    (failed : completion.outcome = .failed status response) :
    Provenance m.inbox.correlator.signer m.inbox.correlator.hmacKey before status response := by
  have mem : .completed completion ∈ events := by
    rw [events_eq]
    exact List.mem_append_right _ (List.mem_cons_self ..)
  cases response with
  | none =>
    have unanswered : completion.outcome.response? = none := by
      rw [failed]
      rfl
    obtain ⟨fault, text, outcome_eq⟩ := h.ownFault_of_unanswered mem unanswered
    rw [failed] at outcome_eq
    cases outcome_eq
    exact .of_client before fault text
  | some command =>
    have answered : completion.outcome.response? = some command := by
      rw [failed]
      rfl
    obtain ⟨past, m₁, frame, envelope, so_far, rfl, opened, completion_eq⟩ :=
      h.opened_by events_eq answered
    obtain ⟨decoded, inner, signed⟩ := Correlator.decode_of_openResponse opened
    have same := so_far.sameKey
    rw [same.signer, same.hmacKey] at signed
    rw [completion_eq, Completion.eq_answer] at failed
    -- with success the handler would not have been called with a status
    cases success : command.isSuccess with
    | true =>
      rw [success] at failed
      cases failed
    | false =>
      rw [success] at failed
      cases failed
      exact .of_refused ⟨decoded, signed⟩ inner success

/-- **Every failure up to the end of a life** has its provenance. -/
theorem Lived.provenance {m : Multiplexer σ η} {turns : List (Turn σ η)}
    {before after : List (Event η)} {completion : Completion η} {status : Status}
    {response : Option Command}
    (called : (m.live turns).ended = before ++ .completed completion :: after)
    (failed : completion.outcome = .failed status response) :
    Provenance m.inbox.correlator.signer m.inbox.correlator.hmacKey before status response := by
  have path := path_live m turns
  cases response with
  | some command =>
    have answered : completion.outcome.response? = some command := by
      rw [failed]
      rfl
    obtain ⟨rest, lived_eq⟩ := Lived.exists_of_ended called answered
    exact path.provenance lived_eq failed
  | none =>
    have mem : .completed completion ∈ (m.live turns).ended := by
      rw [called]
      exact List.mem_append_right _ (List.mem_cons_self ..)
    rcases List.mem_append.mp mem with lived | left
    · obtain ⟨sooner, later, lived_eq⟩ := List.append_of_mem lived
      obtain ⟨fault, text, rfl⟩ := (path.provenance lived_eq failed).own rfl
      exact .of_client before fault text
    -- at the end the client fails who is left
    · obtain ⟨_, inside, same⟩ := List.mem_map.mp left
      cases same
      rw [Multiplexer.shutDown_eq] at inside
      rw [Ticket.outcome_of_fail inside] at failed
      cases failed
      exact .of_client before _ _

end

/-! ## What a caller learns -/

/-- A success that **lacks what its request implies** is an error of the client. -/
theorem Reply.clientFault_of_decode {reply : Reply} {response : Command} {value : Bytes}
    {status : Status} (h : reply.decode response value = .error status) :
    ∃ what, status = .client .internalError ("response carried no " ++ what) := by
  have lacks {α : Type} {what : String} (h : (missing what : Except Status α) = .error status) :
      ∃ what, status = .client .internalError ("response carried no " ++ what) := by
    cases h
    exact ⟨what, rfl⟩
  cases reply with
  | acknowledgement => cases h
  | silence => cases h
  | record =>
    rw [decode, decodeRecord] at h
    split at h
    · exact lacks h
    · split at h
      · exact lacks h
      · cases h
  | version =>
    rw [decode, decodeVersion] at h
    split at h
    · exact lacks h
    · cases h
  | keys =>
    rw [decode, decodeKeys] at h
    split at h
    · exact lacks h
    · cases h
  | log =>
    rw [decode, decodeLog] at h
    split at h
    · exact lacks h
    · cases h
  | pushStatuses =>
    rw [decode, decodePushStatuses] at h
    split at h
    · exact lacks h
    · cases h

/-- Whoever learns an error learns **the status of a failure**, or that a success lacks
something. -/
theorem Outcome.error_of_read {outcome : Outcome} {reply : Reply} {status : Status}
    (h : outcome.read reply = .error status) :
    (∃ response, outcome = .failed status response) ∨
      ∃ response value what, outcome = .answered response value ∧
        status = .client .internalError ("response carried no " ++ what) := by
  cases outcome with
  | answered response value =>
    obtain ⟨what, status_eq⟩ := Reply.clientFault_of_decode h
    exact .inr ⟨response, value, what, rfl, status_eq⟩
  | failed status' response =>
    cases h
    exact .inl ⟨response, rfl⟩

/-! ## Greetings that fail -/

section

variable [Channel σ]

/-- **Every failure in a call to receive** has its provenance. -/
theorem Inbox.provenance_receive {inbox : Inbox η} {s : σ} {before after : List (Event η)}
    {completion : Completion η} {status : Status} {response : Option Command}
    (called : (inbox.receive s).events = before ++ .completed completion :: after)
    (failed : completion.outcome = .failed status response) :
    Provenance inbox.correlator.signer inbox.correlator.hmacKey before status response := by
  -- the inbox of any connection will do
  let m : Multiplexer σ η :=
    { outbox := { signer := inbox.correlator.signer, identity := 0, hmacKey := [] }
      inbox
      channel := s
      greeting := {} }
  exact (path_receive m).provenance called failed

/-- Whoever waits for the greeting and is told that there is none **is told by a completion**. -/
theorem exists_failed_of_greetingResult {received : List (Completion Unit)} {status : Status}
    (h : greetingResult received = some (.error status)) :
    ∃ completion ∈ received, ∃ response, completion.outcome = .failed status response := by
  unfold greetingResult at h
  split at h
  · cases h
  · rename_i completion rest
    split at h
    · cases h
    · rename_i status' response outcome_eq
      cases h
      exact ⟨completion, List.mem_cons_self .., response, outcome_eq⟩

variable [Pollable σ]

open Correlator (SameKey)

/-- If the wait for a greeting fails for what the drive says, or does not say, its status **has its
provenance**. -/
theorem provenance_of_awaitGreeting {signer : Signer} {hmacKey : Bytes} {timeout : Duration}
    {deadline patience : Nat} {inbox : Inbox Unit} {waiter : Waiter} {s : σ}
    {result : GreetingStep σ} {status : Status}
    (signer_eq : inbox.correlator.signer = signer) (key_eq : inbox.correlator.hmacKey = hmacKey)
    (awaits : awaitGreeting timeout deadline patience inbox waiter s = some result)
    (refused : result.result = .error (.handshake status)) :
    ∃ (past : List (Event Unit)) (response : Option Command),
      Provenance signer hmacKey past status response := by
  induction patience generalizing inbox waiter s with
  | zero => cases awaits
  -- each round of waiting receives once, and may be the last
  | succ patience ih =>
    unfold awaitGreeting at awaits
    simp only at awaits
    split at awaits
    · cases awaits
      cases refused
    · rename_i answered
      cases awaits
      cases refused
      obtain ⟨completion, mem, response, failed⟩ := exists_failed_of_greetingResult answered
      obtain ⟨before, after, called⟩ := List.append_of_mem (Event.mem_completions.mp mem)
      rw [← signer_eq, ← key_eq]
      exact ⟨before, response, Inbox.provenance_receive called failed⟩
    · split at awaits
      · cases awaits
        cases refused
        exact ⟨[], none, .of_client _ _ _⟩
      · split at awaits
        · cases awaits
          cases refused
          exact ⟨[], none, .of_client _ _ _⟩
        · split at awaits
          · have same := sameKey_receive inbox s
            exact ih (same.signer.trans signer_eq) (same.hmacKey.trans key_eq) awaits
          · cases awaits
            cases refused

/-- If a connection cannot be started for what the drive says, or does not say, the status **has its
provenance**. -/
theorem provenance_of_start {patience : Nat} {signer : Signer} {options : Options} {s : σ}
    {status : Status} (refused : (Multiplexer.start patience signer options s :
      Option (Except Failure (Multiplexer σ η))) = some (.error (.handshake status))) :
    ∃ (past : List (Event Unit)) (response : Option Command),
      Provenance signer options.hmacKey past status response := by
  unfold Multiplexer.start at refused
  split at refused
  · cases refused
  · rename_i failure s' greets
    cases refused
    unfold greet at greets
    simp only at greets
    split at greets
    · cases greets
    · rename_i step awaits
      split at greets
      · rename_i failure' result
        cases greets
        exact provenance_of_awaitGreeting rfl rfl awaits result
      · cases greets
  · cases refused

/-! ## All errors -/

/-- **Every error has its provenance.** In the life of a connection that was started, up to its end,
whatever its owner does and whatever comes from its channel, a handler that is called with a failure
is called with a status that says where the failure comes from: a code of the drive just if there is
a response, and then the response came in directly before, is no success, and means just that
status; otherwise a code of the client. A callback that learns an error learns such a status, or
that a success lacks what its request implies. If there is no connection because of what the drive
says, or does not say, the status of the greeting's handler is of the same kind. No error is ever
success. -/
theorem errors_have_provenance (patience : Nat) (signer : Signer) (options : Options) (s : σ) :
    (∀ m : Multiplexer σ η, Multiplexer.start patience signer options s = some (.ok m) →
      ∀ turns before completion after status response,
        (m.live turns).ended = before ++ .completed completion :: after →
        completion.outcome = .failed status response →
        Provenance signer options.hmacKey before status response) ∧
    (∀ c : Connection σ τ, Connection.start patience signer options s = some (.ok c) →
      ∀ uses completion status,
        completion ∈ c.called uses →
        Callback.result completion = .error status →
        status.code ≠ .ok ∧
        ((∃ before after response,
            (c.service.live (c.turns uses)).ended = before ++ .completed completion :: after ∧
            completion.outcome = .failed status response ∧
            Provenance signer options.hmacKey before status response) ∨
          ∃ response value what, completion.outcome = .answered response value ∧
            status = .client .internalError ("response carried no " ++ what))) ∧
    (∀ status, (Multiplexer.start patience signer options s :
        Option (Except Failure (Multiplexer σ η))) = some (.error (.handshake status)) →
      ∃ (past : List (Event Unit)) (response : Option Command),
        Provenance signer options.hmacKey past status response) := by
  have handlers {η : Type} {m : Multiplexer σ η}
      (started : Multiplexer.start patience signer options s = some (.ok m))
      {turns : List (Turn σ η)} {before after : List (Event η)} {completion : Completion η}
      {status : Status} {response : Option Command}
      (called : (m.live turns).ended = before ++ .completed completion :: after)
      (failed : completion.outcome = .failed status response) :
      Provenance signer options.hmacKey before status response := by
    obtain ⟨signer_eq, key_eq⟩ := correlator_of_start started
    rw [← signer_eq, ← key_eq]
    exact Lived.provenance called failed
  refine ⟨fun m started _ _ _ _ _ _ called failed => handlers started called failed, ?_,
    fun status refused => provenance_of_start refused⟩
  intro c started uses completion status mem learns
  have started := Connection.service_of_start started
  rcases Outcome.error_of_read learns with ⟨response, failed⟩ |
    ⟨response, value, what, answered, rfl⟩
  · rw [Connection.called_eq] at mem
    obtain ⟨before, after, called⟩ := List.append_of_mem (Event.mem_completions.mp mem)
    have provenance := handlers started called failed
    exact ⟨provenance.not_ok, .inl ⟨before, after, response, called, failed, provenance⟩⟩
  · refine ⟨fun same => ?_, .inr ⟨response, value, what, answered, rfl⟩⟩
    cases same

end

/-! ## Three requests, three errors -/

section Choosy

open Simulation (Drive)

/-- A drive in a cluster of version 7 that turns the first request down for that, answers the second
one with success and nothing else, and never answers the third. -/
def choosyDrive : Drive where
  key := [1]
  queue := [.bytes hello]
  replies := [[.frame
      { auth := .pin
        command := .response { clusterVersion := some 7 } .echo (.given .empty)
          (some { code := .versionFailure, message := some "moved" }) }],
    [.frame
      { auth := .pin
        command := .response {} .echo (.given .empty) (some { code := .success }) }]]

/-- Three requests are sent, and the second one is for a record. -/
def choosyUses : List (Use Drive Nat) :=
  [.ask .noOp 10, .ask (.get [5]) 20, .ask .noOp 30, .run]

/-- What some callbacks learn, **if it is an error**, with their tags. -/
def errorsOf (completions : List (Completion (Callback Nat))) : List (Nat × Option Status) :=
  completions.map fun completion => (completion.handler.tag, errorIn (Callback.result completion))

theorem eq_error_of_errorIn {ρ : Type} {result : Except Status ρ} {status : Status}
    (h : errorIn result = some status) : result = .error status := by
  cases result <;> cases h
  rfl

/-- The first callback learns **what the drive reports**, with the version that it expects, the
second that the success lacks a record, and the third that the connection is over. -/
theorem errors_have_provenance_choosy :
    ∃ (c : Connection Drive Nat) (refused lacking left : Completion (Callback Nat))
      (response : Command),
      Connection.start 2 (.constant [7]) { hmacKey := [1] } choosyDrive = some (.ok c) ∧
      c.called choosyUses = [refused, lacking, left] ∧
      errorsOf [refused, lacking, left] =
        [(10, some (.clusterVersionMismatch "moved" 7)),
          (20, some (.client .internalError "response carried no key/value body")),
          (30, some (.client .shutdown "connection shut down"))] ∧
      refused.outcome = .failed (.clusterVersionMismatch "moved" 7) (some response) ∧
      response.header.clusterVersion = some 7 ∧
      left.outcome = .failed (.client .shutdown "connection shut down") none := by
  have check : ((Connection.start 2 (.constant [7]) { hmacKey := [1] } choosyDrive :
      Option (Except Failure (Connection Drive Nat))).any fun started =>
      started.toOption.any fun c =>
        decide (errorsOf (c.called choosyUses) =
          [(10, some (.clusterVersionMismatch "moved" 7)),
            (20, some (.client .internalError "response carried no key/value body")),
            (30, some (.client .shutdown "connection shut down"))])) = true := by
    decide +kernel
  obtain ⟨c, started, check⟩ := exists_started check
  have errors := of_decide_eq_true check
  obtain ⟨refused, _, all_eq, first, others⟩ := List.map_eq_cons_iff.mp errors
  obtain ⟨lacking, _, rfl, -, others⟩ := List.map_eq_cons_iff.mp others
  obtain ⟨left, _, rfl, third, others⟩ := List.map_eq_cons_iff.mp others
  obtain rfl := List.map_eq_nil_iff.mp others
  rw [all_eq] at errors
  have learns := (errors_have_provenance (η := Nat) 2 (.constant [7]) { hmacKey := [1] }
    choosyDrive).2.1 c started choosyUses
  rw [all_eq] at learns
  have refusal := learns refused _ (by simp) (eq_error_of_errorIn (congrArg Prod.snd first))
  have ending := learns left _ (by simp) (eq_error_of_errorIn (congrArg Prod.snd third))
  obtain ⟨-, ⟨_, _, response, -, failed, provenance⟩ | ⟨_, _, _, -, client⟩⟩ := refusal
  · have some := provenance.isSome_iff.mpr rfl
    obtain ⟨command, rfl⟩ := Option.isSome_iff_exists.mp some
    obtain ⟨-, _, same, version⟩ := (provenance.expected_iff 7).mp rfl
    cases same
    obtain ⟨-, ⟨_, _, response, -, lost, provenance⟩ | ⟨_, _, _, -, client⟩⟩ := ending
    · have none : response = none := by
        cases response with
        | none => rfl
        | some command => cases provenance.isSome_iff.mp rfl
      rw [none] at lost
      exact ⟨c, refused, lacking, left, command, started, all_eq, errors, failed, version, lost⟩
    · cases client
  · cases client

end Choosy

end DriveLink
