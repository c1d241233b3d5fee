import DriveLink.Proofs.Pipeline.Correlation
import DriveLink.Proofs.Pipeline.Key

/-! # Which frames complete a request with success

How a frame is authenticated, it says itself. One that calls itself signed is held to its digest
before anything else is looked at, and one that calls itself unsolicited answers no request. But a
frame that claims the bare PIN has no digest to be held to, and nothing compares its claim with the
way in which the request that it answers was authenticated.

* `Path.opened_by` — a call with a response stands behind a frame that could be opened;
* `Genuine` — what is known of the envelope of such a frame;
* `success_is_genuine` — every call with success rests on a frame whose envelope is genuine;
* `success_without_digest` — a request that was signed may be completed by a frame that is not. -/

namespace DriveLink

variable {σ η : Type}

/-- What is known of an **envelope that could be opened** under a key: if it calls itself signed, it
carries the digest of its command. -/
def Genuine (signer : Signer) (key : Bytes) (envelope : Envelope) : Prop :=
  envelope.auth = .hmac → signer.verifies key envelope = true

/-- A genuine envelope that answers a request is **verified, or claims the PIN**. -/
theorem Genuine.verified_or_pin {signer : Signer} {key : Bytes} {envelope : Envelope}
    (h : Genuine signer key envelope) (asked : envelope.auth ≠ .unsolicited) :
    envelope.auth = .hmac ∧ signer.verifies key envelope = true ∨ envelope.auth = .pin := by
  cases claim : envelope.auth with
  | hmac => exact .inl ⟨rfl, h claim⟩
  | pin => exact .inr rfl
  | unsolicited => exact absurd claim asked

/-- A response with which a handler is called **for success** says success. -/
theorem Completion.isSuccess_of_answered {key : RequestKey} {handler : η} {response : Command}
    {value : Bytes} {completion : Completion η}
    (h : completion = answer key handler response value) {response' : Command} {value' : Bytes}
    (answered : completion.outcome = .answered response' value') :
    response' = response ∧ value' = value ∧ response.isSuccess = true := by
  rw [h, eq_answer] at answered
  by_cases success : response.isSuccess = true
  · simp only [success, if_true, Outcome.answered.injEq] at answered
    exact ⟨answered.1.symm, answered.2.symm, success⟩
  · simp only [success] at answered
    cases answered

variable [Channel σ]

/-- **Behind a call with a response** stands, directly, a frame that the connection could open at
that moment, and with what is in it the handler is called. -/
theorem Path.opened_by {m m' : Multiplexer σ η} {events before after : List (Event η)}
    {completion : Completion η} {response : Command} (h : Path m events m')
    (events_eq : events = before ++ .completed completion :: after)
    (answered : completion.outcome.response? = some response) :
    ∃ past m₁ frame envelope, Path m past m₁ ∧ before = past ++ [.received (.frame frame)] ∧
      m₁.inbox.correlator.openResponse frame.command = .ok (envelope, response) ∧
      completion = .answer completion.key completion.handler response frame.value := by
  obtain ⟨past, m₁, sooner, rest, m₂, _, so_far, move, -, rfl, -⟩ := h.exists_move events_eq
  rcases move.answers with silent | ⟨frame, envelope, response', entry, step, opened, -, -⟩
  · -- a step that calls nobody with a response is not the step of this call
    have none := silent completion (List.mem_append_right _ (List.mem_cons_self ..))
    rw [none] at answered
    cases answered
  · obtain ⟨rfl, rfl⟩ : sooner = [.received (.frame frame)] ∧
        completion = .answer entry.key entry.handler response' frame.value := by
      rcases sooner with _ | ⟨first, _ | ⟨second, sooner⟩⟩ <;> simp at step
      exact ⟨by rw [step.1], step.2.1⟩
    rw [Completion.response?_answer] at answered
    cases answered
    refine ⟨past, m₁, frame, envelope, so_far, rfl, opened, ?_⟩
    simp only [Completion.eq_answer]

/-- **Every call with success rests on a frame whose envelope is genuine.** In the life of a
connection that was started, up to its end, a handler is called with success only directly behind
the frame that holds the response and acknowledges the handler's own request. If the envelope of
that frame calls itself signed, it carries the digest of its command under the key of the
connection. As long as there are fewer submissions than sequences, an envelope that does not call
itself signed claims the PIN: what is unsolicited completes nothing. -/
theorem success_is_genuine [Pollable σ] {patience : Nat} {signer : Signer} {options : Options}
    {s : σ} {m : Multiplexer σ η}
    (started : Multiplexer.start patience signer options s = some (.ok m))
    (turns : List (Turn σ η)) {before after : List (Event η)} {completion : Completion η}
    {response : Command} {value : Bytes}
    (called : (m.live turns).ended = before ++ .completed completion :: after)
    (success : completion.outcome = .answered response value) :
    ∃ past request frame envelope,
      before = past ++ [.received (.frame frame)] ∧ .queued request ∈ past ∧
      AnsweredBy completion response request frame envelope ∧
      response.isSuccess = true ∧ value = frame.value ∧
      Genuine signer options.hmacKey envelope ∧
      ((Turn.submitted turns).length < 2 ^ 63 →
        response.header.ackSequence = some request.sequence ∧
        (envelope.auth = .hmac ∧ signer.verifies options.hmacKey envelope = true ∨
          envelope.auth = .pin)) := by
  have fresh := Multiplexer.fresh_of_start started
  have path := path_live m turns
  have answered : completion.outcome.response? = some response := by
    rw [success]
    rfl
  obtain ⟨rest, lived_eq⟩ := Lived.exists_of_ended called answered
  obtain ⟨past, m₁, frame, envelope, so_far, before_eq, opened, completion_eq⟩ :=
    path.opened_by lived_eq answered
  obtain ⟨request, frame', envelope', earlier, between, later, split_eq, answered_by⟩ :=
    path.answered_by fresh lived_eq answered
  -- both speak of the frame that stands last before the call
  have split : past ++ [.received (.frame frame)] = (earlier ++ .queued request :: (between ++
      .tracked ⟨request.sequence, completion.key, completion.handler⟩ :: later)) ++
        [.received (.frame frame')] := by
    rw [← before_eq, split_eq]
    simp only [List.append_assoc, List.cons_append]
  obtain ⟨past_eq, last_eq⟩ := List.append_inj' split rfl
  obtain rfl : frame = frame' := by
    cases last_eq
    rfl
  have queued : .queued request ∈ past := by
    rw [past_eq]
    exact List.mem_append_right _ (List.mem_cons_self ..)
  obtain ⟨decoded, -, signed⟩ := Correlator.decode_of_openResponse opened
  obtain rfl : envelope = envelope' := by
    have same := decoded.symm.trans answered_by.decoded
    exact Except.ok.inj same
  -- the key with which it was opened is still the one of the start
  obtain ⟨signer_eq, key_eq⟩ := so_far.correlator_of_start started
  have genuine : Genuine signer options.hmacKey envelope := by
    intro hmac
    rw [← signer_eq, ← key_eq]
    exact signed hmac
  obtain ⟨-, value_eq, is_success⟩ := Completion.isSuccess_of_answered completion_eq success
  refine ⟨past, request, frame, envelope, before_eq, queued, answered_by, is_success, value_eq,
    genuine, fun few => ?_⟩
  have numbered := numbered_live fresh turns few
  have known : request.ticket ∈ Event.tickets (m.live turns).events := by
    refine List.mem_filterMap.mpr ⟨.queued request, ?_, rfl⟩
    rw [lived_eq, before_eq]
    exact List.mem_append_left _ (List.mem_append_left _ queued)
  obtain ⟨asked, acknowledges⟩ := numbered.asked known answered_by.sequence
  exact ⟨acknowledges, genuine.verified_or_pin asked⟩

/-! ## A drive that signs, and one that does not -/

/-- The response and the value that a handler is called with **for success**. -/
def Outcome.success? : Outcome → Option (Command × Bytes)
  | answered response value => some (response, value)
  | failed .. => none

theorem Outcome.eq_of_success? {outcome : Outcome} {response : Command} {value : Bytes}
    (h : outcome.success? = some (response, value)) : outcome = .answered response value := by
  cases outcome <;> cases h
  rfl

/-- The **call that comes last** in some events, and the envelope of the frame directly before
it. -/
def Event.lastCall? (events : List (Event η)) : Option (Envelope × Completion η) :=
  match events.reverse with
  | .completed completion :: .received (.frame frame) :: _ =>
    (Envelope.decode frame.command).toOption.map (·, completion)
  | _ => none

omit [Channel σ] in
theorem Event.exists_of_lastCall? {events : List (Event η)} {envelope : Envelope}
    {completion : Completion η} (h : lastCall? events = some (envelope, completion)) :
    ∃ past frame, events = past ++ [.received (.frame frame)] ++ .completed completion :: [] ∧
      Envelope.decode frame.command = .ok envelope := by
  unfold lastCall? at h
  split at h
  · rename_i last frame past reversed
    obtain ⟨envelope', decodes, same⟩ := Option.map_eq_some_iff.mp h
    cases same
    refine ⟨past.reverse, frame, ?_, eq_ok_of_toOption decodes⟩
    rw [← List.reverse_reverse events, reversed]
    simp only [List.reverse_cons]
  · cases h

section Signing

open Simulation (Drive)

/-- A drive that answers every request with success, in a **signed** envelope. -/
def signingDrive : Drive where
  key := [1]
  queue := [.bytes hello]
  reply := [.frame
    { digest := .given [7]
      command := .response {} .echo (.given .empty) (some { code := .success }) }]

/-- One request, which is signed. -/
def signedTurns : List (Turn Drive Nat) := [.submit .hmac {} [] (some 10), .run]

/-- The signed answer of a drive **carries the digest** of its command. -/
theorem success_is_genuine_signing :
    ∃ (m : Multiplexer Drive Nat) (past after : List (Event Nat)) (frame : Frame)
      (envelope : Envelope) (completion : Completion Nat) (response : Command) (value : Bytes),
      Multiplexer.start 2 (.constant [7]) { hmacKey := [1] } signingDrive = some (.ok m) ∧
      (m.live signedTurns).ended =
        past ++ [.received (.frame frame)] ++ .completed completion :: after ∧
      completion.outcome = .answered response value ∧
      Envelope.decode frame.command = .ok envelope ∧ envelope.auth = .hmac ∧
      (Signer.constant [7]).verifies [1] envelope = true := by
  have check : ((Multiplexer.start 2 (.constant [7]) { hmacKey := [1] } signingDrive :
      Option (Except Failure (Multiplexer Drive Nat))).any fun started =>
      started.toOption.any fun m =>
        (Event.lastCall? (m.live signedTurns).ended).any fun last =>
          last.2.outcome.success?.any fun _ => decide (last.1.auth = .hmac)) = true := by
    decide +kernel
  obtain ⟨m, started, check⟩ := exists_started check
  obtain ⟨⟨envelope, completion⟩, last, check⟩ := (Option.any_eq_true _ _).mp check
  obtain ⟨⟨response, value⟩, success, check⟩ := (Option.any_eq_true _ _).mp check
  have hmac := of_decide_eq_true check
  have success := Outcome.eq_of_success? success
  obtain ⟨past, frame, called, decoded⟩ := Event.exists_of_lastCall? last
  obtain ⟨past', request, frame', envelope', before_eq, -, answered_by, -, -, genuine, -⟩ :=
    success_is_genuine started signedTurns called success
  obtain ⟨-, last_eq⟩ := List.append_inj' before_eq rfl
  cases last_eq
  have same : envelope = envelope' := Except.ok.inj (decoded.symm.trans answered_by.decoded)
  subst same
  exact ⟨m, past, [], frame, envelope, completion, response, value, started, called, success,
    decoded, hmac, genuine hmac⟩

/-- The handler of a signed request is called for success with a frame that **claims the PIN and
carries no digest**. -/
theorem success_without_digest :
    ∃ (m : Multiplexer Drive Nat) (past after : List (Event Nat)) (frame : Frame)
      (envelope : Envelope) (completion : Completion Nat) (response : Command) (value : Bytes),
      Multiplexer.start 2 (.constant [7]) { hmacKey := [1] } politeDrive = some (.ok m) ∧
      (m.live signedTurns).ended =
        past ++ [.received (.frame frame)] ++ .completed completion :: after ∧
      completion.handler = 10 ∧ completion.outcome = .answered response value ∧
      Envelope.decode frame.command = .ok envelope ∧
      envelope.auth = .pin ∧ envelope.pin = none ∧ envelope.signed = none ∧
      (Signer.constant [7]).verifies [1] envelope = false := by
  have check : ((Multiplexer.start 2 (.constant [7]) { hmacKey := [1] } politeDrive :
      Option (Except Failure (Multiplexer Drive Nat))).any fun started =>
      started.toOption.any fun m =>
        (Event.lastCall? (m.live signedTurns).ended).any fun last =>
          last.2.outcome.success?.any fun _ =>
            decide (last.2.handler = 10 ∧ last.1.auth = .pin ∧ last.1.pin = none ∧
              last.1.signed = none)) = true := by
    decide +kernel
  obtain ⟨m, started, check⟩ := exists_started check
  obtain ⟨⟨envelope, completion⟩, last, check⟩ := (Option.any_eq_true _ _).mp check
  obtain ⟨⟨response, value⟩, success, check⟩ := (Option.any_eq_true _ _).mp check
  obtain ⟨handler_eq, pin, no_pin, unsigned⟩ := of_decide_eq_true check
  have success := Outcome.eq_of_success? success
  obtain ⟨past, frame, called, decoded⟩ := Event.exists_of_lastCall? last
  have unverified : (Signer.constant [7]).verifies [1] envelope = false := by
    rw [Signer.verifies, Envelope.digest?, unsigned]
    rfl
  exact ⟨m, past, [], frame, envelope, completion, response, value, started, called, handler_eq,
    success, decoded, pin, no_pin, unsigned, unverified⟩

end Signing

end DriveLink
