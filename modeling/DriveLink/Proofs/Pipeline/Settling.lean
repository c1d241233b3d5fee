import DriveLink.Pipeline.Greeting
import DriveLink.Proofs.Pipeline.Fault

/-! # What settles the greeting

While the greeting is out, nobody waits for anything else. So a frame that is a response to
something else is passed over, and the first one that is not settles what the drive has said: it is
the greeting, or there is none, for a reason that is known.

* `ReadOutcome.PassedOver`, `ReadOutcome.Settles` — what a frame is to whoever is to be greeted;
* `ReadOutcome.lastConnectionId` — the last number of the connection that some frames have;
* `Correlator.accept_of_passedOver`, `Correlator.accept_of_settles` — what the end of a frame does;
* `ReadOutcome.PassedOver.not_settles`, `ReadOutcome.Settles.unique` — a frame is one thing only. -/

namespace DriveLink

/-! ## What a frame is to whoever is to be greeted -/

namespace ReadOutcome

/-- A frame that is a **response to something else** than the greeting. Of one that is too large,
this has to be told by the header in it. -/
inductive PassedOver (signer : Signer) (hmacKey : Bytes) : ReadOutcome → Prop
  | response {frame : Frame} {sequence : Int64} {response : Command}
      (answers : frame.Answers signer hmacKey sequence response)
      (other : sequence ≠ greetingSequence) : PassedOver signer hmacKey (.frame frame)
  | tooLarge {bytes : Bytes} {commandLength valueLength : UInt32} {envelope : Envelope}
      {response : Command} {sequence : Int64}
      (opens : Frame.Opens signer hmacKey ⟨bytes, []⟩ envelope)
      (inner : envelope.inner = .ok response)
      (acknowledges : response.header.ackSequence = some sequence)
      (other : sequence ≠ greetingSequence) :
      PassedOver signer hmacKey (.tooLarge (some bytes) commandLength valueLength)

/-- **What settles the greeting**, and how: a frame that is the greeting or says that there is none,
one that is no response, one that is too large and not passed over, or a failure. -/
inductive Settles (signer : Signer) (hmacKey : Bytes) : ReadOutcome → Except Status Command → Prop
  | greets {frame : Frame} {greeting : Command}
      (answers : frame.Answers signer hmacKey greetingSequence greeting)
      (success : greeting.isSuccess = true) : Settles signer hmacKey (.frame frame) (.ok greeting)
  | refuses {frame : Frame} {response : Command}
      (answers : frame.Answers signer hmacKey greetingSequence response)
      (refused : response.isSuccess = false) :
      Settles signer hmacKey (.frame frame) (.error (.ofResponse response))
  | faulty {frame : Frame} {status : Status} (faulty : frame.Faulty signer hmacKey status) :
      Settles signer hmacKey (.frame frame) (.error status)
  | tooLarge {bytes : Option Bytes} {commandLength valueLength : UInt32}
      (unread : ¬PassedOver signer hmacKey (.tooLarge bytes commandLength valueLength)) :
      Settles signer hmacKey (.tooLarge bytes commandLength valueLength)
        (.error (.client .responseTooLarge "response exceeded the maximum frame size"))
  | fails (error : FrameError) : Settles signer hmacKey (.failed error)
      (.error (.client .ioError ("I/O read error: " ++ error.message)))

variable {signer : Signer} {hmacKey : Bytes} {word : ReadOutcome}

theorem PassedOver.endsFrame (h : word.PassedOver signer hmacKey) : word.endsFrame = true := by
  cases h <;> rfl

/-- **Every frame** is passed over or settles the greeting. -/
theorem passedOver_or_settles (signer : Signer) (hmacKey : Bytes) (ends : word.endsFrame = true) :
    word.PassedOver signer hmacKey ∨ ∃ result, word.Settles signer hmacKey result := by
  cases word with
  | pending => cases ends
  | failed error => cases ends
  | tooLarge bytes commandLength valueLength =>
    by_cases skipped : PassedOver signer hmacKey (.tooLarge bytes commandLength valueLength)
    · exact .inl skipped
    · exact .inr ⟨_, .tooLarge skipped⟩
  | frame frame =>
    -- the checks of an inbox, in its order: what fails at one of them is no response
    cases decoded : Envelope.decode frame.command with
    | error error => exact .inr ⟨_, .faulty (.malformed decoded)⟩
    | ok envelope =>
      by_cases wrong : envelope.auth = .hmac ∧ signer.verifies hmacKey envelope = false
      · exact .inr ⟨_, .faulty (.badDigest decoded wrong.1 wrong.2)⟩
      · have opens : frame.Opens signer hmacKey envelope :=
          ⟨decoded, fun hmac => Bool.eq_true_of_not_eq_false fun bad => wrong ⟨hmac, bad⟩⟩
        cases inner : envelope.inner with
        | error error => exact .inr ⟨_, .faulty (.malformedCommand opens inner)⟩
        | ok response =>
          cases answers : Correlator.answeredSequence envelope response with
          | none =>
            unfold Correlator.answeredSequence at answers
            split at answers
            · cases answers
            · rename_i asked
              exact .inr ⟨_, .faulty (.unacknowledged opens inner asked answers)⟩
          | some sequence =>
            by_cases other : sequence = greetingSequence
            · rw [other] at answers
              by_cases success : response.isSuccess = true
              · exact .inr ⟨_, .greets ⟨opens, inner, answers⟩ success⟩
              · exact .inr ⟨_, .refuses ⟨opens, inner, answers⟩ (Bool.eq_false_iff.mpr success)⟩
            · exact .inl (.response ⟨opens, inner, answers⟩ other)

/-- The **number of the connection** that a fitting frame has, if it has one. -/
def connectionId? : ReadOutcome → Option Int64
  | frame content =>
    match Envelope.decode content.command with
    | .error _ => none
    | .ok envelope =>
      match envelope.inner with
      | .error _ => none
      | .ok response => response.header.connectionId
  | _ => none

theorem connectionId?_of_opens {frame : Frame} {envelope : Envelope} {response : Command}
    (opens : frame.Opens signer hmacKey envelope) (inner : envelope.inner = .ok response) :
    connectionId? (.frame frame) = response.header.connectionId := by
  rw [connectionId?, opens.decoded]
  simp only [inner]

/-- The **last** number of the connection that some frames have. -/
def lastConnectionId (ends : List ReadOutcome) : Option Int64 :=
  (ends.filterMap connectionId?).getLast?

theorem lastConnectionId_append (ends later : List ReadOutcome) :
    lastConnectionId (ends ++ later) = (lastConnectionId later).or (lastConnectionId ends) := by
  rw [lastConnectionId, List.filterMap_append, List.getLast?_append]
  rfl

theorem lastConnectionId_singleton (word : ReadOutcome) :
    lastConnectionId [word] = word.connectionId? := by
  rw [lastConnectionId, List.filterMap_cons]
  cases word.connectionId? <;> rfl

end ReadOutcome

open ReadOutcome (PassedOver Settles lastConnectionId lastConnectionId_append
  lastConnectionId_singleton)

/-! ## What its end does -/

namespace Correlator

variable {c : Correlator Unit} {word : ReadOutcome}

/-- Somebody waits **for the greeting**, and nobody for anything else. -/
def AwaitsGreeting (c : Correlator Unit) : Prop :=
  c.outstanding = ⟨[⟨greetingSequence, greetingKey, ()⟩]⟩

/-- What is known **once some frames have come**. -/
def learning (c : Correlator Unit) (ends : List ReadOutcome) : Correlator Unit :=
  { c with connectionId := (lastConnectionId ends).or c.connectionId }

theorem learning_learning (c : Correlator Unit) (ends later : List ReadOutcome) :
    (c.learning ends).learning later = c.learning (ends ++ later) := by
  rw [learning, learning, learning, lastConnectionId_append, Option.or_assoc]

theorem learn_eq_learning {frame : Frame} {envelope : Envelope} {response : Command}
    (opens : frame.Opens c.signer c.hmacKey envelope) (inner : envelope.inner = .ok response) :
    c.learn response = c.learning [.frame frame] := by
  rw [learning, lastConnectionId_singleton, ReadOutcome.connectionId?_of_opens opens inner, learn]
  cases response.header.connectionId <;> rfl

/-- While the greeting is out, nobody waits for **another sequence**. -/
theorem AwaitsGreeting.removeBySequence_eq_none (awaits : c.AwaitsGreeting) {sequence : Int64}
    (other : sequence ≠ greetingSequence) : c.outstanding.removeBySequence sequence = none := by
  refine Outstanding.removeBySequence_eq_none_iff.mpr fun request mem same => ?_
  rw [awaits, List.mem_singleton] at mem
  rw [mem] at same
  exact other same.symm

/-- While the greeting is out, it is what **its sequence** finds. -/
theorem AwaitsGreeting.removeBySequence_eq_some (awaits : c.AwaitsGreeting) :
    c.outstanding.removeBySequence greetingSequence =
      some (⟨greetingSequence, greetingKey, ()⟩, .empty) := by
  rw [awaits]
  rfl

/-- A frame that is **passed over** leaves the greeting out. -/
theorem accept_of_passedOver (awaits : c.AwaitsGreeting)
    (skipped : word.PassedOver c.signer c.hmacKey) :
    c.accept word = ⟨c.learning [word], [], false⟩ := by
  cases skipped with
  | @response frame sequence response answers other =>
    obtain ⟨opens, inner, answers⟩ := answers
    rw [accept, dispatch_of_opened (openResponse_of_opens opens inner) answers,
      awaits.removeBySequence_eq_none other, learn_eq_learning opens inner]
  | @tooLarge bytes commandLength valueLength envelope response sequence opens inner acknowledges
      other =>
    rw [accept, dispatchTooLarge, acknowledgedIn_of_opened (openResponse_of_opens opens inner),
      acknowledges]
    simp only [awaits.removeBySequence_eq_none other]
    rfl

/-- A sequence that **can be read** in the header of a frame that is too large. -/
theorem exists_opens_of_acknowledgedIn {bytes : Option Bytes} {sequence : Int64}
    (acknowledged : c.acknowledgedIn bytes = some sequence) :
    ∃ command envelope response, bytes = some command ∧
      Frame.Opens c.signer c.hmacKey ⟨command, []⟩ envelope ∧ envelope.inner = .ok response ∧
      response.header.ackSequence = some sequence := by
  unfold acknowledgedIn at acknowledged
  split at acknowledged
  · cases acknowledged
  · rename_i command
    split at acknowledged
    · cases acknowledged
    · rename_i envelope response opened
      obtain ⟨decoded, inner, signed⟩ := decode_of_openResponse opened
      exact ⟨command, envelope, response, rfl, ⟨decoded, signed⟩, inner, acknowledged⟩

/-- What a response to the greeting **says about it**. -/
theorem greetingResult_answer (response : Command) (value : Bytes) :
    greetingResult [.answer greetingKey () response value] =
      some (if response.isSuccess then .ok response else .error (.ofResponse response)) := by
  rw [Completion.eq_answer]
  split <;> rfl

theorem accept_of_answers_greeting (awaits : c.AwaitsGreeting) {frame : Frame}
    {response : Command}
    (answers : frame.Answers c.signer c.hmacKey greetingSequence response) :
    c.accept (.frame frame) = ⟨{ c.learning [.frame frame] with outstanding := .empty },
      [.answer greetingKey () response frame.value], false⟩ := by
  obtain ⟨opens, inner, answers⟩ := answers
  rw [accept, dispatch_of_opened (openResponse_of_opens opens inner) answers,
    awaits.removeBySequence_eq_some, learn_eq_learning opens inner]

/-- A frame that is too large and **not passed over** fails whoever is to be greeted. -/
theorem accept_of_tooLarge (awaits : c.AwaitsGreeting) {bytes : Option Bytes}
    {commandLength valueLength : UInt32}
    (unread : ¬PassedOver c.signer c.hmacKey (.tooLarge bytes commandLength valueLength)) :
    c.accept (.tooLarge bytes commandLength valueLength) =
      ⟨{ c with outstanding := .empty }, [.fail greetingKey () tooLargeStatus], false⟩ := by
  rw [accept, dispatchTooLarge]
  cases acknowledged : c.acknowledgedIn bytes with
  | none =>
    rw [failAll, awaits]
    rfl
  | some sequence =>
    -- with another sequence, it would be passed over
    have same : sequence = greetingSequence := by
      by_contra other
      obtain ⟨command, envelope, response, rfl, opens, inner, acknowledges⟩ :=
        exists_opens_of_acknowledgedIn acknowledged
      exact unread (.tooLarge opens inner acknowledges other)
    simp only [same, awaits.removeBySequence_eq_some]

/-- A frame that **settles the greeting** is what becomes of it. -/
theorem accept_of_settles {result : Except Status Command} (awaits : c.AwaitsGreeting)
    (settles : word.Settles c.signer c.hmacKey result) (ends : word.endsFrame = true) :
    greetingResult (c.accept word).completions = some result ∧
      (c.accept word).correlator.outstanding = .empty ∧ ∀ greeting, result = .ok greeting →
        (c.accept word).correlator = { c.learning [word] with outstanding := .empty } := by
  cases settles with
  | @greets frame greeting answers success =>
    rw [accept_of_answers_greeting awaits answers, greetingResult_answer, if_pos success]
    exact ⟨rfl, rfl, fun _ _ => rfl⟩
  | @refuses frame response answers refused =>
    rw [accept_of_answers_greeting awaits answers, greetingResult_answer,
      if_neg (Bool.eq_false_iff.mp refused)]
    exact ⟨rfl, rfl, fun _ _ => rfl⟩
  | @faulty frame status faulty =>
    obtain ⟨connectionId, accepted⟩ := accept_of_faulty faulty
    rw [accepted, awaits]
    refine ⟨rfl, rfl, fun greeting same => ?_⟩
    cases same
  | tooLarge unread =>
    rw [accept_of_tooLarge awaits unread]
    refine ⟨rfl, rfl, fun greeting same => ?_⟩
    cases same
  | fails error => cases ends

end Correlator

namespace ReadOutcome

variable {signer : Signer} {hmacKey : Bytes} {word word' : ReadOutcome}
  {result result' : Except Status Command}

/-- A frame that is passed over **settles nothing**. -/
theorem PassedOver.not_settles (skipped : word.PassedOver signer hmacKey) :
    ¬word.Settles signer hmacKey result := by
  intro settles
  -- whoever waits for the greeting would have to be told of it, and not to be told of anything
  let c : Correlator Unit :=
    ⟨signer, hmacKey, ⟨[⟨greetingSequence, greetingKey, ()⟩]⟩, none⟩
  have awaits : c.AwaitsGreeting := rfl
  have settled := (Correlator.accept_of_settles awaits settles skipped.endsFrame).1
  rw [Correlator.accept_of_passedOver awaits skipped] at settled
  cases settled

/-- What settles the greeting settles it **in one way**. -/
theorem Settles.unique (h : word.Settles signer hmacKey result)
    (h' : word.Settles signer hmacKey result') : result = result' := by
  cases ends : word.endsFrame with
  | true =>
    -- both are what whoever waits for the greeting is told
    let c : Correlator Unit :=
      ⟨signer, hmacKey, ⟨[⟨greetingSequence, greetingKey, ()⟩]⟩, none⟩
    have awaits : c.AwaitsGreeting := rfl
    have settled := (Correlator.accept_of_settles awaits h ends).1
    rw [(Correlator.accept_of_settles awaits h' ends).1] at settled
    exact (Option.some.inj settled).symm
  | false =>
    cases h with
    | fails error =>
      cases h'
      rfl
    | _ => cases ends

end ReadOutcome

end DriveLink
