import DriveLink.Proofs.Pipeline.Intake

/-! # Responses that are too large

A response that is too large is stepped over, and the request that it answers fails. Which one that
is, is told by the command section of the frame, if that can be read; a response that fits is handed
over by the same command section. The two agree on every response that the drive was asked for. What
it says without being asked is another matter: if it fits, it counts as answering a sequence that no
request has, whatever stands in its header, and if it is too large, its header decides.

* `Correlator.concerned`, `Correlator.unconcerned` — whom a response concerns, and who goes on
  waiting;
* `Correlator.accept_of_fitting`, `Correlator.accept_of_oversized` — what the end of a frame does by
  its command section;
* `oversized_response_correlates` — a response that is too large against one that fits. -/

namespace DriveLink

variable {σ η : Type}

namespace Correlator

/-! ## Whom a response concerns -/

/-- **Whom a response concerns** that answers a sequence: the request that waits for it, if there is
one. A response that answers none concerns everybody who waits. -/
def concerned (c : Correlator η) : Option Int64 → List (OutstandingRequest η)
  | some sequence => (c.outstanding.entries.find? (·.sequence = sequence)).toList
  | none => c.outstanding.entries

/-- Who **goes on waiting** behind a response that answers a sequence, or none. -/
def unconcerned (c : Correlator η) : Option Int64 → List (OutstandingRequest η)
  | some sequence => c.outstanding.entries.eraseP (·.sequence = sequence)
  | none => []

/-- What whoever waits for a response **that is too large** is told. -/
def oversizedStatus : Status :=
  .client .responseTooLarge "response exceeded the maximum frame size"

variable {c : Correlator η} {envelope : Envelope} {response : Command}

/-- A response that nobody waits for lets **everybody go on waiting**. -/
theorem unconcerned_of_find? {sequence : Int64}
    (nobody : c.outstanding.entries.find? (·.sequence = sequence) = none) :
    c.unconcerned (some sequence) = c.outstanding.entries :=
  List.eraseP_of_forall_not (List.find?_eq_none.mp nobody)

/-- What a request **learns from a response** that fits. If the response answers no sequence, that
is its failure. -/
def learned (answered : Option Int64) (response : Command) (value : Bytes)
    (request : OutstandingRequest η) : Completion η :=
  if answered.isSome then .answer request.key request.handler response value
  else ⟨request.key, request.handler,
    .failed (.client .noAckSequence "response had no ack sequence") none⟩

/-- **A response that fits** is handed over to those whom it concerns. -/
theorem accept_of_fitting (c : Correlator η) (frame : Frame)
    (opened : c.openResponse frame.command = .ok (envelope, response)) :
    let answered := answeredSequence envelope response
    (c.accept (.frame frame)).completions =
        (c.concerned answered).map (learned answered response frame.value) ∧
      (c.accept (.frame frame)).correlator.outstanding.entries = c.unconcerned answered := by
  obtain ⟨connectionId, learns⟩ := c.learn_eq response
  rw [accept]
  cases answers : answeredSequence envelope response with
  | none =>
    rw [dispatch, opened]
    simp only [answers, learns]
    exact ⟨rfl, rfl⟩
  | some sequence =>
    rw [dispatch_of_opened opened answers, learns, Outstanding.removeBySequence]
    cases found : c.outstanding.entries.find? (·.sequence = sequence) with
    | none => simp [concerned, unconcerned_of_find? found, found]
    | some request => simp [concerned, unconcerned, found, learned]

/-- **A response that is too large** fails those whom its header concerns. -/
theorem accept_of_oversized {bytes : Bytes}
    (opened : c.openResponse bytes = .ok (envelope, response))
    (commandLength valueLength : UInt32) :
    let acknowledged := response.header.ackSequence
    let accepted := c.accept (.tooLarge (some bytes) commandLength valueLength)
    accepted.completions =
        OutstandingRequest.failures (c.concerned acknowledged) oversizedStatus ∧
      accepted.correlator.outstanding.entries = c.unconcerned acknowledged := by
  rw [accept, dispatchTooLarge, acknowledgedIn_of_opened opened]
  cases response.header.ackSequence with
  | none => exact ⟨rfl, rfl⟩
  | some sequence =>
    simp only [Outstanding.removeBySequence]
    cases found : c.outstanding.entries.find? (·.sequence = sequence) with
    | none => simp [concerned, unconcerned_of_find? found, found, OutstandingRequest.failures]
    | some request =>
      rw [concerned, found]
      exact ⟨rfl, rfl⟩

/-- Whoever learns from a response, or fails because of it, is **called with the handler of his
request**. -/
theorem caller_learned (answered : Option Int64) (response : Command) (value : Bytes)
    (request : OutstandingRequest η) :
    (learned answered response value request).caller = (request.key, request.handler) := by
  unfold learned
  split
  · rw [Completion.eq_answer]
    rfl
  · rfl

end Correlator

/-! ## Large against fitting -/

/-- What happens in a call to receive **begins with a frame** and what that completes. -/
def Received.BeginsWith (received : Received η σ) (outcome : ReadOutcome)
    (done : List (Completion η)) : Prop :=
  ∃ later, received.events = .received outcome :: done.map .completed ++ later

open Correlator in
/-- **A response that is too large against one that fits.** Take two frames with one command
section, the envelope of which can be trusted and the command of which decodes: one of them fits,
and the other one is too large, though its command section alone is not. Let inboxes for which the
same requests wait take them in. The one that fits is handed over to those whom it concerns by the
sequence that it answers, and the one that is too large fails those whom the sequence in its header
concerns. If the drive was asked for the response these are the same: whoever would have been called
fails, nobody else does, and whoever goes on waiting is the same too. If it was not, the response
that fits counts as answering the sequence of the greeting, whatever its header says. -/
theorem oversized_response_correlates [Channel σ] [Stocked σ] {inbox inbox' : Inbox η} {s s' : σ}
    {command small large rest rest' : Bytes} (next : inbox.Next s ⟨command, small⟩ rest)
    (next' : inbox'.Next s' ⟨command, large⟩ rest') (same : inbox'.correlator = inbox.correlator)
    (fits : command.length + small.length ≤ inbox.reader.maxFrameSize)
    (exceeds : inbox'.reader.maxFrameSize < command.length + large.length)
    (readable : command.length ≤ inbox'.reader.maxFrameSize) {envelope : Envelope}
    {response : Command}
    (opens : Frame.Opens inbox.correlator.signer inbox.correlator.hmacKey ⟨command, small⟩ envelope)
    (inner : envelope.inner = .ok response) :
    let c := inbox.correlator
    let answered := answeredSequence envelope response
    let called := (c.concerned answered).map (learned answered response small)
    let failed := OutstandingRequest.failures (c.concerned response.header.ackSequence)
      oversizedStatus
    ∃ commandLength valueLength,
      (inbox.receive s).BeginsWith (.frame ⟨command, small⟩) called ∧
      (inbox'.receive s').BeginsWith (.tooLarge (some command) commandLength valueLength) failed ∧
      (envelope.auth ≠ .unsolicited →
        failed = called.map (fun completion =>
          ⟨completion.key, completion.handler, .failed oversizedStatus none⟩) ∧
        (c.accept (.tooLarge (some command) commandLength valueLength)).correlator.outstanding =
          (c.accept (.frame ⟨command, small⟩)).correlator.outstanding) ∧
      (envelope.auth = .unsolicited → answered = some greetingSequence) := by
  intro c answered called failed
  have opened : c.openResponse command = .ok (envelope, response) :=
    openResponse_of_opens opens inner
  obtain ⟨outcome, later, arrives, events_eq⟩ := next.exists_events
  obtain ⟨outcome', later', arrives', events_eq'⟩ := next'.exists_events
  rw [same] at events_eq'
  cases arrives with
  | tooLarge lt => exact absurd fits (Nat.not_le.mpr lt)
  | whole =>
    cases arrives' with
    | whole le => exact absurd exceeds (Nat.not_lt.mpr le)
    | @tooLarge commandLength valueLength lt =>
      rw [if_pos readable] at events_eq'
      obtain ⟨called_eq, left_eq⟩ := c.accept_of_fitting ⟨command, small⟩ opened
      obtain ⟨failed_eq, left_eq'⟩ := c.accept_of_oversized opened commandLength valueLength
      refine ⟨commandLength, valueLength, ⟨later, ?_⟩, ⟨later', ?_⟩, fun asked => ?_,
        fun unasked => if_pos unasked⟩
      · rw [events_eq, toldOf, called_eq]
      · rw [events_eq', toldOf, failed_eq]
      · -- without the exception, the sequence in the header is the one that is answered
        have answers : answered = response.header.ackSequence := if_neg asked
        refine ⟨?_, congrArg Outstanding.mk (left_eq'.trans ?_)⟩
        · show OutstandingRequest.failures _ _ = ((c.concerned answered).map _).map _
          rw [List.map_map, OutstandingRequest.failures, ← answers]
          refine List.map_congr_left fun request _ => ?_
          have caller_eq := caller_learned answered response small request
          rw [Completion.caller, Prod.mk.injEq] at caller_eq
          rw [Function.comp_apply, caller_eq.1, caller_eq.2]
        · rw [left_eq, ← answers]

section Stray

open Simulation (Drive)
open Correlator (oversizedStatus)

/-- An inbox for which **two requests wait**, and which accepts bodies of at most 64 bytes. -/
def twoWaiting : Inbox Nat where
  correlator := ⟨.constant [7], [1], ⟨[⟨0, 0, 10⟩, ⟨1, 1, 20⟩]⟩, none⟩
  reader := { maxFrameSize := 64 }

/-- The command section of a frame that says **that all is well**. -/
def saying (envelope : Envelope) (header : Header) : Bytes :=
  { envelope with command := Command.encode { header, status := some { code := .success } } }.encode

/-- The answer to the **first request**. -/
def firstAnswer : Bytes := saying (.withPin []) { ackSequence := some 0 }

/-- What the drive says **without being asked**. -/
def strayStatus : Bytes := saying .unsolicited {}

/-- A drive that delivers a frame with such a command section and a value of so many zeros. -/
def delivering (command : Bytes) (size : Nat) : Drive :=
  { key := [1], queue := [.bytes (Frame.encode ⟨command, List.replicate size 0⟩)] }

theorem stock_delivering (command : Bytes) (size : Nat) :
    Stocked.stock (delivering command size) =
      Frame.encode ⟨command, List.replicate size 0⟩ :=
  List.append_nil _

theorem next_twoWaiting (command : Bytes) (size : Nat)
    (lengths : Frame.checkLengths command.length size = .ok ()) :
    twoWaiting.Next (delivering command size) ⟨command, List.replicate size 0⟩ [] where
  working := rfl
  wanted := .inr (List.cons_ne_nil _ _)
  lengths := by rwa [List.length_replicate]
  front := ⟨[], .idle, by rw [stock_delivering, List.append_nil]; exact List.prefix_refl _⟩

/-- A response to the first request that is too large **fails that request**. What the drive says
without being asked calls nobody if it fits, and **fails both** if it is too large. -/
theorem oversized_response_correlates_stray :
    (∃ response commandLength valueLength,
      (twoWaiting.receive (delivering firstAnswer 0)).BeginsWith (.frame ⟨firstAnswer, []⟩)
        [.answer 0 10 response []] ∧
      (twoWaiting.receive (delivering firstAnswer 100)).BeginsWith
        (.tooLarge (some firstAnswer) commandLength valueLength)
        [⟨0, 10, .failed oversizedStatus none⟩]) ∧
    ∃ commandLength valueLength,
      (twoWaiting.receive (delivering strayStatus 0)).BeginsWith (.frame ⟨strayStatus, []⟩) [] ∧
      (twoWaiting.receive (delivering strayStatus 100)).BeginsWith
        (.tooLarge (some strayStatus) commandLength valueLength)
        [⟨0, 10, .failed oversizedStatus none⟩, ⟨1, 20, .failed oversizedStatus none⟩] := by
  have check : ((Envelope.decode firstAnswer).toOption.any fun envelope =>
      envelope.inner.toOption.any fun response =>
        decide (envelope.auth = .pin ∧ response.header.ackSequence = some 0)) = true := by
    decide +kernel
  have check' : ((Envelope.decode strayStatus).toOption.any fun envelope =>
      envelope.inner.toOption.any fun response =>
        decide (envelope.auth = .unsolicited ∧ response.header.ackSequence = none)) = true := by
    decide +kernel
  obtain ⟨envelope, decodes, check⟩ := (Option.any_eq_true _ _).mp check
  obtain ⟨response, inner, check⟩ := (Option.any_eq_true _ _).mp check
  obtain ⟨pin, acknowledges⟩ := of_decide_eq_true check
  obtain ⟨envelope', decodes', check'⟩ := (Option.any_eq_true _ _).mp check'
  obtain ⟨response', inner', check'⟩ := (Option.any_eq_true _ _).mp check'
  obtain ⟨unsolicited, nothing⟩ := of_decide_eq_true check'
  have answered : Correlator.answeredSequence envelope response = some 0 := by
    rw [Correlator.answeredSequence, if_neg (by rw [pin]; decide), acknowledges]
  have answered' : Correlator.answeredSequence envelope' response' = some greetingSequence :=
    if_pos unsolicited
  constructor
  · obtain ⟨_, _, calls, fails, -⟩ := oversized_response_correlates
      (next_twoWaiting firstAnswer 0 (by decide +kernel))
      (next_twoWaiting firstAnswer 100 (by decide +kernel)) rfl
      (by decide +kernel) (by decide +kernel) (by decide +kernel)
      ⟨eq_ok_of_toOption decodes, fun hmac => by rw [pin] at hmac; cases hmac⟩
      (eq_ok_of_toOption inner)
    rw [answered] at calls
    rw [acknowledges] at fails
    exact ⟨response, _, _, calls, fails⟩
  · obtain ⟨_, _, calls, fails, -⟩ := oversized_response_correlates
      (next_twoWaiting strayStatus 0 (by decide +kernel))
      (next_twoWaiting strayStatus 100 (by decide +kernel)) rfl
      (by decide +kernel) (by decide +kernel) (by decide +kernel)
      ⟨eq_ok_of_toOption decodes', fun hmac => by rw [unsolicited] at hmac; cases hmac⟩
      (eq_ok_of_toOption inner')
    rw [answered'] at calls
    rw [nothing] at fails
    exact ⟨_, _, calls, fails⟩

end Stray

end DriveLink
