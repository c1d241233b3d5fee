import DriveLink.Proofs.Frame.Facing
import DriveLink.Proofs.Pipeline.Coherence
import DriveLink.Proofs.Pipeline.Delivery

/-! # Frames that are no response

A frame may be whole and yet be no response: its envelope or its command does not decode, its digest
is wrong, or it acknowledges nothing. Such a frame fails whoever waits at the moment when it is
read, and reading stops behind it. A response stops nothing: it is handed over, or passed over if
nobody waits for it, and reading goes on.

* `Frame.Opens`, `Frame.Faulty`, `Frame.Answers` — what a frame may be, by its bytes;
* `Correlator.accept_of_faulty`, `Correlator.accept_of_answers` — what its end does;
* `Inbox.receiveFrom_of_faulty` — a faulty frame fails whoever waits, and reading stops;
* `Inbox.receiveFrom_of_answers` — reading goes on from response to response. -/

namespace DriveLink

variable {σ η : Type}

/-! ## What a frame may be -/

namespace Frame

/-- A frame whose envelope **can be trusted**: it decodes, and carries the digest that it should if
it claims to be signed. -/
structure Opens (signer : Signer) (hmacKey : Bytes) (frame : Frame) (envelope : Envelope) :
    Prop where
  decoded : Envelope.decode frame.command = .ok envelope
  signed : envelope.auth = .hmac → signer.verifies hmacKey envelope = true

/-- A frame that is **no response**, and the status that requests fail with because of it. -/
inductive Faulty (signer : Signer) (hmacKey : Bytes) (frame : Frame) : Status → Prop
  /-- The envelope does not decode. -/
  | malformed {error : DecodeError} (decoded : Envelope.decode frame.command = .error error) :
      Faulty signer hmacKey frame (.client .ioError ("malformed response: " ++ error.message))
  /-- The digest is wrong, or missing. -/
  | badDigest {envelope : Envelope} (decoded : Envelope.decode frame.command = .ok envelope)
      (hmac : envelope.auth = .hmac) (wrong : signer.verifies hmacKey envelope = false) :
      Faulty signer hmacKey frame (.client .badDigest "response HMAC did not verify")
  /-- The command in it does not decode. -/
  | malformedCommand {envelope : Envelope} {error : DecodeError}
      (opens : frame.Opens signer hmacKey envelope) (inner : envelope.inner = .error error) :
      Faulty signer hmacKey frame (.client .ioError ("malformed response: " ++ error.message))
  /-- It acknowledges nothing. -/
  | unacknowledged {envelope : Envelope} {response : Command}
      (opens : frame.Opens signer hmacKey envelope) (inner : envelope.inner = .ok response)
      (asked : envelope.auth ≠ .unsolicited) (nothing : response.header.ackSequence = none) :
      Faulty signer hmacKey frame (.client .noAckSequence "response had no ack sequence")

/-- A frame that is a **response** to the request with the sequence. -/
inductive Answers (signer : Signer) (hmacKey : Bytes) (frame : Frame) (sequence : Int64)
    (response : Command) : Prop
  | intro {envelope : Envelope} (opens : frame.Opens signer hmacKey envelope)
      (inner : envelope.inner = .ok response)
      (answers : Correlator.answeredSequence envelope response = some sequence)

end Frame

/-! ## What its end does -/

/-- The failures of some requests that wait for their answers. -/
def OutstandingRequest.failures (entries : List (OutstandingRequest η)) (status : Status) :
    List (Completion η) :=
  entries.map fun request => ⟨request.key, request.handler, .failed status none⟩

namespace Correlator

theorem openResponse_of_opens {c : Correlator η} {frame : Frame} {envelope : Envelope}
    {response : Command} (opens : frame.Opens c.signer c.hmacKey envelope)
    (inner : envelope.inner = .ok response) :
    c.openResponse frame.command = .ok (envelope, response) :=
  openResponse_eq_ok opens.decoded opens.signed inner

/-- The sequence in the header of a response **that opens**. -/
theorem acknowledgedIn_of_opened {c : Correlator η} {bytes : Bytes} {envelope : Envelope}
    {response : Command} (opened : c.openResponse bytes = .ok (envelope, response)) :
    c.acknowledgedIn (some bytes) = response.header.ackSequence := by
  rw [acknowledgedIn]
  simp only [opened]

/-- **A frame that is no response** fails whoever waits, and nobody waits any more. -/
theorem accept_of_faulty {c : Correlator η} {frame : Frame} {status : Status}
    (faulty : frame.Faulty c.signer c.hmacKey status) :
    ∃ connectionId, c.accept (.frame frame) =
      ⟨{ c with outstanding := .empty, connectionId },
        OutstandingRequest.failures c.outstanding.entries status, true⟩ := by
  cases faulty with
  | malformed decoded =>
    refine ⟨c.connectionId, ?_⟩
    rw [accept, dispatch, openResponse, decoded]
    rfl
  | @badDigest envelope decoded hmac wrong =>
    refine ⟨c.connectionId, ?_⟩
    have unverified : (envelope.auth = .hmac && !c.signer.verifies c.hmacKey envelope) = true := by
      rw [decide_eq_true hmac, wrong]
      rfl
    rw [accept, dispatch, openResponse, decoded]
    simp only
    rw [if_pos unverified]
    rfl
  | @malformedCommand envelope error opens inner =>
    refine ⟨c.connectionId, ?_⟩
    rw [accept, dispatch, openResponse_eq_error opens.decoded opens.signed inner]
    rfl
  | @unacknowledged envelope response opens inner asked nothing =>
    obtain ⟨connectionId, learns⟩ := c.learn_eq response
    refine ⟨connectionId, ?_⟩
    have unanswered : answeredSequence envelope response = none := by
      rw [answeredSequence, if_neg asked, nothing]
    rw [accept, dispatch, openResponse_of_opens opens inner]
    simp only [unanswered, learns]
    rfl

/-- **A response** stops nothing, and whoever waits for another one goes on waiting. -/
theorem accept_of_answers {c : Correlator η} {frame : Frame} {sequence : Int64}
    {response : Command} (answers : frame.Answers c.signer c.hmacKey sequence response) :
    (c.accept (.frame frame)).stop = false ∧
      SameKey c (c.accept (.frame frame)).correlator ∧
      (c.accept (.frame frame)).correlator.outstanding.entries.Sublist c.outstanding.entries ∧
      ∀ request ∈ c.outstanding.entries, request.sequence ≠ sequence →
        request ∈ (c.accept (.frame frame)).correlator.outstanding.entries := by
  obtain ⟨opens, inner, answers⟩ := answers
  obtain ⟨connectionId, learns⟩ := c.learn_eq response
  rw [accept, dispatch_of_opened (openResponse_of_opens opens inner) answers, learns]
  cases removed : c.outstanding.removeBySequence sequence with
  | none => exact ⟨rfl, ⟨rfl, rfl⟩, .refl _, fun _ mem _ => mem⟩
  | some taken =>
    obtain ⟨request, outstanding⟩ := taken
    obtain ⟨before, after, entries_eq, rfl, same⟩ := Outstanding.exists_split removed
    refine ⟨rfl, ⟨rfl, rfl⟩, ?_, fun other mem ne => ?_⟩
    · rw [entries_eq]
      exact (List.sublist_cons_self request after).append_left before
    · rw [entries_eq] at mem
      rcases List.mem_append.mp mem with sooner | mem
      · exact List.mem_append_left _ sooner
      · rcases List.mem_cons.mp mem with rfl | later
        · exact absurd same ne
        · exact List.mem_append_right _ later

end Correlator

/-! ## Reading what lies ready -/

namespace Inbox

variable [Channel σ]

/-- What happens **at the end of a frame**. -/
def framed (c : Correlator η) (frame : Frame) : List (Event η) :=
  .received (.frame frame) :: (c.accept (.frame frame)).completions.map .completed

/-- With something to read for, receiving **takes the next frame**, and goes on unless that says to
stop. -/
theorem receiveFrom_of_frame {c : Correlator η} {reader : FrameReader} {s : σ} {frame : Frame}
    (some : reader.inProgress = true ∨ c.outstanding.entries ≠ [])
    (outcome_eq : (reader.read s).1 = .frame frame) :
    receiveFrom c reader s =
      if (c.accept (.frame frame)).stop = true then
        ⟨.idle, framed c frame,
          { correlator := (c.accept (.frame frame)).correlator, reader := (reader.read s).2.1 },
          (reader.read s).2.2⟩
      else
        let later := receiveFrom (c.accept (.frame frame)).correlator (reader.read s).2.1
          (reader.read s).2.2
        { later with events := framed c frame ++ later.events } := by
  have wanted : ¬ (!reader.inProgress && c.outstanding.isEmpty) = true := by
    rcases some with inside | waits
    · rw [inside]
      exact Bool.false_ne_true
    · rw [Outstanding.isEmpty, List.isEmpty_eq_false_iff.mpr waits, Bool.and_false]
      exact Bool.false_ne_true
  have ends : (reader.read s).1.endsFrame = true := by
    rw [outcome_eq]
    rfl
  rw [receiveFrom, if_neg wanted]
  simp only
  rw [dif_pos ends, outcome_eq]
  rfl

variable [Stocked σ]

/-- **A frame that is no response** and lies ready is read alone. It fails whoever waits, and the
inbox stays alive. -/
theorem receiveFrom_of_faulty {c : Correlator η} {reader : FrameReader} {s : σ} {frame : Frame}
    {frames : List Frame} {status : Status}
    (some : reader.inProgress = true ∨ c.outstanding.entries ≠ [])
    (faces : reader.Faces s (frame :: frames))
    (faulty : frame.Faulty c.signer c.hmacKey status) :
    ∃ connectionId, receiveFrom c reader s =
      ⟨.idle, .received (.frame frame) ::
          (OutstandingRequest.failures c.outstanding.entries status).map .completed,
        { correlator := { c with outstanding := .empty, connectionId }
          reader := (reader.read s).2.1 },
        (reader.read s).2.2⟩ := by
  obtain ⟨connectionId, accepted⟩ := Correlator.accept_of_faulty faulty
  rw [receiveFrom_of_frame some faces.read.1, framed, accepted, if_pos rfl]
  exact ⟨connectionId, rfl⟩

/-- **Reading goes on from response to response** until it comes to the one that a request waits
for, and hands it over. -/
theorem receiveFrom_of_answers {c : Correlator η} {reader : FrameReader} {s : σ}
    {others behind : List Frame} {answer : Frame}
    (faces : reader.Faces s (others ++ answer :: behind)) {request : OutstandingRequest η}
    (nodup : (c.outstanding.entries.map OutstandingRequest.sequence).Nodup)
    (waits : request ∈ c.outstanding.entries)
    (apart : ∀ other ∈ others, ∃ sequence response,
      other.Answers c.signer c.hmacKey sequence response ∧ request.sequence ≠ sequence)
    {response : Command}
    (answers : answer.Answers c.signer c.hmacKey request.sequence response) :
    ∃ before after, (receiveFrom c reader s).events =
      before ++ .received (.frame answer) ::
        .completed (.answer request.key request.handler response answer.value) :: after := by
  have some : reader.inProgress = true ∨ c.outstanding.entries ≠ [] :=
    .inr (List.ne_nil_of_mem waits)
  induction others generalizing c reader s with
  | nil =>
    obtain ⟨opens, inner, answered⟩ := answers
    have alone : ∀ other ∈ c.outstanding.entries, other.sequence = request.sequence →
        other = request := fun other mem same => List.inj_on_of_nodup_map nodup mem waits same
    have done := Correlator.completions_of_awaited
      (Correlator.openResponse_of_opens opens inner) answered waits alone
    rw [receiveFrom_of_frame some faces.read.1, framed, done]
    split
    · exact ⟨[], [], rfl⟩
    · exact ⟨[], _, rfl⟩
  | cons other others ih =>
    obtain ⟨sequence, response', others_answer, ne⟩ := apart other (List.mem_cons_self ..)
    obtain ⟨goes_on, same, fewer, kept⟩ := Correlator.accept_of_answers others_answer
    have still := kept request waits ne
    have further := fun next mem => apart next (List.mem_cons_of_mem other mem)
    rw [← same.signer, ← same.hmacKey] at answers further
    obtain ⟨before, after, later⟩ := ih faces.read.2 (nodup.sublist (fewer.map _)) still further
      answers (.inr (List.ne_nil_of_mem still))
    rw [receiveFrom_of_frame some faces.read.1, goes_on, if_neg Bool.false_ne_true]
    simp only
    rw [later, ← List.append_assoc]
    exact ⟨_, after, rfl⟩

end Inbox

end DriveLink
