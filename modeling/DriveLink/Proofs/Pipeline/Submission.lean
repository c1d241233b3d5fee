import DriveLink.Proofs.Digest.Agreement
import DriveLink.Proofs.Frame.Facing
import DriveLink.Proofs.Pipeline.Coherence
import DriveLink.Proofs.Pipeline.Once
import DriveLink.Proofs.Protocol.Command

/-! # What the drive reads of a request

A request is numbered, addressed, written, signed, put into its envelope and framed, in this order.
The drive takes these steps back: it parses the frame, reads the envelope, checks the digest and
reads the command, and what it comes to is the command that was submitted, with its number and the
number of the connection in its header.

* `Outbox.SignsAs`, `Path.signsAs` — an outbox signs as its connection was started to;
* `Outbox.verifies_sealed` — a digest is right for what it was made of;
* `Outbox.inner_sealed` — the command in the envelope that is sent;
* `drive_reads_submission` — all of it, for a request that is submitted at any moment of a life. -/

namespace DriveLink

variable {σ η : Type}

/-! ## Signing -/

namespace Outbox

/-- **As whom an outbox signs**, and how. -/
structure SignsAs (outbox : Outbox η) (signer : Signer) (identity : Int64) (hmacKey : Bytes) :
    Prop where
  signer : outbox.signer = signer
  identity : outbox.identity = identity
  hmacKey : outbox.hmacKey = hmacKey

variable {outbox : Outbox η} {envelope : Envelope} {command : Command}

theorem signed_sealed_of_hmac (hmac : envelope.auth = .hmac) :
    (outbox.sealed envelope command).signed =
      some ⟨outbox.identity, outbox.signer.sign command.encode outbox.hmacKey⟩ := by
  rw [sealed]
  exact if_pos hmac

theorem signed_sealed_of_ne (other : envelope.auth ≠ .hmac) :
    (outbox.sealed envelope command).signed = envelope.signed := by
  rw [sealed]
  exact if_neg other

/-- The digest of an envelope that is signed **is right for its command**. -/
theorem verifies_sealed (hmac : envelope.auth = .hmac)
    (some : outbox.signer.sign command.encode outbox.hmacKey ≠ []) :
    outbox.signer.verifies outbox.hmacKey (outbox.sealed envelope command) = true :=
  Signer.verifies_iff.mpr ⟨_, signed_sealed_of_hmac hmac, some, rfl⟩

/-- The **command in the envelope** that is sent is the one that was put in. -/
theorem inner_sealed (addressable : (outbox.sealed envelope command).encode.Addressable) :
    (outbox.sealed envelope command).inner = .ok command.withoutDeviceLog := by
  have whole : command.encode.Addressable :=
    addressable.of_le (outbox.sealed envelope command).length_command_le
  have read := Command.decode_append whole []
  rwa [List.append_nil] at read

/-- An outbox that works makes a request **of whatever fits into a frame**. -/
theorem prepare_of_fits (working : outbox.failed = false) {value : Bytes}
    {connectionId : Option Int64}
    (fits : Frame.checkLengths (outbox.sealed envelope
      (addressed command outbox.nextSequence connectionId)).encode.length value.length = .ok ())
    (handler : Option η) (key : RequestKey) :
    outbox.prepare envelope command value handler key connectionId =
      .ok ⟨Frame.encode ⟨(outbox.sealed envelope
        (addressed command outbox.nextSequence connectionId)).encode, value⟩,
        outbox.nextSequence, key, handler⟩ := by
  have framed : outbox.frameOf envelope (addressed command outbox.nextSequence connectionId) value =
      .ok (Frame.encode ⟨(outbox.sealed envelope
        (addressed command outbox.nextSequence connectionId)).encode, value⟩) := by
    rw [frameOf]
    simp only [fits]
  rw [prepare, if_neg (Bool.eq_false_iff.mp working), framed]

end Outbox

/-! ## An outbox stays who it is -/

section Path

variable [Channel σ] {signer : Signer} {identity : Int64} {hmacKey : Bytes}

theorem Move.signsAs {m m' : Multiplexer σ η} {events : List (Event η)} (h : Move m events m')
    (signs : m.outbox.SignsAs signer identity hmacKey) :
    m'.outbox.SignsAs signer identity hmacKey := by
  obtain ⟨signer_eq, identity_eq, key_eq⟩ := signs
  cases h <;> exact ⟨signer_eq, identity_eq, key_eq⟩

/-- **Nothing changes as whom an outbox signs.** -/
theorem Path.signsAs {m m' : Multiplexer σ η} {events : List (Event η)} (h : Path m events m')
    (signs : m.outbox.SignsAs signer identity hmacKey) :
    m'.outbox.SignsAs signer identity hmacKey := by
  induction h with
  | done m => exact signs
  | step move _ ih => exact ih (move.signsAs signs)

/-- In the life of a connection, requests are signed **as it was started to**. -/
theorem Multiplexer.signsAs_of_start [Pollable σ] {patience : Nat} {options : Options} {s : σ}
    {m : Multiplexer σ η} (started : start patience signer options s = some (.ok m))
    (turns : List (Turn σ η)) :
    (m.live turns).service.outbox.SignsAs signer options.userId options.hmacKey := by
  refine (path_live m turns).signsAs ?_
  rw [(outbox_of_start started).2]
  exact ⟨rfl, rfl, rfl⟩

end Path

/-! ## What the drive reads -/

/-- The bytes of a frame that fits **are parsed as that frame**, and nothing is left over. -/
theorem Frame.parse_encode {max : Nat} {frame : Frame} (fits : frame.Fits max) :
    parse max frame.encode = ([.frame frame], []) := by
  have parsed := parse_whole (whole_encode fits) []
  rwa [List.append_nil, parse_nil] at parsed

/-- **The drive reads what was submitted.** At any moment in the life of a connection that was
started, while it is alive, let a request be submitted of which the envelope, with the command in it
and signed, and the value fit into a frame. Then it waits for its turn, behind all others, and
whoever reads its bytes and takes frames of that size finds one frame, with the value and an
envelope in it. The envelope is authenticated as it was, with the same PIN, and in it is the command
with two fields of its header filled in, its number and the number of the connection, and without
the contents of a vendor's own log. If it is to be signed, it carries the identity of the user and a
digest that is right, as long as the signer makes any; otherwise it carries what it carried. -/
theorem drive_reads_submission [Channel σ] [Pollable σ] {patience : Nat} {signer : Signer}
    {options : Options} {s : σ} {m : Multiplexer σ η}
    (started : Multiplexer.start patience signer options s = some (.ok m))
    (turns : List (Turn σ η)) (alive : (m.live turns).service.failed = false)
    (envelope : Envelope) (command : Command) (value : Bytes) (handler : Option η)
    (fits : Frame.checkLengths ((m.live turns).service.outbox.sealed envelope
      (Outbox.addressed command (m.live turns).service.outbox.nextSequence
        (m.live turns).service.connectionId)).encode.length value.length = .ok ()) :
    let service := (m.live turns).service
    let after := (service.submit envelope command value handler).2.2
    ∃ request part decoded,
      service.submit envelope command value handler = (service.nextKey, [], after) ∧
      after.outbox.queue = service.outbox.queue ++ [request] ∧
      request.sequence = service.outbox.nextSequence ∧ request.key = service.nextKey ∧
      request.handler = handler ∧
      (∀ max, part.length + value.length ≤ max →
        Frame.parse max request.frame = ([.frame ⟨part, value⟩], [])) ∧
      Envelope.decode part = .ok decoded ∧
      decoded.auth = envelope.auth ∧ decoded.pin = envelope.pin ∧
      decoded.inner = .ok ({ command with
        header := { command.header with
          sequence := some request.sequence
          connectionId := service.connectionId } } : Command).withoutDeviceLog ∧
      (envelope.auth = .hmac →
        (∃ digest, decoded.signed = some ⟨options.userId, digest⟩) ∧
        (signer.sign decoded.command options.hmacKey ≠ [] →
          signer.verifies options.hmacKey decoded = true)) ∧
      (envelope.auth ≠ .hmac → decoded.signed = envelope.signed) := by
  intro service after
  have working : service.outbox.failed = false :=
    ((Multiplexer.coherent_of_start started).live turns).outbox alive
  obtain ⟨signer_eq, identity_eq, key_eq⟩ := Multiplexer.signsAs_of_start started turns
  obtain ⟨part_le, value_le⟩ := Frame.checkLengths_eq_ok_iff.mp fits
  have addressable : Bytes.Addressable _ := Nat.lt_of_le_of_lt part_le (by decide)
  have prepared := Outbox.prepare_of_fits working fits handler service.nextKey
  have submitted := Multiplexer.submit_of_alive alive envelope command value handler
  rw [Outbox.enqueue, prepared] at submitted
  have after_eq : after = _ := congrArg (·.2.2) submitted
  let decoded := service.outbox.sealed envelope
    (Outbox.addressed command service.outbox.nextSequence service.connectionId)
  refine ⟨⟨Frame.encode ⟨decoded.encode, value⟩, service.outbox.nextSequence, service.nextKey,
    handler⟩, decoded.encode, decoded, ?_, ?_, rfl, rfl, rfl, ?_, ?_, rfl, rfl, ?_, ?_, ?_⟩
  · rw [after_eq]
    exact submitted
  · rw [after_eq]
  · exact fun max le => Frame.parse_encode ⟨part_le, value_le, le⟩
  · have read := Envelope.decode_append addressable []
    rwa [List.append_nil] at read
  · exact Outbox.inner_sealed addressable
  · intro hmac
    rw [← identity_eq, ← signer_eq, ← key_eq]
    exact ⟨⟨_, Outbox.signed_sealed_of_hmac hmac⟩, Outbox.verifies_sealed hmac⟩
  · exact Outbox.signed_sealed_of_ne

/-! ## A request that is signed -/

section Signed

open Simulation (Drive)

/-- A connection that has sent one request, and is asked to send a command with **everything in it
that a command can have to be changed**: another number, the number of another connection, and the
contents of a vendor's own log. -/
def Command.unaddressed : Command :=
  { Command.deviceLogged with header := { connectionId := some 9, sequence := some 77 } }

/-- The second request of a quiet connection is **read with its own number**, and its digest is
right. -/
theorem drive_reads_submission_signed :
    ∃ (m : Multiplexer Drive Nat) (request : QueuedRequest Nat) (part : Bytes) (decoded : Envelope),
      Multiplexer.start 2 (.constant [7]) { hmacKey := [1] } quietDrive = some (.ok m) ∧
      (m.live quietTurns).service.failed = false ∧
      ((m.live quietTurns).service.submit .hmac Command.unaddressed [5, 6] none).2.2.outbox.queue =
        [request] ∧
      Frame.parse (part.length + 2) request.frame = ([.frame ⟨part, [5, 6]⟩], []) ∧
      Envelope.decode part = .ok decoded ∧
      decoded.inner = .ok ({ Command.unaddressed with
        header := { connectionId := none, sequence := some 2 } } : Command).withoutDeviceLog ∧
      (Signer.constant [7]).verifies [1] decoded = true := by
  have check : ((Multiplexer.start 2 (.constant [7]) { hmacKey := [1] } quietDrive :
      Option (Except Failure (Multiplexer Drive Nat))).any fun started =>
      started.toOption.any fun m =>
        let service := (m.live quietTurns).service
        decide (service.failed = false ∧ service.outbox.queue.map QueuedRequest.key = [] ∧
          service.outbox.nextSequence = 2 ∧ service.connectionId = none ∧
          (service.outbox.sealed .hmac (Outbox.addressed Command.unaddressed
            service.outbox.nextSequence service.connectionId)).encode.length ≤ 1000)) = true := by
    decide +kernel
  obtain ⟨m, started, check⟩ := exists_started check
  obtain ⟨alive, queue_eq, sequence_eq, connectionId_eq, short⟩ := of_decide_eq_true check
  have value_le : [5, 6].length ≤ Frame.maxPartSize := by decide
  have part_le : 1000 ≤ Frame.maxPartSize := by decide
  have fits := Frame.checkLengths_eq_ok_iff.mpr ⟨Nat.le_trans short part_le, value_le⟩
  obtain ⟨request, part, decoded, -, queued, number, -, -, parsed, read, -, -, inner, signed, -⟩ :=
    drive_reads_submission started quietTurns alive .hmac Command.unaddressed [5, 6] none fits
  rw [List.map_eq_nil_iff.mp queue_eq] at queued
  rw [number, sequence_eq, connectionId_eq] at inner
  exact ⟨m, request, part, decoded, started, alive, queued, parsed _ (Nat.le_refl _), read, inner,
    (signed rfl).2 (List.cons_ne_nil _ _)⟩

end Signed

end DriveLink
