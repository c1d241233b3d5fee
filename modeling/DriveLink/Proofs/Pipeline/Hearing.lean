import DriveLink.Proofs.Pipeline.Outflow
import DriveLink.Proofs.Pipeline.Submission

/-! # The stream as the drive hears it

To its drive, a connection is a stream of bytes. The drive parses it, frame after frame, and opens
the envelope and the command in each. What it comes to are the requests that have been written
entirely, in the order in which they were submitted, each with its number and the number of the
connection in its header.

* `heardIn` — the requests in a stream;
* `Frame.Heard`, `heardIn_of_heard` — frames one behind the other are heard one by one;
* `Outbox.heard_of_frameOf` — a request is heard as it was submitted;
* `QueuedRequest.heard?` — what is heard of a request;
* `Written.exists_whole` — what is heard of all that a connection has written. -/

namespace DriveLink

open Simulation (HeardRequest)

variable {σ η : Type}

/-! ## Requests in a stream -/

/-- The request in what reading came to, if there is one. -/
def ReadOutcome.request? : ReadOutcome → Option HeardRequest
  | frame content => Simulation.Drive.requestIn content
  | _ => none

/-- **The requests in a stream** of bytes, as somebody hears them who reads frames of any size. The
bytes of a frame that is not whole yet hold none. -/
def heardIn (stream : Bytes) : List HeardRequest :=
  (Frame.parse stream.length stream).1.filterMap ReadOutcome.request?

namespace Frame

/-- The bytes of a frame that fits, in which a **request is heard**. -/
def Heard (bytes : Bytes) (request : HeardRequest) : Prop :=
  ∃ frame : Frame, bytes = frame.encode ∧
    checkLengths frame.command.length frame.value.length = .ok () ∧
    Simulation.Drive.requestIn frame = some request

/-- A frame **of which the end is missing** is none. -/
theorem parseOne_eq_none {frame : Frame}
    (fits : checkLengths frame.command.length frame.value.length = .ok ()) {part left : Bytes}
    (frame_eq : part ++ left = frame.encode) (short : left ≠ []) (max : Nat) :
    parseOne max part = none := by
  cases parsed : parseOne max part with
  | none => rfl
  | some found =>
    obtain ⟨outcome, rest⟩ := found
    have whole := whole_encode_of_checkLengths fits max
    cases ends : outcome.endsFrame with
    | true =>
      -- a whole frame in front of the part would be the frame itself
      obtain ⟨bytes, rfl, front⟩ := whole_of_parseOne parsed ends
      have same := parseOne_whole front (rest ++ left)
      rw [← List.append_assoc, frame_eq, ← List.append_nil frame.encode,
        parseOne_whole whole []] at same
      have rest_eq := congrArg Prod.snd (Option.some.inj same)
      exact absurd (List.append_eq_nil_iff.mp rest_eq.symm).2 short
    | false =>
      -- the part begins as a frame does
      cases part with
      | nil => cases parsed
      | cons found part =>
        have magic_eq : found = magic := by
          rw [List.cons_append, encode, List.cons.injEq] at frame_eq
          exact frame_eq.1
        rw [parseOne, if_neg (not_not.mpr magic_eq)] at parsed
        simp only at parsed
        split at parsed
        · cases parsed
        · cases parsed
          rw [endsFrame_verdict] at ends
          cases ends

/-- **Frames one behind the other** are parsed one by one, up to a part of one. -/
theorem parse_of_heard {max : Nat} {parts : List Bytes} {requests : List HeardRequest}
    (heard : List.Forall₂ Heard parts requests) {part : Bytes}
    (short : parseOne max part = none) (fits : parts.flatten.length ≤ max) :
    (parse max (parts.flatten ++ part)).1.filterMap ReadOutcome.request? = requests := by
  induction heard with
  | nil =>
    rw [List.flatten_nil, List.nil_append, parse_of_none short]
    rfl
  | @cons bytes request parts requests first others ih =>
    obtain ⟨frame, rfl, lengths, found⟩ := first
    obtain ⟨command_le, value_le⟩ := checkLengths_eq_ok_iff.mp lengths
    rw [List.flatten_cons, List.length_append, length_encode] at fits
    rw [List.flatten_cons, List.append_assoc,
      parse_whole (whole_encode ⟨command_le, value_le, by omega⟩)]
    have first : ReadOutcome.request? (.frame frame) = some request := found
    rw [List.filterMap_cons_some first, ih (by omega)]

end Frame

/-- **Requests one behind the other** are heard one by one, and of a part of one nothing is. -/
theorem heardIn_of_heard {parts : List Bytes} {requests : List HeardRequest}
    (heard : List.Forall₂ Frame.Heard parts requests) {part : Bytes}
    (short : ∀ max, Frame.parseOne max part = none) :
    heardIn (parts.flatten ++ part) = requests := by
  refine Frame.parse_of_heard heard (short _) ?_
  rw [List.length_append]
  omega

/-! ## What is heard of a request -/

/-- A request is **heard as it was submitted**, in the form that is written. -/
theorem Outbox.heard_of_frameOf {outbox : Outbox η} {envelope : Envelope} {command : Command}
    {value bytes : Bytes} (framed : outbox.frameOf envelope command value = .ok bytes) :
    Frame.Heard bytes ⟨command.withoutDeviceLog, value⟩ := by
  rw [frameOf] at framed
  split at framed
  · rename_i fits
    cases framed
    refine ⟨_, rfl, fits, ?_⟩
    have addressable : Bytes.Addressable (outbox.sealed envelope command).encode :=
      Nat.lt_of_le_of_lt (Frame.checkLengths_eq_ok_iff.mp fits).1 (by decide)
    have read := Envelope.decode_append addressable []
    rw [List.append_nil] at read
    rw [Simulation.Drive.requestIn, read]
    simp only
    rw [inner_sealed addressable]
  · cases framed

namespace QueuedRequest

/-- What is **heard of a request** that is framed. -/
def heard? (request : QueuedRequest η) : Option HeardRequest := (heardIn request.frame).head?

theorem heard?_of_heard {request : QueuedRequest η} {heard : HeardRequest}
    (h : Frame.Heard request.frame heard) : request.heard? = some heard := by
  have all : heardIn ([request.frame].flatten ++ []) = [heard] :=
    heardIn_of_heard (.cons h .nil) fun _ => rfl
  rw [List.flatten_singleton, List.append_nil] at all
  rw [heard?, all]
  rfl

end QueuedRequest

/-- **Requests one behind the other**, each with what is heard of it. -/
theorem forall₂_heard {requests : List (QueuedRequest η)}
    (framed : ∀ request ∈ requests, ∃ heard, Frame.Heard request.frame heard) :
    List.Forall₂ Frame.Heard (requests.map QueuedRequest.frame)
      (requests.filterMap QueuedRequest.heard?) := by
  induction requests with
  | nil => exact .nil
  | cons request requests ih =>
    obtain ⟨first, others⟩ := List.forall_mem_cons.mp framed
    obtain ⟨heard, frame⟩ := first
    rw [List.map_cons, List.filterMap_cons_some (QueuedRequest.heard?_of_heard frame)]
    exact .cons frame (ih others)

/-! ## What is heard of a connection -/

/-- **What is heard of all that a connection has written**: the requests that are out, and the one
that has been begun if no byte of it is missing. -/
theorem Written.exists_whole {past : List (Event η)} {m : Multiplexer σ η}
    {out begun : List (QueuedRequest η)} {rest : List (Int64 × UInt8)}
    (h : Written past m out begun rest)
    (framed : ∀ request ∈ out ++ begun, ∃ heard, Frame.Heard request.frame heard) :
    ∃ whole part, (whole = out ∨ whole = out ++ begun) ∧
      Event.wire past = whole.flatMap QueuedRequest.wire ++ part ∧
      heardIn ((Event.wire past).map Prod.snd) = whole.filterMap QueuedRequest.heard? := by
  have hears {whole : List (QueuedRequest η)} {part : List (Int64 × UInt8)}
      (inside : ∀ request ∈ whole, request ∈ out ++ begun)
      (wire : Event.wire past = whole.flatMap QueuedRequest.wire ++ part)
      (short : ∀ max, Frame.parseOne max (part.map Prod.snd) = none) :
      heardIn ((Event.wire past).map Prod.snd) = whole.filterMap QueuedRequest.heard? := by
    rw [wire, List.map_append, map_snd_wire, List.flatMap_def]
    exact heardIn_of_heard (forall₂_heard fun request mem => framed request (inside request mem))
      short
  -- a request of which all bytes are taken is heard, whether it is out or not
  have begins {request : QueuedRequest η} {bytes left : Bytes} (begun_eq : begun = [request])
      (rest_eq : rest = labelled request.sequence bytes)
      (frame_eq : bytes ++ left = request.frame) :
      ∃ whole part, (whole = out ∨ whole = out ++ begun) ∧
        Event.wire past = whole.flatMap QueuedRequest.wire ++ part ∧
        heardIn ((Event.wire past).map Prod.snd) = whole.filterMap QueuedRequest.heard? := by
    by_cases short : left = []
    · have wire : Event.wire past = (out ++ begun).flatMap QueuedRequest.wire ++ [] := by
        rw [short, List.append_nil] at frame_eq
        rw [h.wire, rest_eq, frame_eq, begun_eq, List.flatMap_append, List.flatMap_singleton,
          List.append_nil]
        rfl
      exact ⟨_, _, .inr rfl, wire, hears (fun _ mem => mem) wire fun _ => rfl⟩
    · refine ⟨out, rest, .inl rfl, h.wire,
        hears (fun _ mem => List.mem_append_left _ mem) h.wire fun max => ?_⟩
      obtain ⟨heard, frame, encoded, fits, -⟩ :=
        framed request (List.mem_append_right _ (begun_eq ▸ List.mem_singleton_self _))
      rw [rest_eq, labelled, List.map_map]
      have same : bytes.map (Prod.snd ∘ (request.sequence, ·)) = bytes := List.map_id _
      rw [same]
      exact Frame.parseOne_eq_none fits (frame_eq.trans encoded) short max
  cases h.current with
  | idle free =>
    exact ⟨out, [], .inl rfl, h.wire,
      hears (fun _ mem => List.mem_append_left _ mem) h.wire fun _ => rfl⟩
  | writing request current frame_eq => exact begins rfl rfl frame_eq
  | broken request failed free frame_eq => exact begins rfl rfl frame_eq

namespace Multiplexer

variable [Channel σ]

/-- What is heard of a request that is **submitted in a turn**: the command, with its number and the
number of the connection. -/
theorem exists_heard_of_queued {m : Multiplexer σ η} {turn : Turn σ η}
    {request : QueuedRequest η} (mem : .queued request ∈ (m.turn turn).events) :
    ∃ envelope command value handler, turn = .submit envelope command value handler ∧
      Frame.Heard request.frame
        ⟨(Outbox.addressed command request.sequence m.connectionId).withoutDeviceLog, value⟩ := by
  obtain ⟨envelope, command, value, handler, turn_eq, -, prepared⟩ := prepare_of_queued mem
  obtain ⟨-, frame, framed, rfl⟩ := Outbox.exists_frame_of_prepare prepared
  exact ⟨envelope, command, value, handler, turn_eq, Outbox.heard_of_frameOf framed⟩

/-- **Of every request that is queued** in a life something is heard. -/
theorem exists_heard_of_live {m : Multiplexer σ η} {turns : List (Turn σ η)}
    {request : QueuedRequest η} (mem : .queued request ∈ (m.live turns).events) :
    ∃ heard, Frame.Heard request.frame heard := by
  obtain ⟨before, turn, after, -, queued⟩ := exists_turn mem
  obtain ⟨_, _, _, _, _, heard⟩ := exists_heard_of_queued queued
  exact ⟨_, heard⟩

end Multiplexer

end DriveLink
