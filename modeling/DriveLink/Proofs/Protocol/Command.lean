import DriveLink.Proofs.Protocol.Push

/-! # Commands and envelopes

The form of a command leaves out one thing, the contents of a vendor's own log, which travel beside
the command. Apart from that every command and every envelope is read back from its bytes, whatever
follows them; nothing but those bytes is read as it; and of bytes cut short nothing is said but that
they ended.

* `Command.withoutDeviceLog` — what is left of a command that was written;
* `Command.readBack` — a command is read back but for the vendor's log;
* `decode_encode_append` — commands and envelopes survive being written;
* `canonical_and_cut_short` — they have one form each, and no part of it is taken for another. -/

namespace DriveLink

open Wire (Delimited Lossless Persists ReadBack)

/-! ## What is written of a log -/

/-- A drive log **without the vendor's own log**. -/
def DriveLog.withoutDeviceLog (log : DriveLog) : DriveLog := { log with deviceLog := none }

/-- A body without the vendor's own log. -/
def Body.withoutDeviceLog : Body → Body
  | .log request => .log { request with log := request.log.withoutDeviceLog }
  | body => body

/-- A command **without the vendor's own log**, which is all that is written of it. -/
def Command.withoutDeviceLog (command : Command) : Command :=
  { command with body := command.body.withoutDeviceLog }

instance : Delimited DriveLog := .via fun _ => rfl

instance : Delimited LogRequest := .via fun _ => rfl

theorem DriveLog.readBack (log : DriveLog) (addressable : (Wire.encode log).Addressable) :
    ReadBack log log.withoutDeviceLog :=
  .via (Lossless.readBack (Fields.tuple log) addressable) rfl

theorem LogRequest.readBack (request : LogRequest)
    (addressable : (Wire.encode request).Addressable) :
    ReadBack request { request with log := request.log.withoutDeviceLog } := by
  have length_eq : (Wire.encode request).length =
      (Wire.encode request.types).length + (Wire.encode request.log).length := List.length_append
  exact .via (.pair (Lossless.readBack request.types (addressable.of_le (by omega)))
    (request.log.readBack (addressable.of_le (by omega)))) rfl

/-! ## Bodies -/

namespace Body

variable {α : Type} {bytes rest : Bytes}

theorem read_append [Wire α] (make : α → Body) {content kept : α} (h : ReadBack content kept)
    (rest : Bytes) :
    decodeContent.read (Wire.encode content ++ rest) make = .ok (make kept, rest) := by
  rw [decodeContent.read, h]

theorem exists_of_read [Wire α] {make : α → Body} {body : Body}
    (h : decodeContent.read bytes make = .ok (body, rest)) :
    ∃ content, Wire.decode bytes = .ok (content, rest) ∧ body = make content := by
  unfold decodeContent.read at h
  split at h
  · rename_i content rest' read
    cases h
    exact ⟨content, read, rfl⟩
  · cases h

theorem persists_read [Wire α] [Delimited α] (make : α → Body) (bytes more : Bytes) :
    Persists more (decodeContent.read bytes make) (decodeContent.read (bytes ++ more) make) := by
  have persists := Delimited.extends_self (α := α) bytes more
  unfold decodeContent.read
  generalize Wire.decode (α := α) bytes = read, Wire.decode (α := α) (bytes ++ more) = later
    at persists ⊢
  cases persists with
  | ok content rest => exact .ok (make content) rest
  | error e => exact .error e
  | ended early => exact .ended early _

/-- What a body holds is **read back** by the number of its shape. -/
theorem decodeContent_append (body : Body) (addressable : body.encodeContent.Addressable)
    (rest : Bytes) :
    decodeContent body.variant (body.encodeContent ++ rest) =
      .ok (body.withoutDeviceLog, rest) := by
  cases body with
  | empty => rfl
  | keyValue kv => exact read_append Body.keyValue (Lossless.readBack kv addressable) rest
  | range bounds => exact read_append Body.range (Lossless.readBack bounds addressable) rest
  | setup change => exact read_append Body.setup (Lossless.readBack change addressable) rest
  | security change => exact read_append Body.security (Lossless.readBack change addressable) rest
  | log request => exact read_append Body.log (request.readBack addressable) rest
  | push copies => exact read_append Body.push (Lossless.readBack copies addressable) rest
  | pin action => exact read_append Body.pin (Lossless.readBack action addressable) rest
  | batch closing => exact read_append Body.batch (Lossless.readBack closing addressable) rest

/-- A body that is read **has the shape that was asked for**, and its bytes are those that stood
there. -/
theorem eq_of_decodeContent {variant : Nat} {body : Body}
    (h : decodeContent variant bytes = .ok (body, rest)) :
    body.variant = variant ∧ bytes = body.encodeContent ++ rest := by
  unfold decodeContent at h
  split at h
  case h_1 =>
    cases h
    exact ⟨rfl, rfl⟩
  case h_10 => cases h
  all_goals
    obtain ⟨content, read, rfl⟩ := exists_of_read h
    exact ⟨rfl, Delimited.canonical read⟩

theorem persists_decodeContent (variant : Nat) (bytes more : Bytes) :
    Persists more (decodeContent variant bytes) (decodeContent variant (bytes ++ more)) := by
  rcases variant with _ | _ | _ | _ | _ | _ | _ | _ | _ | other
  · exact .ok Body.empty bytes
  · exact persists_read Body.keyValue bytes more
  · exact persists_read Body.range bytes more
  · exact persists_read Body.setup bytes more
  · exact persists_read Body.security bytes more
  · exact persists_read Body.log bytes more
  · exact persists_read Body.push bytes more
  · exact persists_read Body.pin bytes more
  · exact persists_read Body.batch bytes more
  · exact .error _

theorem decode_of_ok {variant : UInt32} (h : Wire.decode bytes = .ok (variant, rest)) :
    Wire.decode (α := Body) bytes = decodeContent variant.toNat rest := by
  unfold Wire.decode instWireBody
  dsimp only
  rw [h]

theorem decode_of_error {e : DecodeError} (h : Wire.decode (α := UInt32) bytes = .error e) :
    Wire.decode (α := Body) bytes = .error e := by
  unfold Wire.decode instWireBody
  dsimp only
  rw [h]

theorem variant_lt (body : Body) : body.variant < 2 ^ 32 := by
  cases body <;> simp [variant]

end Body

instance : Delimited Body where
  encode_ne_nil _ := List.append_ne_nil_of_left_ne_nil (Delimited.encode_ne_nil (α := UInt32) _) _
  canonical {bytes rest body} read := by
    obtain ⟨variant, between, variant_eq⟩ :=
      Wire.exists_first (α := UInt32) Body.decode_of_error read
    rw [Body.decode_of_ok variant_eq] at read
    obtain ⟨shape_eq, rfl⟩ := Body.eq_of_decodeContent read
    rw [Delimited.canonical variant_eq, ← List.append_assoc, ← variant.ofNat_toNat, ← shape_eq]
    rfl
  extends_self bytes more := by
    refine .of_first (α := UInt32) Body.decode_of_error Body.decode_of_error ?_
    intro variant rest variant_eq later_eq
    rw [Body.decode_of_ok variant_eq, Body.decode_of_ok later_eq]
    exact Body.persists_decodeContent variant.toNat rest more

theorem Body.readBack (body : Body) (addressable : (Wire.encode body).Addressable) :
    ReadBack body body.withoutDeviceLog := by
  intro rest
  have length_eq : (Wire.encode body).length =
      (Wire.encode (UInt32.ofNat body.variant)).length + body.encodeContent.length :=
    List.length_append
  have bytes_eq : Wire.encode body ++ rest =
      Wire.encode (UInt32.ofNat body.variant) ++ (body.encodeContent ++ rest) :=
    List.append_assoc _ _ _
  rw [bytes_eq, decode_of_ok (Wire.readBack_word32 _ _), UInt32.toNat_ofNat_of_lt' body.variant_lt]
  exact body.decodeContent_append (addressable.of_le (by omega)) rest

/-! ## Commands -/

instance : Delimited Command := .via fun _ => rfl

/-- A command is **read back** but for the vendor's log. -/
theorem Command.readBack (command : Command) (addressable : command.encode.Addressable) :
    ReadBack command command.withoutDeviceLog := by
  have length_eq : command.encode.length = (Wire.encode command.header).length +
      ((Wire.encode command.body).length + (Wire.encode command.status).length) := by
    rw [← List.length_append, ← List.length_append]
    rfl
  exact .via (.pair (Lossless.readBack command.header (addressable.of_le (by omega))) <|
    .pair (command.body.readBack (addressable.of_le (by omega)))
      (Lossless.readBack command.status (addressable.of_le (by omega)))) rfl

/-! ## Envelopes -/

/-- The command in an envelope takes up **some of its bytes**. -/
theorem Envelope.length_command_le (envelope : Envelope) :
    envelope.command.length ≤ envelope.encode.length := by
  have length_eq : envelope.encode.length = (Wire.encode envelope.auth).length +
      ((Wire.encode envelope.signed).length + ((Wire.encode envelope.pin).length +
        ((Wire.encodeCount envelope.command.length).length +
          (envelope.command.flatMap Wire.encode).length))) := by
    simp only [← List.length_append]
    rfl
  have := Wire.length_le_length_flatMap Wire.Delimited.encode_ne_nil envelope.command
  omega

/-! ## Reading off the front -/

theorem Wire.decodeFront_of_ok {α : Type} [Wire α] {bytes rest : Bytes} {value : α}
    (h : Wire.decode bytes = .ok (value, rest)) : Wire.decodeFront bytes = .ok value := by
  rw [Wire.decodeFront, h]

theorem Wire.decodeFront_of_error {α : Type} [Wire α] {bytes : Bytes} {e : DecodeError}
    (h : Wire.decode (α := α) bytes = .error e) : Wire.decodeFront (α := α) bytes = .error e := by
  rw [Wire.decodeFront, h]

/-- What is read off the front of some bytes **is written the way they begin**. -/
theorem Wire.encode_prefix_of_decodeFront {α : Type} [Wire α] [Delimited α] {bytes : Bytes}
    {value : α} (h : Wire.decodeFront bytes = .ok value) : Wire.encode value <+: bytes := by
  unfold Wire.decodeFront at h
  split at h
  · rename_i value' rest read
    cases h
    exact ⟨rest, (Delimited.canonical read).symm⟩
  · cases h

theorem DecodeError.message_of_endOfInput {e : DecodeError} (h : e.endOfInput = true) :
    e.message = "io error: unexpected end of file" ∨ e.message = "io error: " := by
  cases e with
  | inputEnded => exact .inl rfl
  | textCutShort => exact .inr rfl
  | _ => cases h

theorem Command.decode_append {command : Command} (addressable : command.encode.Addressable)
    (rest : Bytes) : Command.decode (command.encode ++ rest) = .ok command.withoutDeviceLog :=
  Wire.decodeFront_of_ok (command.readBack addressable rest)

theorem Envelope.decode_append {envelope : Envelope} (addressable : envelope.encode.Addressable)
    (rest : Bytes) : Envelope.decode (envelope.encode ++ rest) = .ok envelope :=
  Wire.decodeFront_of_ok (Lossless.readBack envelope addressable rest)

/-- **Commands and envelopes survive being written**: whatever bytes follow, a command is read back
but for the contents of a vendor's own log, and an envelope is read back. The bytes are no more than
a machine can hold, since the counts among them are words. -/
theorem decode_encode_append :
    (∀ (command : Command) (rest : Bytes), command.encode.Addressable →
      Command.decode (command.encode ++ rest) = .ok command.withoutDeviceLog) ∧
    ∀ (envelope : Envelope) (rest : Bytes), envelope.encode.Addressable →
      Envelope.decode (envelope.encode ++ rest) = .ok envelope := by
  constructor
  · intro command rest addressable
    exact Command.decode_append addressable rest
  · intro envelope rest addressable
    exact Envelope.decode_append addressable rest

/-- A copy to a peer that is to copy it on to another. -/
def Command.relay : Command where
  header := { connectionId := some 7, sequence := some (-1), messageType := some .peerToPeerPush }
  body := .push
    { peer := { hostname := "near", port := 8123 }
      operations := [
        { key := [1, 2], version := none, newKey := some [3], force := true, status := none
          nested := some
            { peer := { hostname := "far", port := 8123, tls := true }
              operations := []
              allSucceeded := some false } }]
      allSucceeded := none }

/-- A response with the name and the contents of a vendor's own log. -/
def Command.deviceLogged : Command where
  header := { ackSequence := some 4 }
  body := .log { log := { deviceName := some [100], deviceLog := some [1, 2, 3] } }
  status := some { code := .success, message := some "" }

/-- A command and how it is signed. -/
def Envelope.signedRelay : Envelope where
  auth := .hmac
  signed := some { identity := 1, digest := [9, 9] }
  command := Command.relay.encode

theorem decode_encode_append_relay :
    Command.decode (Command.relay.encode ++ [0, 255]) = .ok Command.relay ∧
    Command.decode (Command.deviceLogged.encode ++ []) =
      .ok Command.deviceLogged.withoutDeviceLog ∧
    Envelope.decode (Envelope.signedRelay.encode ++ [5]) = .ok Envelope.signedRelay :=
  ⟨decode_encode_append.1 Command.relay [0, 255] (by rw [Bytes.Addressable]; decide +kernel),
    decode_encode_append.1 Command.deviceLogged [] (by rw [Bytes.Addressable]; decide +kernel),
    decode_encode_append.2 Envelope.signedRelay [5] (by rw [Bytes.Addressable]; decide +kernel)⟩

/-- **The form of a command is canonical and no part of it is a form**: what is read off the front
of any bytes is written the way they begin, and of the bytes of a command cut short anywhere it is
only said that they ended. -/
theorem canonical_and_cut_short :
    (∀ (bytes : Bytes) (command : Command), Command.decode bytes = .ok command →
      command.encode <+: bytes) ∧
    (∀ (bytes : Bytes) (envelope : Envelope), Envelope.decode bytes = .ok envelope →
      envelope.encode <+: bytes) ∧
    ∀ (command : Command) (front : Bytes), command.encode.Addressable →
      front <+: command.encode → front ≠ command.encode →
      ∃ e, Command.decode front = .error e ∧
        (e.message = "io error: unexpected end of file" ∨ e.message = "io error: ") := by
  refine ⟨fun _ _ read => Wire.encode_prefix_of_decodeFront read,
    fun _ _ read => Wire.encode_prefix_of_decodeFront read, ?_⟩
  intro command front addressable begins cut
  obtain ⟨e, read, early⟩ := (command.readBack addressable).exists_error begins cut
  exact ⟨e, Wire.decodeFront_of_error read, e.message_of_endOfInput early⟩

theorem canonical_and_cut_short_relay :
    Command.encode {} <+: List.replicate 14 0 ++ [9] ∧
    Envelope.encode { auth := .pin } <+: [1, 0, 0, 0] ++ List.replicate 10 0 ∧
    ∃ e, Command.decode (Command.relay.encode.take 50) = .error e ∧
      (e.message = "io error: unexpected end of file" ∨ e.message = "io error: ") :=
  ⟨canonical_and_cut_short.1 (List.replicate 14 0 ++ [9]) {} rfl,
    canonical_and_cut_short.2.1 ([1, 0, 0, 0] ++ List.replicate 10 0) { auth := .pin } rfl,
    canonical_and_cut_short.2.2 Command.relay (Command.relay.encode.take 50)
      (by rw [Bytes.Addressable]; decide +kernel) (List.take_prefix _ _) (by decide +kernel)⟩

end DriveLink
