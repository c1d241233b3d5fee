import DriveLink.Channel.Basic
import DriveLink.Simulation.Script
import DriveLink.Simulation.Source

/-! # A simulated drive

A drive in memory that follows a script: it delivers what is queued, piece by piece, takes what is
written as far as it is told to, and answers each request that it can read with the next entry of
its script. It is a channel, and it can be waited for: time passes for it only while somebody
waits or tries to read in vain.

* `Drive` — the drive's state, and its instances of `Channel` and `Pollable`;
* `Drive.push` — queues more for delivery;
* `Drive.unread` — how many bytes are queued. -/

namespace DriveLink.Simulation

/-- How **one write** is limited. -/
inductive WriteScript
  | upTo (count : Nat)
  | block
  | zero
  | fail (text : String)

/-- How **one flush** goes. -/
inductive FlushScript
  | done
  | block
  | fail (text : String)

/-- The **state of a drive**. -/
structure Drive where
  /-- The key that it signs with. -/
  key : Bytes
  /-- What is queued for delivery. -/
  queue : List Delivery := []
  /-- The most bytes that one read gets. -/
  readChunk : Option Nat := none
  /-- The most bytes that one write takes. -/
  writeChunk : Option Nat := none
  /-- How many bytes writes may still take. -/
  writeBudget : Option Nat := none
  writes : List WriteScript := []
  flushes : List FlushScript := []
  /-- How reads fail once the queue is empty. -/
  failReads : Option String := none
  failWrites : Option String := none
  /-- Whether the drive has closed the connection. -/
  closed : Bool := false
  /-- Whether the drive closes the connection once it has answered a request. -/
  hangsUp : Bool := false
  /-- Whether it is about to. -/
  hangingUp : Bool := false
  /-- The answers to the next requests. -/
  replies : List (List Item) := []
  /-- The answer to every request after those. -/
  reply : List Item := []
  /-- What has been written of a frame that is not whole. -/
  unparsed : Array UInt8 := #[]
  /-- What has been written since somebody last looked. -/
  written : Array UInt8 := #[]
  source : Option Source := none
  /-- Nanoseconds since the drive came to be. -/
  clock : Nat := 0

/-- What somebody sees who **looks at** a drive: what has been written, and what has been asked of
its source. -/
structure Observation where
  written : Bytes
  log : List String

/-! ## What a drive delivers -/

/-- How many bytes some deliveries have. -/
def queuedBytes : List Delivery → Nat
  | [] => 0
  | delivery :: queue => delivery.size + queuedBytes queue

@[simp] theorem queuedBytes_nil : queuedBytes [] = 0 := rfl

@[simp] theorem queuedBytes_cons (delivery : Delivery) (queue : List Delivery) :
    queuedBytes (delivery :: queue) = delivery.size + queuedBytes queue := rfl

namespace Drive

/-- How many bytes are queued. -/
def unread (drive : Drive) : Nat := queuedBytes drive.queue

/-- **Queue** items for delivery. -/
def push (drive : Drive) (items : List Item) (request : Option HeardRequest) : Drive :=
  { drive with queue := drive.queue ++ items.flatMap fun item => item.render drive.key request }

/-- **Look at** what happened since somebody last looked. -/
def observe (drive : Drive) : Observation × Drive :=
  (⟨drive.written.toList, ((drive.source.map (·.log)).getD #[]).toList⟩,
    { drive with
      written := #[]
      source := drive.source.map fun source => { source with log := #[] } })

/-- The smaller of a number and a limit, if there is one. -/
def limited (n : Nat) (limit : Option Nat) : Nat := (limit.map (min n)).getD n

theorem limited_le (n : Nat) : (limit : Option Nat) → limited n limit ≤ n
  | none => Nat.le_refl n
  | some limit => Nat.min_le_left n limit

/-- How long a vain attempt to read takes, and how long it takes to learn that a source is ready:
10 µs. -/
def moment : Nat := 10000

/-- Let time pass. -/
def pass (drive : Drive) (nanoseconds : Nat) : Drive :=
  { drive with clock := drive.clock + nanoseconds }

/-- A read when **nothing is queued**. -/
def readEmpty (drive : Drive) {limit : Nat} : Transfer (Chunk limit) × Drive :=
  if drive.hangingUp then (.wouldBlock, { drive with hangingUp := false, closed := true })
  else
    match drive.failReads with
    | some text => (.failed (.told text), drive)
    | none =>
      if drive.closed then (.failed (.told "closed by drive"), drive)
      else (.wouldBlock, drive.pass moment)

/-- **Read** from the first delivery in the queue. An attempt that brings nothing takes time. -/
def read (drive : Drive) (limit : Nat) : Transfer (Chunk limit) × Drive :=
  match drive.queue with
  | [] => drive.readEmpty
  | .block :: queue => (.wouldBlock, { drive.pass moment with queue })
  | .zero :: queue => (.progress ⟨[], Nat.zero_le _⟩, { drive.pass moment with queue })
  | .fail text :: queue => (.failed (.told text), { drive with queue })
  | .bytes content :: queue =>
    let n := limited limit drive.readChunk
    let rest := content.drop n
    let drive := if n = 0 then drive.pass moment else drive
    (.progress ⟨content.take n, by
        rw [List.length_take]
        exact Nat.le_trans (Nat.min_le_left ..) (limited_le ..)⟩,
      { drive with queue := if rest.isEmpty then queue else .bytes rest :: queue })

/-- What is read is no longer queued. -/
theorem read_unread {drive drive' : Drive} {limit : Nat} {chunk : Chunk limit}
    (h : drive.read limit = (.progress chunk, drive')) :
    drive'.unread + chunk.bytes.length ≤ drive.unread := by
  unfold read at h
  split at h
  · unfold readEmpty at h
    repeat' split at h
    all_goals simp at h
  · simp at h
  · rename_i queue same
    simp only [Prod.mk.injEq, Transfer.progress.injEq] at h
    obtain ⟨rfl, rfl⟩ := h
    simp [unread, same, Delivery.size]
  · simp at h
  · rename_i content queue same
    simp only [Prod.mk.injEq, Transfer.progress.injEq] at h
    obtain ⟨rfl, rfl⟩ := h
    simp only [unread, same, queuedBytes_cons, Delivery.size, List.length_take]
    split
    · omega
    · simp only [queuedBytes_cons, Delivery.size, List.length_drop]
      omega

/-! ## What a drive takes -/

/-- **Answer a request** with the next entry of the script. -/
def answer (drive : Drive) (request : HeardRequest) : Drive :=
  let (items, replies) :=
    match drive.replies with
    | items :: replies => (items, replies)
    | [] => (drive.reply, [])
  let drive := { drive with replies, hangingUp := drive.hangingUp || drive.hangsUp }
  drive.push items (some request)

/-- The request in a frame, if there is one that the drive can read. -/
def requestIn (frame : Frame) : Option HeardRequest :=
  match Envelope.decode frame.command with
  | .error _ => none
  | .ok envelope =>
    match envelope.inner with
    | .error _ => none
    | .ok command => some ⟨command, frame.value⟩

/-- A number in some bytes. -/
def numberAt (bytes : Array UInt8) (start : Nat) : Nat :=
  Bytes.toNatBE (bytes.extract start (start + 4)).toList

/-- The length of the frame that the bytes begin with, if they have its header. -/
def frameLength? (bytes : Array UInt8) : Option Nat :=
  if bytes.size < Frame.headerSize then none
  else some (Frame.headerSize + numberAt bytes 1 + numberAt bytes 5)

/-- The frame that the bytes are. -/
def frameOf (bytes : Array UInt8) : Frame :=
  let split := Frame.headerSize + numberAt bytes 1
  ⟨(bytes.extract Frame.headerSize split).toList, (bytes.extract split bytes.size).toList⟩

/-- **Answer every request** in the bytes that have been written and not looked at. -/
def answerAll (drive : Drive) (bytes : Array UInt8) : Drive :=
  match frameLength? bytes with
  | none => { drive with unparsed := bytes }
  | some length =>
    if _whole : 0 < length ∧ length ≤ bytes.size then
      let drive :=
        match requestIn (frameOf (bytes.extract 0 length)) with
        | some request => drive.answer request
        | none => drive
      drive.answerAll (bytes.extract length bytes.size)
    else { drive with unparsed := bytes }
termination_by bytes.size
decreasing_by simp only [Array.size_extract]; omega

/-- **Take** so many of the bytes offered. -/
def take (drive : Drive) (offered : Bytes) (count : Nat) :
    Transfer (Taken offered.length) × Drive :=
  let front := offered.take count
  let bytes := drive.unparsed ++ front
  let drive := { drive with unparsed := #[], written := drive.written ++ front }
  (.progress ⟨front.length, List.length_take_le' ..⟩, drive.answerAll bytes)

/-- Take bytes as far as the **budget** allows. -/
def takeWithinBudget (drive : Drive) (offered : Bytes) (count : Nat) :
    Transfer (Taken offered.length) × Drive :=
  match drive.writeBudget with
  | none => drive.take offered count
  | some 0 => (.wouldBlock, drive)
  | some budget =>
    let taken := (offered.take (min count budget)).length
    { drive with writeBudget := some (budget - taken) }.take offered taken

/-- **Write**, as the script says. -/
def write (drive : Drive) (offered : Bytes) : Transfer (Taken offered.length) × Drive :=
  match drive.failWrites with
  | some text => (.failed (.told text), drive)
  | none =>
    let whole := drive.writeChunk.getD offered.length
    match drive.writes with
    | [] => drive.takeWithinBudget offered whole
    | .block :: writes => (.wouldBlock, { drive with writes })
    | .zero :: writes => (.progress ⟨0, Nat.zero_le _⟩, { drive with writes })
    | .fail text :: writes => (.failed (.told text), { drive with writes })
    | .upTo 0 :: writes => (.progress ⟨0, Nat.zero_le _⟩, { drive with writes })
    | .upTo count :: writes => { drive with writes }.takeWithinBudget offered (min whole count)

/-- **Flush**, as the script says. -/
def flush (drive : Drive) : Transfer Nat × Drive :=
  match drive.flushes with
  | [] => (.progress 0, drive)
  | .done :: flushes => (.progress 1, { drive with flushes })
  | .block :: flushes => (.wouldBlock, { drive with flushes })
  | .fail text :: flushes => (.failed (.told text), { drive with flushes })

end Drive

instance : Channel Drive where
  read := Drive.read
  write := Drive.write
  flush := Drive.flush
  inbound := Drive.unread
  read_inbound := Drive.read_unread

/-! ## Waiting for a drive -/

namespace Drive

/-- Call the source, if there is one. -/
def callSource (drive : Drive) (call : Source → Except IoError Unit × Source) :
    Except IoError Unit × Drive :=
  match drive.source with
  | none => (.ok (), drive)
  | some source =>
    let (result, source) := call source
    (result, { drive with source := some source })

end Drive

instance : Pollable Drive where
  now := Drive.clock
  sleep drive d := drive.pass d.nanoseconds
  hasSource drive := drive.source.isSome
  register drive registrar interest := drive.callSource fun s => s.register registrar interest
  reregister drive registrar interest := drive.callSource fun s => s.reregister registrar interest
  deregister drive registrar := drive.callSource fun s => s.deregister registrar
  poll drive timeout :=
    if drive.source.any Source.isReady then (.ok true, drive.pass Drive.moment)
    else (.ok false, drive.pass timeout.nanoseconds)

end DriveLink.Simulation
