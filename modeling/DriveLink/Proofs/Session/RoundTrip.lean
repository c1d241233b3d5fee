import DriveLink.Proofs.Pipeline.Conversation
import DriveLink.Proofs.Pipeline.Submission
import DriveLink.Session.Connection

/-! # Records on their way to a drive and back

A record that is put and got again makes a round trip: its fields go out in the body and the value
of a request, under names of their own, are kept by the drive under the key, and come back in the
body and the value of a response, under other names. What comes back is the record, whatever pieces
the channel cuts the frames into, and whether or not the owner waits for one answer before the next
request.

* `Kept`, `kept` — what a drive keeps under a key that has heard some requests;
* `Serves`, `Honest` — a drive that answers from what it keeps;
* `Keeper`, `Keeper.serves` — one that keeps records;
* `Connection.AtRest`, `Connection.ask` — a connection without traffic, and a request on it;
* `Connection.Asked`, `Asked.submit`, `Asked.runTimes` — requests one after the other, with runs in
  between;
* `record_round_trip` — a record is put, got, and asked for its version. -/

namespace DriveLink

open Simulation (HeardRequest)
open Exchange (Distinct)

variable {σ τ : Type} {speak : List HeardRequest → Bytes}

/-! ## What a drive keeps -/

/-- What a drive **keeps under a key**. -/
structure Kept where
  value : Bytes
  version : Option Bytes
  tag : Option Bytes
  algorithm : Option Algorithm

/-- The body of a request that has the type and **is about the key**. -/
def Simulation.HeardRequest.about? (heard : HeardRequest) (type : MessageType) (key : Bytes) :
    Option KeyValue :=
  heard.command.keyValue?.filter fun kv =>
    heard.command.header.messageType = some type ∧ kv.key = some key

/-- What is about a key **names it in its body**. -/
theorem exists_of_about {heard : HeardRequest} {type : MessageType} {key : Bytes}
    (about : heard.about? type key ≠ none) :
    ∃ kv, heard.command.keyValue? = some kv ∧ heard.command.header.messageType = some type ∧
      kv.key = some key := by
  obtain ⟨kv, about⟩ := Option.ne_none_iff_exists'.mp about
  obtain ⟨body, own⟩ := Option.filter_eq_some_iff.mp about
  exact ⟨kv, body, of_decide_eq_true own⟩

/-- **What a drive keeps under a key** that has heard some requests: what the last put says. -/
def kept (key : Bytes) (past : List HeardRequest) : Option Kept :=
  past.reverse.findSome? fun heard => (heard.about? .put key).map fun kv =>
    ⟨heard.value, kv.newVersion, kv.tag, kv.algorithm⟩

/-- A frame with which a drive **serves** a request that it has heard behind some others: a response
that reports success and shows what is asked for as the drive keeps it. -/
structure Serves (max : Nat) (signer : Signer) (hmacKey : Bytes) (past : List HeardRequest)
    (heard : HeardRequest) (answer : Frame) (response : Command) : Prop where
  fits : answer.Fits max
  answers : ∀ sequence, heard.command.header.sequence = some sequence →
    answer.Answers signer hmacKey sequence response
  success : response.isSuccess = true
  /-- Who gets a key, gets the key, the value and the other fields. -/
  shows : ∀ key entry, heard.about? .get key ≠ none → kept key past = some entry →
    answer.value = entry.value ∧ ∃ kv, response.keyValue? = some kv ∧ kv.key = some key ∧
      kv.dbVersion = entry.version ∧ kv.tag = entry.tag ∧ kv.algorithm = entry.algorithm
  /-- Who asks for the version, gets the version. -/
  tells : ∀ key entry, heard.about? .getVersion key ≠ none → kept key past = some entry →
    ∃ kv, response.keyValue? = some kv ∧ kv.dbVersion = entry.version

/-- **What the drive says** to each of some requests that it hears one after the other serves the
request. -/
def Honest (speak : List HeardRequest → Bytes) (max : Nat) (signer : Signer) (hmacKey : Bytes)
    (past : List HeardRequest) : List HeardRequest → Prop
  | [] => True
  | heard :: later =>
    (∃ answer response, speak (past ++ [heard]) = answer.encode ∧
      Serves max signer hmacKey past heard answer response) ∧
    Honest speak max signer hmacKey (past ++ [heard]) later

theorem honest_nil {max : Nat} {signer : Signer} {hmacKey : Bytes} {past : List HeardRequest} :
    Honest speak max signer hmacKey past [] := trivial

/-! ### A drive that keeps records -/

/-- A **drive that keeps what is put**: with what it signs its answers. -/
structure Keeper where
  signer : Signer
  hmacKey : Bytes

namespace Keeper

/-- **What it shows** to a request that it hears behind some others, and with which value. -/
def shown (past : List HeardRequest) (heard : HeardRequest) : Option (KeyValue × Bytes) := do
  let key ← heard.command.keyValue?.bind KeyValue.key
  let entry ← kept key past
  match heard.command.header.messageType with
  | some .get =>
    some
      ({ key := some key, dbVersion := entry.version, tag := entry.tag
         algorithm := entry.algorithm }, entry.value)
  | some .getVersion => some ({ dbVersion := entry.version }, [])
  | _ => none

/-- **What it reports** to the request: success, and what it shows. -/
def response (past : List HeardRequest) (heard : HeardRequest) : Command where
  header := { ackSequence := heard.command.header.sequence }
  body := (shown past heard).elim .empty fun shown => .keyValue shown.1
  status := some { code := .success }

/-- As whom it **signs**. -/
def signs (keeper : Keeper) : Outbox Unit :=
  { signer := keeper.signer, identity := 1, hmacKey := keeper.hmacKey }

/-- The frame with which it **answers**. -/
def answer (keeper : Keeper) (past : List HeardRequest) (heard : HeardRequest) : Frame :=
  ⟨(keeper.signs.sealed .hmac (response past heard)).encode, (shown past heard).elim [] Prod.snd⟩

/-- What it **says** to the last of some requests. -/
def talk (keeper : Keeper) (requests : List HeardRequest) : Bytes :=
  requests.getLast?.elim [] fun heard => (keeper.answer requests.dropLast heard).encode

variable {keeper : Keeper} {past : List HeardRequest} {heard : HeardRequest}

theorem talk_append : keeper.talk (past ++ [heard]) = (keeper.answer past heard).encode := by
  rw [talk, List.getLast?_concat, List.dropLast_concat]
  rfl

/-- There is nothing in the answer that **would not be sent**. -/
theorem withoutDeviceLog_response :
    (response past heard).withoutDeviceLog = response past heard := by
  unfold Command.withoutDeviceLog response
  cases shown past heard <;> rfl

/-- **What is shown** to who gets a key under which something is kept. -/
theorem shown_get {key : Bytes} {entry : Kept} (asks : heard.about? .get key ≠ none)
    (keeps : kept key past = some entry) :
    shown past heard =
      some
        ({ key := some key, dbVersion := entry.version, tag := entry.tag
           algorithm := entry.algorithm }, entry.value) := by
  obtain ⟨kv, body, type_eq, key_eq⟩ := exists_of_about asks
  simp [shown, body, key_eq, keeps, type_eq]

/-- **What is shown** to who asks for the version. -/
theorem shown_getVersion {key : Bytes} {entry : Kept} (asks : heard.about? .getVersion key ≠ none)
    (keeps : kept key past = some entry) :
    shown past heard = some ({ dbVersion := entry.version }, []) := by
  obtain ⟨kv, body, type_eq, key_eq⟩ := exists_of_about asks
  simp [shown, body, key_eq, keeps, type_eq]

/-- **A drive that keeps records serves** whatever it hears, as long as its signer makes digests and
its answers fit. -/
theorem serves {max : Nat} (digests : ∀ command, keeper.signer.sign command keeper.hmacKey ≠ [])
    (fits : (keeper.answer past heard).Fits max) :
    Serves max keeper.signer keeper.hmacKey past heard (keeper.answer past heard)
      (response past heard) where
  fits := fits
  answers sequence sequence_eq := by
    have addressable : (keeper.answer past heard).command.Addressable :=
      Nat.lt_of_le_of_lt fits.command_le (by decide)
    have decoded := Envelope.decode_append addressable []
    rw [List.append_nil] at decoded
    have verified : keeper.signer.verifies keeper.hmacKey
        (keeper.signs.sealed .hmac (response past heard)) = true :=
      @Outbox.verifies_sealed Unit keeper.signs _ _ rfl (digests _)
    have inner := Outbox.inner_sealed addressable
    rw [withoutDeviceLog_response] at inner
    exact .intro ⟨decoded, fun _ => verified⟩ inner sequence_eq
  success := rfl
  shows key entry asks keeps := by
    rw [answer, Command.keyValue?, response, shown_get asks keeps]
    exact ⟨rfl, _, rfl, rfl, rfl, rfl, rfl⟩
  tells key entry asks keeps := by
    rw [Command.keyValue?, response, shown_getVersion asks keeps]
    exact ⟨_, rfl, rfl⟩

/-- To **one request after the other**, such a drive is honest. -/
theorem honest_cons {max : Nat} {later : List HeardRequest}
    (digests : ∀ command, keeper.signer.sign command keeper.hmacKey ≠ [])
    (fits : (keeper.answer past heard).Fits max)
    (honest : Honest keeper.talk max keeper.signer keeper.hmacKey (past ++ [heard]) later) :
    Honest keeper.talk max keeper.signer keeper.hmacKey past (heard :: later) :=
  ⟨⟨_, _, talk_append, serves digests fits⟩, honest⟩

end Keeper

/-! ## Asking -/

namespace Connection

/-- **What the drive hears** of a request that is submitted now. -/
def hearing {reply : Reply} (c : Connection σ τ) (request : Request reply) : HeardRequest :=
  ⟨(Outbox.addressed (c.prepare request.command) c.service.outbox.nextSequence
    c.service.connectionId).withoutDeviceLog, request.value⟩

/-- Whether a request that is submitted now **fits into a frame**. -/
def fits {reply : Reply} (c : Connection σ τ) (request : Request reply) : Bool :=
  (c.service.outbox.frameOf request.envelope
    (Outbox.addressed (c.prepare request.command) c.service.outbox.nextSequence
      c.service.connectionId) request.value).isOk

/-- **Run** so many times. -/
def runTimes [Channel σ] : Nat → Connection σ τ →
    List (Completion (Callback τ)) × Connection σ τ
  | 0, c => ([], c)
  | times + 1, c =>
    let (_, done, c) := c.run
    let later := runTimes times c
    (done ++ later.1, later.2)

/-- **Submit a request** and run so many times. -/
def ask [Channel σ] {reply : Reply} (c : Connection σ τ) (request : Request reply) (tag : τ)
    (times : Nat) : List (Completion (Callback τ)) × Connection σ τ :=
  let (_, done, c) := c.submit request tag
  let later := c.runTimes times
  (done ++ later.1, later.2)

/-- A connection that is alive and **without traffic**: nothing waits, nothing is to be written or
read, and the drive has heard certain requests and no part of another one. -/
structure AtRest (c : Connection (Responder speak) τ) (past : List HeardRequest) : Prop where
  alive : c.service.failed = false
  coherent : c.service.Coherent
  current : c.service.outbox.current = none
  queue : c.service.outbox.queue = []
  waits : c.service.inbox.correlator.outstanding.entries = []
  between : c.service.inbox.reader.inProgress = false
  hears : c.service.channel.Hears past []
  incoming : c.service.channel.incoming = []

variable {c c' : Connection (Responder speak) τ} {past : List HeardRequest}

theorem AtRest.talks (h : c.AtRest past) : c.service.Talks past [] where
  alive := h.alive
  coherent := h.coherent
  proper _ mem := absurd mem List.not_mem_nil
  distinct := ⟨List.nodup_nil, List.nodup_nil⟩
  spoken := trivial
  moves := by
    refine ⟨[], [], [], rfl, h.waits, ?_, ?_⟩
    · have between := h.between
      unfold Inbox.Awaits
      rw [FrameReader.inProgress] at between
      generalize c.service.inbox.reader.state = state at between ⊢
      cases state with
      | idle => exact ⟨[], .idle, Nat.one_pos, rfl⟩
      | _ => cases between
    · rw [h.current, h.queue, List.map_nil, List.append_nil]
      exact .between h.hears h.incoming

/-- A connection that talks with **nothing under way** is without traffic. -/
theorem atRest_of_talks (h : c.service.Talks past []) : c.AtRest past := by
  obtain ⟨waiting, unsent, said, none, waits, ⟨taken, stands, -, answers_eq⟩, sends⟩ := h.moves
  obtain ⟨rfl, rfl⟩ := List.append_eq_nil_iff.mp none.symm
  obtain ⟨rfl, rfl⟩ := List.append_eq_nil_iff.mp answers_eq
  have between : c.service.inbox.reader.inProgress = false := by
    rw [FrameReader.inProgress, Bool.eq_false_iff]
    exact fun inside => stands.inProgress_iff.mp inside rfl
  rw [List.map_nil, List.append_nil] at sends
  generalize current_eq : c.service.outbox.current = current at sends
  generalize queue_eq : c.service.outbox.queue = queue at sends
  cases sends with
  | between hears incoming_eq =>
    exact ⟨h.alive, h.coherent, current_eq, queue_eq, waits, between, hears, incoming_eq⟩

/-! ## Requests one after the other -/

/-- **Running** a connection that talks, so many times. -/
theorem exists_comes_runTimes {pending : List (Exchange (Callback τ))}
    (h : c.service.Talks past pending) (times : Nat) :
    ∃ answered rest, c.service.Comes (c.runTimes times).2.service past pending answered rest
      (c.runTimes times).1 times := by
  induction times generalizing c past pending with
  | zero => exact ⟨[], pending, h.comes⟩
  | succ times ih =>
    obtain ⟨answered, rest, first⟩ := h.run
    obtain ⟨answered', rest', later⟩ := ih (c := c.run.2.2) first.talks
    have all := first.trans later
    rw [Nat.add_comm] at all
    exact ⟨answered ++ answered', rest', all⟩

end Connection

/-! ### The names of the requests -/

theorem Int64.offset_inj {a : Int64} {i j : Nat} (hi : i < 2 ^ 64) (hj : j < 2 ^ 64)
    (same : a + .ofNat i = a + .ofNat j) : i = j := by
  have bits := congrArg Int64.toBitVec same
  simp only [Int64.toBitVec_add, Int64.toBitVec_ofNat', BitVec.add_right_inj] at bits
  have digits := congrArg BitVec.toNat bits
  simp only [BitVec.toNat_ofNat] at digits
  omega

theorem UInt64.offset_inj {a : UInt64} {i j : Nat} (hi : i < 2 ^ 64) (hj : j < 2 ^ 64)
    (same : a + .ofNat i = a + .ofNat j) : i = j := by
  have bits := congrArg UInt64.toBitVec same
  simp only [UInt64.toBitVec_add, BitVec.add_right_inj] at bits
  have digits := congrArg BitVec.toNat bits
  simp only [UInt64.toBitVec_ofNat', BitVec.toNat_ofNat] at digits
  omega

/-- Exchanges whose requests have got **one name after the other**. -/
structure Exchange.Numbered {η : Type} (sequence : Int64) (key : RequestKey)
    (exchanges : List (Exchange η)) : Prop where
  sequences : exchanges.map (fun e => e.request.sequence) =
    (List.range exchanges.length).map fun i => sequence + .ofNat i
  keys : exchanges.map (fun e => e.request.key) =
    (List.range exchanges.length).map fun i => key + .ofNat i

namespace Exchange.Numbered

variable {η : Type} {sequence : Int64} {key : RequestKey} {exchanges : List (Exchange η)}

theorem append (h : Numbered sequence key exchanges) {e : Exchange η}
    (sequence_eq : e.request.sequence = sequence + .ofNat exchanges.length)
    (key_eq : e.request.key = key + .ofNat exchanges.length) :
    Numbered sequence key (exchanges ++ [e]) where
  sequences := by simp [List.range_succ, h.sequences, sequence_eq]
  keys := by simp [List.range_succ, h.keys, key_eq]

/-- As long as they are few, their names are **different**. -/
theorem distinct (h : Numbered sequence key exchanges) (few : exchanges.length ≤ 2 ^ 64) :
    Distinct exchanges where
  sequences := by
    rw [h.sequences]
    refine List.nodup_range.map_on fun i hi j hj same => ?_
    rw [List.mem_range] at hi hj
    exact Int64.offset_inj (by omega) (by omega) same
  keys := by
    rw [h.keys]
    refine List.nodup_range.map_on fun i hi j hj same => ?_
    rw [List.mem_range] at hi hj
    exact UInt64.offset_inj (by omega) (by omega) same

end Exchange.Numbered

/-! ### Asking again and again -/

/-- **What somebody is told** who has asked: the key of the request, who asked, and what they
learn. -/
structure Told (τ : Type) where
  key : RequestKey
  callback : Callback τ
  result : Except Status callback.reply.Result

/-- What a completion **tells** its callback. -/
def Told.of (completion : Completion (Callback τ)) : Told τ :=
  ⟨completion.key, completion.handler, Callback.result completion⟩

namespace Connection

variable {c c' : Connection (Responder speak) τ} {past sofar : List HeardRequest}
  {answered rest : List (Exchange (Callback τ))} {due : List (Told τ)}
  {told : List (Completion (Callback τ))}

/-- **Requests that have been made one after the other**, each with some runs behind it. The first
ones have been answered, the others are under way, and nothing else goes on. With all that the drive
hears, and with what is due to those who asked. -/
structure Asked (c c' : Connection (Responder speak) τ) (past sofar : List HeardRequest)
    (due : List (Told τ)) (told : List (Completion (Callback τ)))
    (answered rest : List (Exchange (Callback τ))) : Prop where
  sofar_eq : sofar = past ++ (answered ++ rest).map Exchange.heard
  due_eq : due = (answered ++ rest).map fun e => Told.of e.completion
  told_eq : told = answered.map Exchange.completion
  talks : c'.service.Talks (past ++ answered.map Exchange.heard) rest
  numbered : Exchange.Numbered c.service.outbox.nextSequence c.service.nextKey (answered ++ rest)
  sequence_eq : c'.service.outbox.nextSequence =
    c.service.outbox.nextSequence + .ofNat (answered ++ rest).length
  key_eq : c'.service.nextKey = c.service.nextKey + .ofNat (answered ++ rest).length
  sameKey : c.service.inbox.correlator.SameKey c'.service.inbox.correlator
  size_eq : c'.service.inbox.reader.maxFrameSize = c.service.inbox.reader.maxFrameSize
  fewer : c'.service.channel.paces.length ≤ c.service.channel.paces.length

/-- Before the first request, **nothing has been asked**. -/
theorem asked_of_atRest (h : c.AtRest past) : c.Asked c past past [] [] [] [] where
  sofar_eq := by simp
  due_eq := rfl
  told_eq := rfl
  talks := by simpa using h.talks
  numbered := ⟨rfl, rfl⟩
  sequence_eq := by simp
  key_eq := by simp
  sameKey := .refl _
  size_eq := rfl
  fewer := Nat.le_refl _

/-- Those are told first **to whom it is due first**. -/
theorem Asked.told_prefix (h : c.Asked c' past sofar due told answered rest) :
    told.map Told.of <+: due := by
  rw [h.told_eq, h.due_eq, List.map_map, List.map_append]
  exact List.prefix_append _ _

/-- Once nothing is under way, **all is told** that is due. -/
theorem Asked.settled (h : c.Asked c' past sofar due told answered []) :
    told.map Told.of = due ∧ c'.AtRest sofar := by
  constructor
  · rw [h.told_eq, h.due_eq, List.map_map, List.append_nil]
    rfl
  · rw [h.sofar_eq, List.append_nil]
    exact atRest_of_talks h.talks

/-- **A request that is submitted** is under way, if it fits into a frame and the drive serves it
behind all that it has heard so far, and what the answer decodes to is due to whoever asked. -/
theorem Asked.submit (h : c.Asked c' past sofar due told answered rest) (few : due.length < 2 ^ 64)
    {reply : Reply} (loud : reply ≠ .silence) {request : Request reply}
    (fits : c'.fits request = true) {answer : Frame} {response : Command}
    (speaks : speak (sofar ++ [c'.hearing request]) = answer.encode)
    (serves : Serves c.service.inbox.reader.maxFrameSize c.service.inbox.correlator.signer
      c.service.inbox.correlator.hmacKey sofar (c'.hearing request) answer response) (tag : τ) :
    ∃ e service, c'.submit request tag = (c'.service.nextKey, [], { c' with service }) ∧
      c.Asked { c' with service } past (sofar ++ [c'.hearing request])
        (due ++ [⟨c'.service.nextKey, ⟨reply, tag⟩, reply.decode response answer.value⟩]) told
        answered (rest ++ [e]) := by
  have talks := h.talks
  have working := talks.coherent.outbox talks.alive
  obtain ⟨frame, framed⟩ : ∃ frame, c'.service.outbox.frameOf request.envelope
      (Outbox.addressed (c'.prepare request.command) c'.service.outbox.nextSequence
        c'.service.connectionId) request.value = .ok frame := by
    rw [Connection.fits] at fits
    generalize Outbox.frameOf _ _ _ _ = framed at fits
    cases framed with
    | ok frame => exact ⟨frame, rfl⟩
    | error failure => cases fits
  have prepared : c'.service.outbox.prepare request.envelope (c'.prepare request.command)
      request.value (some ⟨reply, tag⟩ : Option (Callback τ)) c'.service.nextKey
      c'.service.connectionId =
      .ok ⟨frame, c'.service.outbox.nextSequence, c'.service.nextKey, some ⟨reply, tag⟩⟩ := by
    rw [Outbox.prepare, if_neg (Bool.eq_false_iff.mp working), framed]
  have submitted := Multiplexer.submit_of_alive talks.alive request.envelope
    (c'.prepare request.command) request.value (some ⟨reply, tag⟩)
  rw [Outbox.enqueue, prepared] at submitted
  let e : Exchange (Callback τ) :=
    ⟨⟨frame, c'.service.outbox.nextSequence, c'.service.nextKey, some ⟨reply, tag⟩⟩, ⟨reply, tag⟩,
      c'.hearing request, answer, response⟩
  have e_told : Told.of e.completion =
      ⟨c'.service.nextKey, ⟨reply, tag⟩, reply.decode response answer.value⟩ := by
    rw [Exchange.completion, Completion.answer, if_pos serves.success]
    rfl
  -- the names of the request are new
  have numbered := h.numbered.append (e := e) h.sequence_eq h.key_eq
  have one_more : (answered ++ rest ++ [e]).length = (answered ++ rest).length + 1 :=
    List.length_append
  have distinct : Distinct (rest ++ [e]) := by
    rw [h.due_eq, List.length_map] at few
    refine (numbered.distinct (one_more ▸ few)).sublist ?_
    rw [List.append_assoc]
    exact List.sublist_append_right _ _
  have proper : e.Proper c'.service.inbox.reader.maxFrameSize c'.service.inbox.correlator.signer
      c'.service.inbox.correlator.hmacKey := by
    rw [h.size_eq, h.sameKey.signer, h.sameKey.hmacKey]
    exact ⟨rfl, Outbox.heard_of_frameOf framed, serves.fits, serves.answers _ rfl⟩
  rw [h.sofar_eq, List.map_append, ← List.append_assoc] at speaks
  have talks := talks.submit (e := e) prepared proper distinct speaks
  rw [submitted] at talks
  refine ⟨e, _, by rw [Connection.submit, if_neg loud, submitted], ?_⟩
  rw [← e_told]
  exact {
    sofar_eq := by simp [h.sofar_eq, e]
    due_eq := by simp [h.due_eq]
    told_eq := h.told_eq
    talks := talks
    numbered := by rwa [List.append_assoc] at numbered
    sequence_eq := by
      rw [← List.append_assoc, one_more, Int64.ofNat_add, ← Int64.add_assoc, ← h.sequence_eq]
      rfl
    key_eq := by
      rw [← List.append_assoc, one_more, UInt64.ofNat_add, ← UInt64.add_assoc, ← h.key_eq]
      rfl
    sameKey := h.sameKey
    size_eq := h.size_eq
    fewer := h.fewer }

/-- **Runs** answer the first of the requests that are under way, or all of them if there are enough
runs. -/
theorem Asked.runTimes (h : c.Asked c' past sofar due told answered rest) (times : Nat) :
    ∃ answered' rest', c.Asked (c'.runTimes times).2 past sofar due
        (told ++ (c'.runTimes times).1) answered' rest' ∧
      (rest' ≠ [] → times ≤ c.service.channel.paces.length) := by
  obtain ⟨more, rest', comes⟩ := exists_comes_runTimes h.talks times
  have all : answered ++ more ++ rest' = answered ++ rest := by
    rw [List.append_assoc, ← comes.split]
  refine ⟨answered ++ more, rest', ?_, fun some => ?_⟩
  · exact {
      sofar_eq := by rw [all, h.sofar_eq]
      due_eq := by rw [all, h.due_eq]
      told_eq := by rw [h.told_eq, comes.tells, List.map_append]
      talks := by
        have talks := comes.talks
        rwa [List.append_assoc, ← List.map_append] at talks
      numbered := all ▸ h.numbered
      sequence_eq := by rw [all, comes.sequence_eq, h.sequence_eq]
      key_eq := by rw [all, comes.key_eq, h.key_eq]
      sameKey := h.sameKey.trans comes.sameKey
      size_eq := comes.size_eq.trans h.size_eq
      fewer := comes.fewer.trans h.fewer }
  · have := comes.less some
    have := h.fewer
    omega

/-- **Asking once more**: one request more is under way, and then the runs answer the first ones. -/
theorem Asked.ask (h : c.Asked c' past sofar due told answered rest) (few : due.length < 2 ^ 64)
    {reply : Reply} (loud : reply ≠ .silence) {request : Request reply}
    (fits : c'.fits request = true) {answer : Frame} {response : Command}
    (speaks : speak (sofar ++ [c'.hearing request]) = answer.encode)
    (serves : Serves c.service.inbox.reader.maxFrameSize c.service.inbox.correlator.signer
      c.service.inbox.correlator.hmacKey sofar (c'.hearing request) answer response)
    (tag : τ) (times : Nat) :
    ∃ answered' rest',
      c.Asked (c'.ask request tag times).2 past (sofar ++ [c'.hearing request])
        (due ++ [⟨c'.service.nextKey, ⟨reply, tag⟩, reply.decode response answer.value⟩])
        (told ++ (c'.ask request tag times).1) answered' rest' ∧
      (rest' ≠ [] → times ≤ c.service.channel.paces.length) := by
  obtain ⟨e, service, submit_eq, asked⟩ := h.submit few loud fits speaks serves tag
  rw [Connection.ask, submit_eq]
  exact asked.runTimes times

end Connection

/-! ## The round trip -/

/-- A record **as a drive keeps it**. -/
def Record.kept (record : Record) : Kept :=
  ⟨record.value, some record.version, some record.tag, record.algorithm⟩

section Serves

variable {max : Nat} {signer : Signer} {hmacKey key : Bytes} {past : List HeardRequest}
  {heard : HeardRequest} {answer : Frame} {response : Command} {record : Record}

/-- Who gets a key under which a record is kept, **learns the record**. -/
theorem Serves.decodeRecord (h : Serves max signer hmacKey past heard answer response)
    (asks : heard.about? .get key ≠ none) (keeps : kept key past = some record.kept) :
    Reply.decodeRecord response answer.value = .ok (key, record) := by
  obtain ⟨value_eq, kv, body, key_eq, version_eq, tag_eq, algorithm_eq⟩ := h.shows _ _ asks keeps
  simp only [Reply.decodeRecord, body, key_eq, value_eq, version_eq, tag_eq, algorithm_eq,
    Record.kept, Option.getD_some]

/-- Who asks for the version of a record, **learns it**. -/
theorem Serves.decodeVersion (h : Serves max signer hmacKey past heard answer response)
    (asks : heard.about? .getVersion key ≠ none) (keeps : kept key past = some record.kept) :
    Reply.decodeVersion response = .ok record.version := by
  obtain ⟨kv, body, version_eq⟩ := h.tells _ _ asks keeps
  simp only [Reply.decodeVersion, body, version_eq, Record.kept, Option.getD_some]

end Serves

section Kept

variable (c : Connection σ τ) (key : Bytes) (past : List HeardRequest)

/-- **A record that is put** is kept as it is. -/
theorem kept_hearing_put (currentVersion : Bytes) (mode : WriteMode) (record : Record)
    (persist : Synchronization) :
    kept key (past ++ [c.hearing (.put key currentVersion mode record persist)]) =
      some record.kept := by
  have put : (c.hearing (.put key currentVersion mode record persist)).about? .put key =
      some
        { key := some key
          newVersion := some record.version
          dbVersion := some currentVersion
          force := some (mode = .ignoreVersion)
          tag := some record.tag
          algorithm := record.algorithm
          synchronization := some persist } :=
    Option.filter_eq_some_iff.mpr ⟨rfl, decide_eq_true ⟨rfl, rfl⟩⟩
  rw [kept, List.reverse_append]
  simp [put, Record.kept]
  rfl

/-- What is not a put **changes nothing** of what is kept. -/
theorem kept_append_of_ne {heard : HeardRequest}
    (other : heard.command.header.messageType ≠ some .put) :
    kept key (past ++ [heard]) = kept key past := by
  rw [kept, List.reverse_append]
  simp [kept, Simulation.HeardRequest.about?, other]

theorem about_hearing_get : (c.hearing (.get key)).about? .get key ≠ none := by
  have get : (c.hearing (.get key)).about? .get key = some { key := some key } :=
    Option.filter_eq_some_iff.mpr ⟨rfl, decide_eq_true ⟨rfl, rfl⟩⟩
  rw [get]
  exact Option.some_ne_none _

theorem about_hearing_getVersion :
    (c.hearing (.getVersion key)).about? .getVersion key ≠ none := by
  have asks : (c.hearing (.getVersion key)).about? .getVersion key = some { key := some key } :=
    Option.filter_eq_some_iff.mpr ⟨rfl, decide_eq_true ⟨rfl, rfl⟩⟩
  rw [asks]
  exact Option.some_ne_none _

end Kept

/-- **A record makes the round trip.** On a connection without traffic to a drive that answers, let
a record be put, then got, then asked for its version, with any number of runs after each request,
and let the channel move as little as it likes in each call. If the requests fit into frames and the
drive serves them from what it keeps, then nobody is told anything but this, in this order: that the
record is stored, the key and the record, and the version of the record. Once there have been more
runs than calls that move too little, all of it has been told, and there is no traffic any more. -/
theorem record_round_trip {c c₁ c₂ c₃ : Connection (Responder speak) τ}
    {past : List HeardRequest} (rests : c.AtRest past) {key currentVersion : Bytes}
    {mode : WriteMode} {record : Record} {persist : Synchronization} {putTag getTag versionTag : τ}
    {a b n : Nat} {told₁ told₂ told₃ : List (Completion (Callback τ))}
    (puts : c.ask (.put key currentVersion mode record persist) putTag a = (told₁, c₁))
    (gets : c₁.ask (.get key) getTag b = (told₂, c₂))
    (asks : c₂.ask (.getVersion key) versionTag n = (told₃, c₃))
    (put_fits : c.fits (.put key currentVersion mode record persist) = true)
    (get_fits : c₁.fits (.get key) = true) (version_fits : c₂.fits (.getVersion key) = true)
    (honest : Honest speak c.service.inbox.reader.maxFrameSize c.service.inbox.correlator.signer
      c.service.inbox.correlator.hmacKey past
      [c.hearing (.put key currentVersion mode record persist), c₁.hearing (.get key),
        c₂.hearing (.getVersion key)]) :
    let told := (told₁ ++ told₂ ++ told₃).map Told.of
    let due : List (Told τ) :=
      [⟨c.service.nextKey, ⟨.acknowledgement, putTag⟩, .ok ()⟩,
        ⟨c₁.service.nextKey, ⟨.record, getTag⟩, .ok (key, record)⟩,
        ⟨c₂.service.nextKey, ⟨.version, versionTag⟩, .ok record.version⟩]
    told <+: due ∧ (c.service.channel.paces.length < n → told = due ∧
      c₃.AtRest (past ++ [c.hearing (.put key currentVersion mode record persist),
        c₁.hearing (.get key), c₂.hearing (.getVersion key)])) := by
  intro told due
  obtain ⟨⟨answer₁, response₁, speaks₁, serves₁⟩, ⟨answer₂, response₂, speaks₂, serves₂⟩,
    ⟨answer₃, response₃, speaks₃, serves₃⟩, -⟩ := honest
  -- the drive hears the put first, the get behind it, and the question for the version last
  obtain ⟨answered₁, rest₁, asked₁, -⟩ := (Connection.asked_of_atRest rests).ask (by simp)
    (by decide) put_fits speaks₁ serves₁ putTag a
  rw [puts] at asked₁
  obtain ⟨answered₂, rest₂, asked₂, -⟩ := asked₁.ask (by simp) (by decide) get_fits speaks₂ serves₂
    getTag b
  rw [gets] at asked₂
  obtain ⟨answered₃, rest₃, asked₃, ends⟩ := asked₂.ask (by simp) (by decide) version_fits speaks₃
    serves₃ versionTag n
  rw [asks] at asked₃
  -- each answer decodes to what the drive keeps
  have keeps := kept_hearing_put c key past currentVersion mode record persist
  have still : kept key (past ++ [c.hearing (.put key currentVersion mode record persist)] ++
      [c₁.hearing (.get key)]) = some record.kept := by
    have no_put : some MessageType.get ≠ some .put := by decide
    exact (kept_append_of_ne key _ no_put).trans keeps
  have stored : Reply.acknowledgement.decode response₁ answer₁.value = .ok () := rfl
  have got : Reply.record.decode response₂ answer₂.value = .ok (key, record) :=
    serves₂.decodeRecord (about_hearing_get c₁ key) keeps
  have learnt : Reply.version.decode response₃ answer₃.value = .ok record.version :=
    serves₃.decodeVersion (about_hearing_getVersion c₂ key) still
  rw [stored, got, learnt] at asked₃
  refine ⟨asked₃.told_prefix, fun enough => ?_⟩
  have none : rest₃ = [] := by
    by_contra some
    have := ends some
    omega
  subst none
  obtain ⟨all, rests⟩ := asked₃.settled
  rw [List.append_assoc, List.append_assoc] at rests
  exact ⟨all, rests⟩

section Halting

/-- A drive that **keeps records**. -/
def constantKeeper : Keeper := ⟨.constant [7], [1]⟩

/-- The drive says hello, and then **moves a few bytes at a time**, or none. -/
def haltingDrive : Responder constantKeeper.talk :=
  { paces := [9, 500, 500, 3, 0, 60, 7, 0, 20, 1], incoming := hello }

/-- A record with **an empty version and no algorithm**. -/
def plainRecord : Record := { value := [2, 3], tag := [9] }

/-- The request that **puts it**. -/
def plainPut : Request .acknowledgement := .put [4] [] .ignoreVersion plainRecord .writeBack

/-- While the drive moves seven bytes of the put and then none, **the get and the question for the
version are queued**; nine runs later, all is told. -/
theorem record_round_trip_halting :
    ∃ (m : Multiplexer (Responder constantKeeper.talk) (Callback Nat))
      (c₁ c₂ c₃ : Connection (Responder constantKeeper.talk) Nat)
      (told : List (Completion (Callback Nat))),
      Multiplexer.start 3 (.constant [7]) { hmacKey := [1] } haltingDrive = some (.ok m) ∧
      m.channel.paces = [7, 0, 20, 1] ∧
      (Connection.mk m 0 .normal none).ask plainPut 10 1 = ([], c₁) ∧
      c₁.service.channel.heard.length = 7 ∧
      c₁.ask (.get [4]) 20 0 = ([], c₂) ∧ c₂.ask (.getVersion [4]) 30 9 = (told, c₃) ∧
      told.map Told.of =
        [⟨0, ⟨.acknowledgement, 10⟩, .ok ()⟩, ⟨1, ⟨.record, 20⟩, .ok ([4], plainRecord)⟩,
          ⟨2, ⟨.version, 30⟩, .ok []⟩] ∧
      c₃.service.inbox.correlator.outstanding.entries = [] := by
  have check : ((Multiplexer.start 3 (.constant [7]) { hmacKey := [1] } haltingDrive :
      Option (Except Failure (Multiplexer (Responder constantKeeper.talk) (Callback Nat)))).any
        fun started => started.toOption.any fun m =>
          let c : Connection (Responder constantKeeper.talk) Nat := ⟨m, 0, .normal, none⟩
          let put := c.ask plainPut 10 1
          let get := put.2.ask (.get [4]) 20 0
          let heard₁ := c.hearing plainPut
          let heard₂ := put.2.hearing (.get [4])
          let heard₃ := get.2.hearing (.getVersion [4])
          decide ((m.outbox.current.isSome = false ∧ m.outbox.queue.length = 0 ∧
              m.inbox.correlator.outstanding.entries.length = 0 ∧
              m.inbox.reader.inProgress = false ∧ m.channel.heard = [] ∧
              m.channel.incoming = [] ∧ m.channel.paces = [7, 0, 20, 1]) ∧
            (put.1.length = 0 ∧ put.2.service.channel.heard.length = 7 ∧ get.1.length = 0) ∧
            (m.nextKey = 0 ∧ put.2.service.nextKey = 1 ∧ get.2.service.nextKey = 2) ∧
            (c.fits plainPut = true ∧
              put.2.fits (.get [4]) = true ∧ get.2.fits (.getVersion [4]) = true) ∧
            (constantKeeper.answer [] heard₁).Fits m.inbox.reader.maxFrameSize ∧
            (constantKeeper.answer [heard₁] heard₂).Fits m.inbox.reader.maxFrameSize ∧
            (constantKeeper.answer [heard₁, heard₂] heard₃).Fits
              m.inbox.reader.maxFrameSize)) = true := by
    decide +kernel
  obtain ⟨m, started, check⟩ := exists_started check
  obtain ⟨⟨idle, none_queued, nobody, between, unheard, nothing, paces_eq⟩,
    ⟨silent, part, silent'⟩, ⟨key₁, key₂, key₃⟩, ⟨fits₁, fits₂, fits₃⟩, short₁, short₂, short₃⟩ :=
    of_decide_eq_true check
  obtain ⟨signer_eq, hmacKey_eq⟩ : m.inbox.correlator.signer = constantKeeper.signer ∧
      m.inbox.correlator.hmacKey = constantKeeper.hmacKey := correlator_of_start started
  have digests (command : Bytes) :
      constantKeeper.signer.sign command constantKeeper.hmacKey ≠ [] := List.cons_ne_nil _ _
  have honest := Keeper.honest_cons digests short₁
    (Keeper.honest_cons digests short₂ (Keeper.honest_cons digests short₃ honest_nil))
  rw [← signer_eq, ← hmacKey_eq] at honest
  have rests : (Connection.mk m 0 .normal none).AtRest [] :=
    { alive := (Multiplexer.outbox_of_start started).1
      coherent := Multiplexer.coherent_of_start started
      current := Option.isSome_eq_false_iff.mp idle |> Option.isNone_iff_eq_none.mp
      queue := List.length_eq_zero_iff.mp none_queued
      waits := List.length_eq_zero_iff.mp nobody
      between := between
      hears := ⟨[], .nil, unheard⟩
      incoming := nothing }
  let c₁ := ((Connection.mk m 0 .normal none).ask plainPut 10 1).2
  let c₂ := (c₁.ask (.get [4]) 20 0).2
  have puts : (Connection.mk m 0 .normal none).ask plainPut 10 1 = ([], c₁) :=
    Prod.ext (List.length_eq_zero_iff.mp silent) rfl
  have gets : c₁.ask (.get [4]) 20 0 = ([], c₂) :=
    Prod.ext (List.length_eq_zero_iff.mp silent') rfl
  have asks : c₂.ask (.getVersion [4]) 30 9 = (_, _) := rfl
  have few : m.channel.paces.length < 9 := by
    rw [paces_eq]
    decide
  obtain ⟨-, trip⟩ := record_round_trip rests puts gets asks fits₁ fits₂ fits₃ honest
  obtain ⟨told_eq, settled⟩ := trip few
  refine ⟨m, _, _, _, _, started, paces_eq, puts, part, gets, asks, told_eq.trans ?_, settled.waits⟩
  rw [key₁, key₂, key₃]
  rfl

end Halting

end DriveLink
