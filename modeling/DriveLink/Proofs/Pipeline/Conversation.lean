import DriveLink.Proofs.Channel.Responder
import DriveLink.Proofs.Pipeline.AnyOrder
import DriveLink.Proofs.Pipeline.Blame

/-! # Conversations

A connection to a drive that answers talks to it alone: each request is written, heard, answered and
completed, in the order of submission. However little the channel moves in a call, every run either
comes to the end of what there is to say or uses up some of what slows the channel down.

* `Exchange` — a request, what is heard of it, and the answer to it;
* `Exchange.Sends` — requests that are not entirely written, and the one that is being written;
* `Multiplexer.Talks` — a connection with some exchanges under way;
* `Multiplexer.Talks.submit`, `Multiplexer.Talks.run` — one exchange more, and those that come to
  their end. -/

namespace DriveLink

open Simulation (HeardRequest)

variable {η : Type} {speak : List HeardRequest → Bytes}

/-! ## Exchanges -/

/-- **One exchange**: a request, what is heard of it, and the answer to it. -/
structure Exchange (η : Type) where
  request : QueuedRequest η
  handler : η
  heard : HeardRequest
  answer : Frame
  response : Command

namespace Exchange

/-- The request while it **waits for its answer**. -/
def waiting (e : Exchange η) : OutstandingRequest η :=
  ⟨e.request.sequence, e.request.key, e.handler⟩

/-- The **call** that the request gets. -/
def completion (e : Exchange η) : Completion η :=
  .answer e.request.key e.handler e.response e.answer.value

/-- An exchange in which the request can be heard and **the answer be told**. -/
structure Proper (e : Exchange η) (max : Nat) (signer : Signer) (hmacKey : Bytes) : Prop where
  handler_eq : e.request.handler = some e.handler
  heard : Frame.Heard e.request.frame e.heard
  fits : e.answer.Fits max
  answers : e.answer.Answers signer hmacKey e.request.sequence e.response

/-- The **answers** of some exchanges, one behind the other. -/
def answers (exchanges : List (Exchange η)) : Bytes := exchanges.flatMap fun e => e.answer.encode

theorem answers_append (exchanges later : List (Exchange η)) :
    answers (exchanges ++ later) = answers exchanges ++ answers later := List.flatMap_append

/-- What the drive says in some exchanges **are their answers**. -/
def Spoken (speak : List HeardRequest → Bytes) (past : List HeardRequest) :
    List (Exchange η) → Prop
  | [] => True
  | e :: later =>
    speak (past ++ [e.heard]) = e.answer.encode ∧ Spoken speak (past ++ [e.heard]) later

theorem spoken_append {past : List HeardRequest} {exchanges later : List (Exchange η)} :
    Spoken speak past (exchanges ++ later) ↔
      Spoken speak past exchanges ∧ Spoken speak (past ++ exchanges.map heard) later := by
  induction exchanges generalizing past with
  | nil => simp [Spoken]
  | cons e exchanges ih => simp [Spoken, ih, and_assoc]

/-- **Either name** of a request is its own. -/
structure Distinct (exchanges : List (Exchange η)) : Prop where
  sequences : (exchanges.map fun e => e.request.sequence).Nodup
  keys : (exchanges.map fun e => e.request.key).Nodup

theorem Distinct.sublist {exchanges fewer : List (Exchange η)} (h : Distinct exchanges)
    (sub : fewer.Sublist exchanges) : Distinct fewer :=
  ⟨h.sequences.sublist (sub.map _), h.keys.sublist (sub.map _)⟩

/-- **Requests that are not entirely written**, when the drive has heard those before them and said
something. The first of them may have been begun. -/
inductive Sends (past : List HeardRequest) (said : Bytes) :
    List (Exchange η) → Option (InFlight η) → List (QueuedRequest η) → Responder speak → Prop
  | between {unsent : List (Exchange η)} {drive : Responder speak} (hears : drive.Hears past [])
      (incoming_eq : drive.incoming = said) :
      Sends past said unsent none (unsent.map request) drive
  | writing {e : Exchange η} {later : List (Exchange η)} {left : Bytes} {drive : Responder speak}
      (takes : drive.Takes past e.heard e.request.frame said left) :
      Sends past said (e :: later)
        (some ⟨⟨left⟩, e.request.sequence, e.request.key, e.request.handler⟩) (later.map request)
        drive

end Exchange

/-- **One more request** that waits for its turn. -/
theorem Exchange.Sends.append {past : List HeardRequest} {said : Bytes} {unsent : List (Exchange η)}
    {current : Option (InFlight η)} {queue : List (QueuedRequest η)} {drive : Responder speak}
    (h : Sends past said unsent current queue drive) (e : Exchange η) :
    Sends past said (unsent ++ [e]) current (queue ++ [e.request]) drive := by
  cases h with
  | between hears incoming_eq =>
    have all : Sends past said (unsent ++ [e]) none _ drive := .between hears incoming_eq
    rwa [List.map_append, List.map_singleton] at all
  | @writing first later left drive takes =>
    have all : Sends past said (first :: (later ++ [e])) _ _ drive := .writing takes
    rwa [List.map_append, List.map_singleton] at all

/-- **What is read** of what the drive has said is none of what it may have said to the request that
is being written. -/
theorem Exchange.Sends.exists_behind {past : List HeardRequest} {said : Bytes}
    {unsent : List (Exchange η)} {current : Option (InFlight η)} {queue : List (QueuedRequest η)}
    {drive : Responder speak} (h : Sends past said unsent current queue drive) :
    ∃ behind, drive.incoming = said ++ behind ∧
      ∀ (drive' : Responder speak) (said' : Bytes), drive'.heard = drive.heard →
        drive'.incoming = said' ++ behind → Sends past said' unsent current queue drive' := by
  have hears {drive' : Responder speak} {past : List HeardRequest} {part : Bytes}
      (hears : drive.Hears past part) (same : drive'.heard = drive.heard) :
      drive'.Hears past part := by
    rwa [Responder.Hears, same]
  cases h with
  | between heard incoming_eq =>
    refine ⟨[], by rw [incoming_eq, List.append_nil], fun drive' said' same rest => ?_⟩
    rw [List.append_nil] at rest
    exact .between (hears heard same) rest
  | writing takes =>
    cases takes with
    | part heard frame_eq short incoming_eq =>
      refine ⟨[], by rw [incoming_eq, List.append_nil], fun drive' said' same rest => ?_⟩
      rw [List.append_nil] at rest
      exact .writing (.part (hears heard same) frame_eq short rest)
    | whole heard incoming_eq =>
      exact ⟨_, incoming_eq, fun drive' said' same rest =>
        .writing (.whole (hears heard same) rest)⟩

open Exchange (answers Spoken Distinct Sends)

/-- The inbox with **others waiting** in it. -/
def Inbox.withWaiting (inbox : Inbox η) (waiting : List (Exchange η)) : Inbox η :=
  { inbox with correlator := { inbox.correlator with
      outstanding := ⟨waiting.map Exchange.waiting⟩ } }

theorem Inbox.withWaiting_of_entries {inbox : Inbox η} {waiting : List (Exchange η)}
    (waits : inbox.correlator.outstanding.entries = waiting.map Exchange.waiting) :
    inbox.withWaiting waiting = inbox := by
  rw [Inbox.withWaiting, ← waits]

/-! ## Sending -/

namespace Outbox

/-- **What a call to send gets out** of some exchanges: the first ones, without telling anybody
anything. If it stops before the last one, a pace is used up. -/
structure GetsOut (past : List HeardRequest) (said : Bytes) (inbox : Inbox η)
    (drive : Responder speak) (waiting unsent out left : List (Exchange η))
    (stopped : Stopped η (Responder speak)) : Prop where
  split : unsent = out ++ left
  works : stopped.activity ≠ .failed
  tells : Event.completions stopped.events = []
  inbox_eq : stopped.inbox = inbox.withWaiting (waiting ++ out)
  sends : Sends (past ++ out.map Exchange.heard) (said ++ answers out) left stopped.current
    stopped.queue stopped.channel
  fewer : stopped.channel.paces.length ≤ drive.paces.length
  less : left ≠ [] → stopped.channel.paces.length < drive.paces.length

/-- A request that is out **waits for its answer**, if its names are free. -/
theorem release_of_distinct {e : Exchange η} {waiting later : List (Exchange η)}
    (handler_eq : e.request.handler = some e.handler) (distinct : Distinct (waiting ++ e :: later))
    (writer : FrameWriter) (inbox : Inbox η) :
    release ⟨writer, e.request.sequence, e.request.key, e.request.handler⟩
        (inbox.withWaiting waiting) =
      ([.tracked e.waiting], inbox.withWaiting (waiting ++ [e])) := by
  have free : ∀ other ∈ waiting,
      other.request.sequence ≠ e.request.sequence ∧ other.request.key ≠ e.request.key := by
    obtain ⟨sequences, keys⟩ := distinct
    rw [List.map_append, List.nodup_append] at sequences keys
    intro other mem
    exact ⟨sequences.2.2 _ (List.mem_map_of_mem mem) _ (List.mem_cons_self ..),
      keys.2.2 _ (List.mem_map_of_mem mem) _ (List.mem_cons_self ..)⟩
  have releases := releases_release
    ⟨writer, e.request.sequence, e.request.key, e.request.handler⟩ (inbox.withWaiting waiting)
  generalize release _ _ = released at releases ⊢
  cases releases with
  | unasked none =>
    rw [handler_eq] at none
    cases none
  | tracked same fresh =>
    rw [handler_eq] at same
    cases same
    simp [Inbox.withWaiting, Exchange.waiting]
  | refused same taken =>
    obtain ⟨entry, mem, taken⟩ := taken
    obtain ⟨other, inside, rfl⟩ := List.mem_map.mp mem
    exact absurd taken (not_or.mpr (free other inside))

/-- The requests behind one that is out are written **as if it had been there before**. -/
theorem GetsOut.cons {past : List HeardRequest} {said : Bytes} {inbox : Inbox η}
    {drive drive' : Responder speak} {waiting later out left : List (Exchange η)} {e : Exchange η}
    {stopped : Stopped η (Responder speak)} {events : List (Event η)}
    (h : GetsOut (past ++ [e.heard]) (said ++ e.answer.encode) inbox drive' (waiting ++ [e]) later
      out left stopped)
    (tells : Event.completions events = []) (fewer : drive'.paces.length ≤ drive.paces.length) :
    GetsOut past said inbox drive waiting (e :: later) (e :: out) left
      { stopped with events := events ++ stopped.events } where
  split := by rw [h.split, List.cons_append]
  works := h.works
  tells := by rw [Event.completions_append, tells, h.tells, List.append_nil]
  inbox_eq := by rw [h.inbox_eq, List.append_assoc, List.singleton_append]
  sends := by
    have sends := h.sends
    rwa [List.append_assoc, List.append_assoc] at sends
  fewer := h.fewer.trans fewer
  less some := (h.less some).trans_le fewer

/-- Nothing gets out **where there is nothing to write**. -/
theorem getsOut_of_nothing {past : List HeardRequest} {said : Bytes} {inbox : Inbox η}
    {drive : Responder speak} {waiting : List (Exchange η)} (hears : drive.Hears past [])
    (incoming_eq : drive.incoming = said) :
    GetsOut past said inbox drive waiting [] [] []
      ⟨.idle, [], none, [], inbox.withWaiting waiting, drive⟩ where
  split := rfl
  works := nofun
  tells := rfl
  inbox_eq := by rw [List.append_nil]
  sends := by
    rw [List.map_nil, List.append_nil, answers, List.flatMap_nil, List.append_nil]
    exact .between hears incoming_eq
  fewer := Nat.le_refl _
  less none := absurd rfl none

/-- A request that **is still being written** when the call stops. -/
theorem getsOut_of_pending {past : List HeardRequest} {said left : Bytes} {inbox : Inbox η}
    {drive drive' : Responder speak} {waiting later : List (Exchange η)} {e : Exchange η}
    (takes : drive'.Takes past e.heard e.request.frame said left)
    (less : drive'.paces.length < drive.paces.length) (bytes : Bytes) :
    GetsOut past said inbox drive waiting (e :: later) [] (e :: later)
      ⟨.waiting, [.took e.request.sequence bytes],
        some ⟨⟨left⟩, e.request.sequence, e.request.key, e.request.handler⟩,
        later.map Exchange.request, inbox.withWaiting waiting, drive'⟩ where
  split := rfl
  works := nofun
  tells := rfl
  inbox_eq := by rw [List.append_nil]
  sends := by
    rw [List.map_nil, List.append_nil, answers, List.flatMap_nil, List.append_nil]
    exact .writing takes
  fewer := Nat.le_of_lt less
  less _ := less

/-- **What a call to send gets out** from where it stands. -/
theorem getsOut_sendFrom {past : List HeardRequest} {said left : Bytes} {max : Nat}
    {signer : Signer} {hmacKey : Bytes} {inbox : Inbox η} {drive : Responder speak}
    {waiting later : List (Exchange η)} {e : Exchange η}
    (proper : ∀ x ∈ e :: later, x.Proper max signer hmacKey)
    (distinct : Distinct (waiting ++ e :: later)) (spoken : Spoken speak past (e :: later))
    (takes : drive.Takes past e.heard e.request.frame said left) :
    ∃ out left', GetsOut past said inbox drive waiting (e :: later) out left'
      (sendFrom ⟨⟨left⟩, e.request.sequence, e.request.key, e.request.handler⟩
        (later.map Exchange.request) (inbox.withWaiting waiting) drive) := by
  -- on the requests behind the one that is being written
  induction later generalizing e past said left drive waiting with
  | nil =>
    obtain ⟨own, -⟩ := List.forall_mem_cons.mp proper
    have writes := Responder.writes_writeBytes own.heard takes
    rw [sendFrom, FrameWriter.write]
    generalize FrameWriter.writeBytes left drive = step at writes ⊢
    cases writes with
    | pending takes less => exact ⟨[], [e], getsOut_of_pending takes less _⟩
    | @done drive' hears incoming_eq fewer =>
      simp only [release_of_distinct own.handler_eq distinct]
      rw [spoken.1] at incoming_eq
      have gets : GetsOut _ _ inbox drive' (waiting ++ [e]) [] [] [] _ :=
        getsOut_of_nothing hears incoming_eq
      have tells : Event.completions [.took e.request.sequence (FrameWriter.taken ⟨left⟩ ⟨[]⟩),
        .sent e.request.sequence, .tracked e.waiting] = [] := rfl
      exact ⟨[e], [], gets.cons tells fewer⟩
  | cons next later ih =>
    obtain ⟨own, others⟩ := List.forall_mem_cons.mp proper
    have writes := Responder.writes_writeBytes own.heard takes
    rw [sendFrom, FrameWriter.write]
    generalize FrameWriter.writeBytes left drive = step at writes ⊢
    cases writes with
    | pending takes less => exact ⟨[], _, getsOut_of_pending takes less _⟩
    | done hears incoming_eq fewer =>
      simp only [release_of_distinct own.handler_eq distinct]
      rw [spoken.1] at incoming_eq
      have begins :=
        Responder.takes_of_hears (others next (List.mem_cons_self ..)).heard hears
      rw [incoming_eq] at begins
      have distinct' : Distinct ((waiting ++ [e]) ++ next :: later) := by
        rwa [List.append_assoc, List.singleton_append]
      obtain ⟨out, left', gets⟩ := ih others distinct' spoken.2 begins
      exact ⟨e :: out, left', gets.cons rfl fewer⟩

/-- **Sending** gets out the first exchanges of those that are not entirely written. -/
theorem exists_getsOut_send {outbox : Outbox η} {past : List HeardRequest} {said : Bytes}
    {max : Nat} {signer : Signer} {hmacKey : Bytes} {drive : Responder speak}
    {waiting unsent : List (Exchange η)}
    (working : outbox.failed = false) (proper : ∀ e ∈ unsent, e.Proper max signer hmacKey)
    (distinct : Distinct (waiting ++ unsent)) (spoken : Spoken speak past unsent)
    (sends : Sends past said unsent outbox.current outbox.queue drive) (inbox : Inbox η) :
    ∃ out left stopped, GetsOut past said inbox drive waiting unsent out left stopped ∧
      outbox.send (inbox.withWaiting waiting) drive =
        ⟨stopped.activity, stopped.events,
          { outbox with current := stopped.current, queue := stopped.queue },
          stopped.inbox, stopped.channel⟩ := by
  obtain ⟨signer', identity, hmacKey', queue, current, nextSequence, failed⟩ := outbox
  cases working
  -- a call that works leaves the outbox alive
  have alive {stopped : Stopped η (Responder speak)} {out left : List (Exchange η)}
      (gets : GetsOut past said inbox drive waiting unsent out left stopped) :
      decide (stopped.activity = .failed) = false := decide_eq_false gets.works
  cases sends with
  | between hears incoming_eq =>
    cases unsent with
    | nil => exact ⟨[], [], _, getsOut_of_nothing hears incoming_eq, rfl⟩
    | cons e later =>
      have begins := Responder.takes_of_hears (proper e (List.mem_cons_self ..)).heard hears
      rw [incoming_eq] at begins
      obtain ⟨out, left, gets⟩ := getsOut_sendFrom proper distinct spoken begins
      refine ⟨out, left, _, gets, ?_⟩
      simp only [send, Bool.false_eq_true, if_false, List.map_cons, QueuedRequest.begin, alive gets]
  | writing takes =>
    obtain ⟨out, left, gets⟩ := getsOut_sendFrom proper distinct spoken takes
    refine ⟨out, left, _, gets, ?_⟩
    simp only [send, Bool.false_eq_true, if_false, alive gets]

end Outbox

/-! ## Receiving -/

namespace Inbox

/-- A reader that **awaits the answers** of some exchanges: the drive has said what the reader has
not taken of them. -/
def Awaits (reader : FrameReader) (said : Bytes) (waiting : List (Exchange η)) : Prop :=
  ∃ taken, reader.state.Stands reader.maxFrameSize taken ∧ 0 < reader.state.missing ∧
    taken ++ said = answers waiting

/-- **What a call to receive completes** of some exchanges: the first ones. If it stops before the
last one, a pace is used up. What is said behind them stays where it is. -/
structure GetsIn (c : Correlator η) (max : Nat) (drive : Responder speak) (behind : Bytes)
    (waiting answered rest : List (Exchange η)) (received : Received η (Responder speak)) :
    Prop where
  split : waiting = answered ++ rest
  works : received.activity ≠ .failed
  tells : received.completions = answered.map Exchange.completion
  sameKey : c.SameKey received.inbox.correlator
  alive : received.inbox.failed = false
  waits : received.inbox.correlator.outstanding.entries = rest.map Exchange.waiting
  size_eq : received.inbox.reader.maxFrameSize = max
  awaits : ∃ said, Awaits received.inbox.reader said rest ∧
    received.channel.incoming = said ++ behind
  heard_eq : received.channel.heard = drive.heard
  fewer : received.channel.paces.length ≤ drive.paces.length
  less : rest ≠ [] → received.channel.paces.length < drive.paces.length

/-- A read that comes to no end **ends the call**. -/
theorem receiveFrom_of_pending {σ : Type} [Channel σ] {c : Correlator η}
    {reader reader' : FrameReader} {s s' : σ} (some : c.outstanding.entries ≠ [])
    (read : reader.read s = (.pending, reader', s')) :
    receiveFrom c reader s = ⟨.waiting, [], { correlator := c, reader := reader' }, s'⟩ := by
  have nothing : ¬ (!reader.inProgress && c.outstanding.isEmpty) = true := by
    rw [Outstanding.isEmpty, Bool.and_eq_true, List.isEmpty_iff]
    exact fun none => some none.2
  rw [receiveFrom, if_neg nothing]
  simp only [read]
  rfl

/-- Nobody is completed **where nobody waits**. -/
theorem getsIn_of_nobody {c : Correlator η} {reader : FrameReader} {drive : Responder speak}
    {said behind : Bytes} (waits : c.outstanding.entries = [])
    (awaits : Awaits reader said ([] : List (Exchange η)))
    (incoming_eq : drive.incoming = said ++ behind) :
    GetsIn c reader.maxFrameSize drive behind [] [] [] (receiveFrom c reader drive) := by
  have between : reader.inProgress = false := by
    obtain ⟨taken, stands, -, none⟩ := awaits
    have fresh : taken = [] := (List.append_eq_nil_iff.mp none).1
    rw [FrameReader.inProgress, Bool.eq_false_iff]
    exact fun inside => stands.inProgress_iff.mp inside fresh
  rw [receiveFrom_of_nothing between waits]
  exact {
    split := rfl
    works := fun failed => by cases failed
    tells := rfl, sameKey := .refl c, alive := rfl, waits := waits
    size_eq := rfl, awaits := ⟨said, awaits, incoming_eq⟩, heard_eq := rfl
    fewer := Nat.le_refl _, less := fun none => absurd rfl none }

/-- Those behind a request that is answered are completed **as if it had not waited**. -/
theorem GetsIn.cons {c c' : Correlator η} {max : Nat} {drive drive' : Responder speak}
    {behind : Bytes} {later answered rest : List (Exchange η)}
    {received : Received η (Responder speak)} (e : Exchange η)
    (h : GetsIn c' max drive' behind later answered rest received) (same : c.SameKey c')
    (heard_eq : drive'.heard = drive.heard) (fewer : drive'.paces.length ≤ drive.paces.length) :
    GetsIn c max drive behind (e :: later) (e :: answered) rest
      { received with
        events := .received (.frame e.answer) :: .completed e.completion :: received.events } where
  split := by rw [h.split, List.cons_append]
  works := h.works
  tells := congrArg (e.completion :: ·) h.tells
  sameKey := same.trans h.sameKey
  alive := h.alive
  waits := h.waits
  size_eq := h.size_eq
  awaits := h.awaits
  heard_eq := h.heard_eq.trans heard_eq
  fewer := h.fewer.trans fewer
  less some := (h.less some).trans_le fewer

/-- **The answer to the first** of those who wait completes it, and the others go on waiting. -/
theorem exists_accept_first {c : Correlator η} {e : Exchange η} {later : List (Exchange η)}
    (distinct : Exchange.Distinct (e :: later))
    (waits : c.outstanding.entries = (e :: later).map Exchange.waiting)
    (answers : e.answer.Answers c.signer c.hmacKey e.request.sequence e.response) :
    ∃ c', c.accept (.frame e.answer) = ⟨c', [e.completion], false⟩ ∧ c.SameKey c' ∧
      c'.outstanding.entries = later.map Exchange.waiting := by
  have nodup := distinct.sequences
  have first : e.waiting ∈ c.outstanding.entries := by
    rw [waits]
    exact List.mem_cons_self ..
  obtain ⟨connectionId, accepted⟩ : ∃ connectionId, c.accept (.frame e.answer) =
      ⟨{ c with outstanding := ⟨c.without [e.request.sequence]⟩, connectionId }, [e.completion],
        false⟩ := by
    refine Correlator.accept_of_waits ?_ first answers
    rw [waits, List.map_map]
    exact nodup
  refine ⟨_, accepted, ⟨rfl, rfl⟩, ?_⟩
  rw [List.map_cons, List.nodup_cons] at nodup
  show c.without [e.request.sequence] = later.map Exchange.waiting
  rw [Correlator.without, waits, List.map_cons,
    List.filter_cons_of_neg (by simp [Exchange.waiting]), List.filter_eq_self]
  intro other mem
  obtain ⟨e', inside, rfl⟩ := List.mem_map.mp mem
  rw [decide_eq_true_eq, List.mem_singleton]
  intro same
  exact nodup.1 (List.mem_map.mpr ⟨e', inside, same⟩)

/-- **Receiving** completes the first exchanges of those that wait. -/
theorem getsIn_receiveFrom {c : Correlator η} {reader : FrameReader} {drive : Responder speak}
    {waiting : List (Exchange η)} {said behind : Bytes}
    (proper : ∀ e ∈ waiting, e.Proper reader.maxFrameSize c.signer c.hmacKey)
    (distinct : Exchange.Distinct waiting)
    (waits : c.outstanding.entries = waiting.map Exchange.waiting)
    (awaits : Awaits reader said waiting) (incoming_eq : drive.incoming = said ++ behind) :
    ∃ answered rest, GetsIn c reader.maxFrameSize drive behind waiting answered rest
      (receiveFrom c reader drive) := by
  -- on those who wait: the answer to the first of them is the next one
  induction waiting generalizing c reader drive said with
  | nil => exact ⟨[], [], getsIn_of_nobody waits awaits incoming_eq⟩
  | cons e later ih =>
    obtain ⟨own, others⟩ := List.forall_mem_cons.mp proper
    have some : c.outstanding.entries ≠ [] := by
      rw [waits]
      exact List.cons_ne_nil _ _
    obtain ⟨max, state⟩ := reader
    obtain ⟨taken, stands, -, answers_eq⟩ := awaits
    have lies : taken ++ drive.incoming = e.answer.encode ++ (answers later ++ behind) := by
      rw [incoming_eq, ← List.append_assoc, answers_eq, ← List.append_assoc]
      rfl
    have meets := Responder.meets_read stands own.fits lies
    cases read : FrameReader.read ⟨max, state⟩ drive with
    | mk outcome rest =>
      rw [read] at meets
      cases meets with
      | @pending state' bytes left drive' answer_eq stands short heard_eq incoming_eq less =>
        rw [receiveFrom_of_pending some read]
        refine ⟨[], e :: later, rfl, nofun, rfl, .refl c, rfl, waits, rfl, ?_, heard_eq,
          Nat.le_of_lt less, fun _ => less⟩
        refine ⟨left ++ answers later, ⟨taken ++ bytes, stands, short, ?_⟩, ?_⟩
        · rw [← List.append_assoc, answer_eq]
          rfl
        · rw [incoming_eq, List.append_assoc]
      | @whole drive' heard_eq incoming_eq fewer =>
        obtain ⟨c', accepted, same, waits'⟩ := exists_accept_first distinct waits own.answers
        rw [← same.signer, ← same.hmacKey] at others
        have frame_eq : (FrameReader.read ⟨max, state⟩ drive).1 = .frame e.answer :=
          congrArg Prod.fst read
        rw [receiveFrom_of_frame (.inr some) frame_eq, framed, accepted,
          if_neg Bool.false_ne_true, read]
        have others : ∀ e ∈ later, e.Proper (FrameReader.mk max .idle).maxFrameSize c'.signer
          c'.hmacKey := others
        have distinct' := distinct.sublist (List.sublist_cons_self e later)
        obtain ⟨answered, rest, gets⟩ := ih others distinct' waits'
          ⟨[], .idle, Nat.one_pos, List.nil_append _⟩ incoming_eq
        exact ⟨e :: answered, rest, gets.cons e same heard_eq fewer⟩

end Inbox

/-! ## Talking -/

namespace Multiplexer

/-- **A connection that talks** to a drive that has heard the requests of the past, with some
exchanges under way and no other traffic: the first of them wait for their answers, and the others
are not entirely written. -/
structure Talks (m : Multiplexer (Responder speak) η) (past : List HeardRequest)
    (pending : List (Exchange η)) : Prop where
  alive : m.failed = false
  coherent : m.Coherent
  proper : ∀ e ∈ pending, e.Proper m.inbox.reader.maxFrameSize m.inbox.correlator.signer
    m.inbox.correlator.hmacKey
  distinct : Distinct pending
  spoken : Spoken speak past pending
  moves : ∃ waiting unsent said, pending = waiting ++ unsent ∧
    m.inbox.correlator.outstanding.entries = waiting.map Exchange.waiting ∧
    Inbox.Awaits m.inbox.reader said waiting ∧
    Sends (past ++ waiting.map Exchange.heard) said unsent m.outbox.current m.outbox.queue m.channel

/-- **What some runs come to**: the first exchanges are completed, and the connection goes on
talking. If there are others left, each run has used up a pace. -/
structure Comes (m m' : Multiplexer (Responder speak) η) (past : List HeardRequest)
    (pending answered rest : List (Exchange η)) (told : List (Completion η)) (runs : Nat) :
    Prop where
  split : pending = answered ++ rest
  tells : told = answered.map Exchange.completion
  talks : m'.Talks (past ++ answered.map Exchange.heard) rest
  sameKey : m.inbox.correlator.SameKey m'.inbox.correlator
  size_eq : m'.inbox.reader.maxFrameSize = m.inbox.reader.maxFrameSize
  sequence_eq : m'.outbox.nextSequence = m.outbox.nextSequence
  key_eq : m'.nextKey = m.nextKey
  fewer : m'.channel.paces.length ≤ m.channel.paces.length
  less : rest ≠ [] → m'.channel.paces.length + runs ≤ m.channel.paces.length

variable {m m' m'' : Multiplexer (Responder speak) η} {past : List HeardRequest}
  {pending answered rest : List (Exchange η)}

theorem Talks.comes (h : m.Talks past pending) : m.Comes m past pending [] pending [] 0 where
  split := rfl
  tells := rfl
  talks := by rwa [List.map_nil, List.append_nil]
  sameKey := .refl _
  size_eq := rfl
  sequence_eq := rfl
  key_eq := rfl
  fewer := Nat.le_refl _
  less _ := Nat.le_refl _

/-- **Some runs and then others.** -/
theorem Comes.trans {answered' rest' : List (Exchange η)} {told told' : List (Completion η)}
    {runs runs' : Nat} (h : m.Comes m' past pending answered rest told runs)
    (h' : m'.Comes m'' (past ++ answered.map Exchange.heard) rest answered' rest' told' runs') :
    m.Comes m'' past pending (answered ++ answered') rest' (told ++ told') (runs + runs') where
  split := by rw [h.split, h'.split, List.append_assoc]
  tells := by rw [h.tells, h'.tells, List.map_append]
  talks := by
    have talks := h'.talks
    rwa [List.append_assoc, ← List.map_append] at talks
  sameKey := h.sameKey.trans h'.sameKey
  size_eq := h'.size_eq.trans h.size_eq
  sequence_eq := h'.sequence_eq.trans h.sequence_eq
  key_eq := h'.key_eq.trans h.key_eq
  fewer := h'.fewer.trans h.fewer
  less some := by
    have sooner : rest ≠ [] := by
      rw [h'.split]
      exact List.append_ne_nil_of_right_ne_nil _ some
    have := h.less sooner
    have := h'.less some
    omega

/-- **A request that is submitted** is one exchange more. -/
theorem Talks.submit (h : m.Talks past pending) {envelope : Envelope} {command : Command}
    {value : Bytes} {e : Exchange η}
    (prepared : m.outbox.prepare envelope command value (some e.handler) m.nextKey m.connectionId =
      .ok e.request)
    (proper : e.Proper m.inbox.reader.maxFrameSize m.inbox.correlator.signer
      m.inbox.correlator.hmacKey)
    (distinct : Distinct (pending ++ [e]))
    (speaks : speak (past ++ pending.map Exchange.heard ++ [e.heard]) = e.answer.encode) :
    (m.submit envelope command value (some e.handler)).2.2.Talks past (pending ++ [e]) := by
  obtain ⟨waiting, unsent, said, split, waits, awaits, sends⟩ := h.moves
  rw [submit_of_alive h.alive, Outbox.enqueue, prepared]
  exact {
    alive := h.alive
    coherent := ⟨h.coherent.outbox, h.coherent.inbox, h.coherent.sound⟩
    proper := List.forall_mem_append.mpr ⟨h.proper, List.forall_mem_singleton.mpr proper⟩
    distinct := distinct
    spoken := Exchange.spoken_append.mpr ⟨h.spoken, speaks, trivial⟩
    moves := by
      refine ⟨waiting, unsent ++ [e], said, ?_, waits, awaits, sends.append e⟩
      rw [split, List.append_assoc] }

/-- **What a run comes to** on a connection that talks. -/
theorem Talks.run (h : m.Talks past pending) :
    ∃ answered rest, m.Comes m.run.service past pending answered rest m.run.completions 1 := by
  obtain ⟨waiting, unsent, said, split, waits, awaits, sends⟩ := h.moves
  have distinct := h.distinct
  have spoken := h.spoken
  have proper := h.proper
  rw [split] at distinct spoken proper
  rw [Exchange.spoken_append] at spoken
  -- first the run writes
  obtain ⟨out, left, stopped, out_of, send_eq⟩ := Outbox.exists_getsOut_send
    (h.coherent.outbox h.alive) (fun e mem => proper e (List.mem_append_right _ mem)) distinct
    spoken.2 sends m.inbox
  rw [Inbox.withWaiting_of_entries waits] at send_eq
  rw [out_of.split, ← List.append_assoc] at distinct proper
  have proper_waiting := fun e mem => proper e (List.mem_append_left left mem)
  -- then it reads, with those who wait by then
  have awaits : Inbox.Awaits m.inbox.reader (said ++ answers out) (waiting ++ out) := by
    obtain ⟨taken, stands, short, answers_eq⟩ := awaits
    refine ⟨taken, stands, short, ?_⟩
    rw [← List.append_assoc, answers_eq, Exchange.answers_append]
  obtain ⟨behind, incoming_eq, reads⟩ := out_of.sends.exists_behind
  obtain ⟨answered, rest, in_of⟩ := Inbox.getsIn_receiveFrom
    (c := (m.inbox.withWaiting (waiting ++ out)).correlator) proper_waiting
    (distinct.sublist (List.sublist_append_left _ _)) rfl
    awaits incoming_eq
  have writes_eq : m.writes = ⟨stopped.activity, stopped.events,
      { m.outbox with current := stopped.current, queue := stopped.queue }, stopped.inbox,
      stopped.channel⟩ := send_eq
  have reads_eq : m.reads = Inbox.receiveFrom
      (m.inbox.withWaiting (waiting ++ out)).correlator m.inbox.reader stopped.channel := by
    rw [Multiplexer.reads, writes_eq, out_of.inbox_eq]
  rw [← reads_eq] at in_of
  have ran := run_of_writesWork h.coherent h.alive (writes_eq ▸ out_of.works)
  rw [writes_eq, if_neg in_of.works, decide_eq_false in_of.works] at ran
  have coherent := h.coherent.run
  rw [ran] at coherent ⊢
  have all : pending = answered ++ (rest ++ left) := by
    rw [split, out_of.split, ← List.append_assoc, in_of.split, List.append_assoc]
  refine ⟨answered, rest ++ left, ?_⟩
  exact {
    split := all
    tells := by
      rw [Ran.completions, Event.completions_append, out_of.tells, List.nil_append]
      exact in_of.tells
    sameKey := ⟨in_of.sameKey.signer, in_of.sameKey.hmacKey⟩
    size_eq := in_of.size_eq
    sequence_eq := rfl
    key_eq := rfl
    fewer := in_of.fewer.trans out_of.fewer
    less := fun some => by
      by_cases all_out : left = []
      · rw [all_out, List.append_nil] at some
        exact (in_of.less some).trans_le out_of.fewer
      · exact in_of.fewer.trans_lt (out_of.less all_out)
    talks := {
      alive := rfl
      coherent := coherent
      proper := by
        have proper := h.proper
        rw [all] at proper
        simp only [in_of.size_eq, in_of.sameKey.signer, in_of.sameKey.hmacKey]
        exact fun e mem => proper e (List.mem_append_right _ mem)
      distinct := h.distinct.sublist (all ▸ List.sublist_append_right _ _)
      spoken := by
        have spoken := h.spoken
        rw [all] at spoken
        exact (Exchange.spoken_append.mp spoken).2
      moves := by
        obtain ⟨said', awaits', incoming_eq'⟩ := in_of.awaits
        have sends' := reads _ said' in_of.heard_eq incoming_eq'
        rw [List.append_assoc, ← List.map_append, in_of.split, List.map_append,
          ← List.append_assoc] at sends'
        exact ⟨rest, left, said', rfl, in_of.waits, awaits', sends'⟩ } }

end Multiplexer

end DriveLink
