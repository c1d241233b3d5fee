import DriveLink.Proofs.Pipeline.Burst
import DriveLink.Proofs.Pipeline.Greeting
import DriveLink.Proofs.Pipeline.Once
import DriveLink.Proofs.Pipeline.Rounds

/-! # Responses in any order

Responses come in whatever order the drive likes. Each of them is for one request that waits, and as
long as no two are for the same request, their order only decides who is called first, and which
number of the connection is the last one.

* `Inbox.Reachable`, `Inbox.Distinct` — every inbox that was greeted, and what is true of it;
* `Correlator.Reply` — a response that a request waits for;
* `Correlator.accept_reply`, `Correlator.wants_replies` — what one of them does, and what all do;
* `Inbox.SameButOrder`, `responses_in_any_order` — two orders of the same responses. -/

namespace DriveLink

variable {σ η : Type}

/-! ## Inboxes that were greeted -/

namespace Inbox

/-- An inbox that was **greeted on some channel**, and used since in any way. -/
inductive Reachable (σ : Type) [Channel σ] [Pollable σ] : Inbox η → Prop
  | greeted {patience : Nat} {signer : Signer} {options : Options} {s s' : σ} {greeted : Greeted η}
      (greets : greet patience signer options s = some (.ok greeted, s')) :
      Reachable σ greeted.inbox
  | track {inbox inbox' : Inbox η} {request : OutstandingRequest η} (h : Reachable σ inbox)
      (tracks : inbox.track request = some inbox') : Reachable σ inbox'
  | remove {inbox : Inbox η} (h : Reachable σ inbox) (key : RequestKey) :
      Reachable σ (inbox.remove key).2
  | receive {inbox : Inbox η} (h : Reachable σ inbox) (s : σ) :
      Reachable σ (inbox.receive s).inbox

/-- **Either name** of a request that is out is its own. -/
structure Distinct (inbox : Inbox η) : Prop where
  sequences : (inbox.correlator.outstanding.entries.map OutstandingRequest.sequence).Nodup
  keys : (inbox.correlator.outstanding.entries.map OutstandingRequest.key).Nodup

theorem Distinct.of_sublist {inbox inbox' : Inbox η} (h : inbox.Distinct)
    (fewer : inbox'.correlator.outstanding.entries.Sublist inbox.correlator.outstanding.entries) :
    inbox'.Distinct :=
  ⟨h.sequences.sublist (fewer.map _), h.keys.sublist (fewer.map _)⟩

/-- Different names and **one more** are different names. -/
theorem nodup_map_concat {α β : Type} {f : α → β} {l : List α} {a : α} (nodup : (l.map f).Nodup)
    (free : ∀ b ∈ l, f b ≠ f a) : ((l ++ [a]).map f).Nodup := by
  rw [List.map_append, List.map_singleton, ← List.concat_eq_append]
  refine nodup.concat fun mem => ?_
  obtain ⟨b, inside, same⟩ := List.mem_map.mp mem
  exact free b inside same

/-- A request is put in **behind the others**, if its names are free. -/
theorem entries_of_track {inbox inbox' : Inbox η} {request : OutstandingRequest η}
    (tracks : inbox.track request = some inbox') :
    inbox'.correlator.outstanding.entries = inbox.correlator.outstanding.entries ++ [request] ∧
      ∀ other ∈ inbox.correlator.outstanding.entries,
        other.sequence ≠ request.sequence ∧ other.key ≠ request.key := by
  unfold Inbox.track Outstanding.insert at tracks
  split at tracks
  · rename_i outstanding inserted
    cases tracks
    split at inserted
    · cases inserted
    · rename_i fresh
      cases inserted
      rw [Bool.or_eq_true, not_or, Outstanding.hasSequence, Outstanding.hasKey,
        Bool.not_eq_true, Bool.not_eq_true, List.any_eq_false, List.any_eq_false] at fresh
      refine ⟨rfl, fun other mem => ⟨fun same => ?_, fun same => ?_⟩⟩
      · exact fresh.1 other mem (decide_eq_true same)
      · exact fresh.2 other mem (decide_eq_true same)
  · cases tracks

/-- A request that is put in has **names of its own**. -/
theorem Distinct.track {inbox inbox' : Inbox η} {request : OutstandingRequest η}
    (h : inbox.Distinct) (tracks : inbox.track request = some inbox') : inbox'.Distinct := by
  obtain ⟨entries_eq, free⟩ := entries_of_track tracks
  constructor
  · rw [entries_eq]
    exact nodup_map_concat h.sequences fun other mem => (free other mem).1
  · rw [entries_eq]
    exact nodup_map_concat h.keys fun other mem => (free other mem).2

/-- What is taken back leaves **the others**. -/
theorem sublist_remove (inbox : Inbox η) (key : RequestKey) :
    (inbox.remove key).2.correlator.outstanding.entries.Sublist
      inbox.correlator.outstanding.entries := by
  unfold Inbox.remove Outstanding.removeByKey
  cases inbox.correlator.outstanding.entries.find? (·.key = key) with
  | none => exact .refl _
  | some request => exact List.eraseP_sublist

/-- After a call to receive, **nobody waits who did not** before it. -/
theorem sublist_receiveFrom [Channel σ] (c : Correlator η) (reader : FrameReader) (s : σ) :
    (receiveFrom c reader s).inbox.correlator.outstanding.entries.Sublist
      c.outstanding.entries := by
  fun_induction receiveFrom c reader s with
  | case1 c reader s nothing => exact .refl _
  | case2 c reader s some read ends accepted events stop => exact (c.accepts_accept ends).waits.1
  | case3 c reader s some read ends accepted events more later ih =>
    exact ih.trans (c.accepts_accept ends).waits.1
  | case4 c reader s some read open' error failure failed c' all =>
    cases all
    exact List.nil_sublist _
  | case5 c reader s some read open' fine => exact .refl _

/-- An inbox that was just greeted **waits for nothing**. -/
theorem distinct_of_greet [Channel σ] [Pollable σ] {patience : Nat} {signer : Signer}
    {options : Options} {s s' : σ} {greeted : Greeted η}
    (greets : greet patience signer options s = some (.ok greeted, s')) :
    greeted.inbox.Distinct := by
  unfold greet at greets
  simp only at greets
  split at greets
  · cases greets
  · split at greets
    · cases greets
    · cases greets
      exact ⟨List.nodup_nil, List.nodup_nil⟩

theorem Reachable.distinct [Channel σ] [Pollable σ] {inbox : Inbox η} (h : inbox.Reachable σ) :
    inbox.Distinct := by
  induction h with
  | greeted greets => exact distinct_of_greet greets
  | track _ tracks ih => exact ih.track tracks
  | remove _ key ih => exact ih.of_sublist (sublist_remove _ key)
  | receive _ s ih =>
    refine ih.of_sublist ?_
    unfold Inbox.receive
    split
    · exact .refl _
    · exact sublist_receiveFrom _ _ s

end Inbox

/-! ## Responses that requests wait for -/

/-- Frames that fit are **parsed as they are**. -/
theorem Frame.parse_flatMap_encode {max : Nat} {frames : List Frame}
    (fit : ∀ frame ∈ frames, frame.Fits max) :
    parse max (frames.flatMap encode) = (frames.map .frame, []) := by
  induction frames with
  | nil => exact parse_nil max
  | cons frame frames ih =>
    obtain ⟨fits, fit⟩ := List.forall_mem_cons.mp fit
    rw [List.flatMap_cons, parse_whole (whole_encode fits), ih fit]
    rfl

namespace Correlator

/-- A response that **a request waits for**, in a frame that is not too large. -/
structure Reply (max : Nat) (c : Correlator η) where
  frame : Frame
  request : OutstandingRequest η
  response : Command
  fits : frame.Fits max
  waits : request ∈ c.outstanding.entries
  answers : frame.Answers c.signer c.hmacKey request.sequence response

/-- The sequence that the response **answers**. -/
def Reply.sequence {max : Nat} {c : Correlator η} (reply : c.Reply max) : Int64 :=
  reply.request.sequence

/-- What reading the frame **comes to**. -/
def Reply.outcome {max : Nat} {c : Correlator η} (reply : c.Reply max) : ReadOutcome :=
  .frame reply.frame

/-- The **call** that the request gets. -/
def Reply.completion {max : Nat} {c : Correlator η} (reply : c.Reply max) : Completion η :=
  .answer reply.request.key reply.request.handler reply.response reply.frame.value

/-- The requests that wait for **none of some sequences**. -/
def without (c : Correlator η) (sequences : List Int64) : List (OutstandingRequest η) :=
  c.outstanding.entries.filter fun request => request.sequence ∉ sequences

/-- **A response** completes its request, and all others go on waiting. -/
theorem accept_of_waits {c : Correlator η} {frame : Frame} {request : OutstandingRequest η}
    {response : Command}
    (nodup : (c.outstanding.entries.map OutstandingRequest.sequence).Nodup)
    (waits : request ∈ c.outstanding.entries)
    (answers : frame.Answers c.signer c.hmacKey request.sequence response) :
    ∃ connectionId, c.accept (.frame frame) =
      ⟨{ c with outstanding := ⟨c.without [request.sequence]⟩, connectionId },
        [.answer request.key request.handler response frame.value], false⟩ := by
  obtain ⟨opens, inner, answers⟩ := answers
  obtain ⟨connectionId, learns⟩ := c.learn_eq response
  refine ⟨connectionId, ?_⟩
  rw [accept, dispatch_of_opened (openResponse_of_opens opens inner) answers, learns]
  cases removed : c.outstanding.removeBySequence request.sequence with
  | none => exact absurd rfl (Outstanding.removeBySequence_eq_none_iff.mp removed request waits)
  | some taken =>
    obtain ⟨other, outstanding⟩ := taken
    obtain ⟨before, after, entries_eq, rfl, same⟩ := Outstanding.exists_split removed
    have inside : other ∈ c.outstanding.entries := by
      rw [entries_eq]
      exact List.mem_append_right _ (List.mem_cons_self ..)
    obtain rfl := List.inj_on_of_nodup_map nodup inside waits same
    -- the others have other sequences, so that none of them is taken out with it
    rw [entries_eq, List.map_append, List.map_cons, List.nodup_middle, List.nodup_cons,
      ← List.map_append] at nodup
    have apart (next : OutstandingRequest η) (mem : next ∈ before ++ after) :
        decide (next.sequence ∉ [other.sequence]) = true := by
      rw [decide_eq_true_eq, List.mem_singleton]
      intro same
      exact nodup.1 (List.mem_map.mpr ⟨next, mem, same⟩)
    have left : c.without [other.sequence] = before ++ after := by
      rw [without, entries_eq, List.filter_append, List.filter_cons_of_neg (by simp),
        ← List.filter_append, List.filter_eq_self.mpr apart]
    rw [left]

/-- Who waits for none of some sequences, nor for one more, **waits for none of all**. -/
theorem without_without (c : Correlator η) (sequence : Int64) (sequences : List Int64)
    (connectionId : Option Int64) :
    without { c with outstanding := ⟨c.without [sequence]⟩, connectionId } sequences =
      c.without (sequence :: sequences) := by
  simp only [without, List.filter_filter, List.mem_cons, List.not_mem_nil, or_false, not_or,
    Bool.decide_and, Bool.and_comm]

/-- **Responses to different requests** are all wanted. They complete their requests one after the
other, and all others go on waiting. -/
theorem wants_replies {max : Nat} {c₀ c : Correlator η} (same : SameKey c₀ c)
    (nodup : (c.outstanding.entries.map OutstandingRequest.sequence).Nodup)
    {replies : List (c₀.Reply max)}
    (distinct : (replies.map Reply.sequence).Nodup)
    (waits : ∀ reply ∈ replies, reply.request ∈ c.outstanding.entries) :
    c.Wants (replies.map Reply.outcome) ∧
      Event.completions (c.told (replies.map Reply.outcome)) =
        replies.map Reply.completion ∧
      ∃ connectionId, c.afterAll (replies.map Reply.outcome) =
        { c with outstanding := ⟨c.without (replies.map Reply.sequence)⟩,
                 connectionId } := by
  -- on the responses: the first one takes its request out, and leaves those of the others in
  induction replies generalizing c with
  | nil =>
    refine ⟨.nil c, rfl, c.connectionId, ?_⟩
    have all : c.without [] = c.outstanding.entries :=
      List.filter_eq_self.mpr fun _ _ => decide_eq_true List.not_mem_nil
    rw [List.map_nil, List.map_nil, all]
    rfl
  | cons reply replies ih =>
    obtain ⟨waits_first, waits⟩ := List.forall_mem_cons.mp waits
    rw [List.map_cons, List.nodup_cons] at distinct
    have answers := reply.answers
    rw [← same.signer, ← same.hmacKey] at answers
    obtain ⟨connectionId, accepted⟩ : ∃ connectionId, c.accept reply.outcome =
        ⟨{ c with outstanding := ⟨c.without [reply.sequence]⟩, connectionId },
          [reply.completion], false⟩ := accept_of_waits nodup waits_first answers
    have still (other : c₀.Reply max) (mem : other ∈ replies) :
        other.request ∈ c.without [reply.sequence] := by
      refine List.mem_filter.mpr ⟨waits other mem, ?_⟩
      rw [decide_eq_true_eq, List.mem_singleton]
      intro clash
      exact distinct.1 (List.mem_map.mpr ⟨other, mem, clash⟩)
    have fewer : ((c.without [reply.sequence]).map OutstandingRequest.sequence).Nodup :=
      nodup.sublist (List.filter_sublist.map _)
    obtain ⟨wants, told_eq, connectionId', after_eq⟩ :=
      ih (c := { c with outstanding := ⟨c.without [reply.sequence]⟩, connectionId })
        ⟨same.signer, same.hmacKey⟩ fewer distinct.2 still
    refine ⟨.cons (List.ne_nil_of_mem waits_first) ?_ ?_, ?_, connectionId', ?_⟩
    · rw [accepted]
    · rw [accepted]
      exact wants
    · rw [List.map_cons, told_cons, Event.completions_append, completions_toldOf, accepted, told_eq]
      rfl
    · rw [List.map_cons, afterAll_cons, accepted, after_eq, without_without, List.map_cons]

end Correlator

/-! ## Two orders -/

namespace Inbox

open Correlator (Reply)

variable {inbox : Inbox η} {schedule : Schedule} {times : Nat}
  {replies replies' : List (inbox.correlator.Reply inbox.reader.maxFrameSize)}

/-- **Responses that come in pieces** are all handed over, each to its request, and the inbox is
between two frames again. -/
theorem receiveTimes_replies (alive : inbox.failed = false) (distinct : inbox.Distinct)
    (between : inbox.reader.state = .idle) (different : (replies.map Reply.sequence).Nodup)
    (stream_eq : schedule.stream = (replies.map Reply.frame).flatMap Frame.encode)
    (enough : schedule.arrivals.length ≤ times) :
    (inbox.receiveTimes times schedule).completions = replies.map Reply.completion ∧
      ∃ connectionId, (inbox.receiveTimes times schedule).inbox =
        { inbox with correlator := { inbox.correlator with
            outstanding := ⟨inbox.correlator.without (replies.map Reply.sequence)⟩
            connectionId } } := by
  obtain ⟨c, ⟨max, state⟩, failed⟩ := inbox
  cases alive
  cases between
  obtain ⟨wants, told_eq, connectionId, after_eq⟩ := Correlator.wants_replies (.refl c)
    distinct.sequences different fun reply _ => reply.waits
  have parsed : Frame.parse max ([] ++ schedule.stream) = (replies.map Reply.outcome, []) := by
    have fit : ∀ frame ∈ replies.map Reply.frame, frame.Fits max :=
      List.forall_mem_map.mpr fun reply _ => reply.fits
    rw [List.nil_append, stream_eq, Frame.parse_flatMap_encode fit, List.map_map]
    rfl
  have whole : ∀ outcome ∈ replies.map Reply.outcome, outcome.endsFrame = true :=
    List.forall_mem_map.mpr fun _ _ => rfl
  obtain ⟨events_eq, inbox_eq⟩ :=
    receiveTimes_of_wants wants whole .idle Nat.one_pos parsed (.inl enough)
  refine ⟨?_, connectionId, ?_⟩
  · rw [Received.completions, events_eq, told_eq]
  · rw [inbox_eq, after_eq]

/-- A dead inbox **does nothing**. -/
theorem receiveTimes_of_failed (dead : inbox.failed = true) (times : Nat) (schedule : Schedule) :
    (inbox.receiveTimes times schedule).completions = [] ∧
      (inbox.receiveTimes times schedule).inbox = inbox := by
  induction times with
  | zero => exact ⟨rfl, rfl⟩
  | succ times ih =>
    have receive_eq : inbox.receive schedule = ⟨.failed, [], inbox, schedule⟩ := by
      rw [receive, if_pos dead]
    rw [receiveTimes_succ, receive_eq]
    exact ih

/-- The calls are **for different keys**. -/
theorem nodup_keys_replies (distinct : inbox.Distinct)
    (different : (replies.map Reply.sequence).Nodup) :
    ((replies.map Reply.completion).map Completion.key).Nodup := by
  have key_eq (reply : inbox.correlator.Reply inbox.reader.maxFrameSize) :
      reply.completion.key = reply.request.key := by
    rw [Reply.completion, Completion.eq_answer]
  rw [List.map_map]
  refine (List.nodup_map_iff_inj_on different.of_map).mpr fun reply mem other mem' same => ?_
  rw [Function.comp_apply, Function.comp_apply, key_eq, key_eq] at same
  -- one key is one request, and one request is one response
  have request_eq := List.inj_on_of_nodup_map distinct.keys reply.waits other.waits same
  have sequence_eq : reply.sequence = other.sequence :=
    congrArg OutstandingRequest.sequence request_eq
  exact List.inj_on_of_nodup_map different mem mem' sequence_eq

/-- **Two orders of the same responses**, and what is the same in both: every call, by whoever is
called, and everything that the inbox is then, but for the number of the connection. -/
structure SameButOrder (inbox : Inbox η)
    (replies : List (inbox.correlator.Reply inbox.reader.maxFrameSize))
    (run run' : Received η Schedule) : Prop where
  calls : ∀ request ∈ inbox.correlator.outstanding.entries,
    run'.completions.filter (·.key = request.key) = run.completions.filter (·.key = request.key)
  inbox_eq : run'.inbox = { run.inbox with correlator := { run.inbox.correlator with
    connectionId := run'.inbox.correlator.connectionId } }
  /-- Nobody else is called. -/
  perm : run'.completions.Perm run.completions
  /-- Whoever a response is for is called with it, unless the inbox is dead. -/
  answered : inbox.failed = false → ∀ reply ∈ replies,
    run.completions.filter (·.key = reply.request.key) = [reply.completion]
  /-- Nobody else is called, and all others go on waiting. Nothing more is changed but the number of
  the connection. -/
  waiting : inbox.failed = false → run.completions.length = replies.length ∧
    ∃ connectionId, run.inbox = { inbox with correlator := { inbox.correlator with
      outstanding := ⟨inbox.correlator.without (replies.map Reply.sequence)⟩
      connectionId } }
  /-- A dead inbox calls nobody, and changes nothing. -/
  dead : inbox.failed = true → run.completions = [] ∧ run.inbox = inbox

/-- In whatever order calls come, **whoever has a key** is called in the same way. -/
theorem filter_key_eq_of_perm {done done' : List (Completion η)}
    (nodup : (done.map Completion.key).Nodup) (perm : done'.Perm done) (key : RequestKey) :
    done'.filter (·.key = key) = done.filter (·.key = key) := by
  have perm := perm.filter (·.key = key)
  by_cases called : ∃ completion ∈ done, completion.key = key
  · obtain ⟨completion, mem, rfl⟩ := called
    rw [filter_key_eq_singleton nodup mem] at perm ⊢
    exact List.perm_singleton.mp perm
  · -- a key that nobody is called by has no call in either order
    have nobody : done.filter (·.key = key) = [] :=
      List.filter_eq_nil_iff.mpr fun completion mem same =>
        called ⟨completion, mem, of_decide_eq_true same⟩
    rw [nobody] at perm ⊢
    exact perm.eq_nil

/-- Two orders of responses leave **the same requests** waiting. -/
theorem without_eq_of_perm {c : Correlator η} {sequences sequences' : List Int64}
    (perm : sequences'.Perm sequences) : c.without sequences' = c.without sequences :=
  List.filter_congr fun _ _ => by rw [decide_eq_decide, perm.mem_iff]

theorem sameButOrder_of_alive (distinct : inbox.Distinct) (between : inbox.reader.state = .idle)
    (different : (replies.map Reply.sequence).Nodup) (perm : replies'.Perm replies)
    {schedule' : Schedule} {times' : Nat}
    (stream_eq : schedule.stream = (replies.map Reply.frame).flatMap Frame.encode)
    (stream_eq' : schedule'.stream = (replies'.map Reply.frame).flatMap Frame.encode)
    (enough : schedule.arrivals.length ≤ times) (enough' : schedule'.arrivals.length ≤ times')
    (alive : inbox.failed = false) :
    inbox.SameButOrder replies (inbox.receiveTimes times schedule)
      (inbox.receiveTimes times' schedule') := by
  have different' := (perm.map Reply.sequence).nodup_iff.mpr different
  have nodup := nodup_keys_replies distinct different
  obtain ⟨done_eq, connectionId, left_eq⟩ :=
    receiveTimes_replies alive distinct between different stream_eq enough
  obtain ⟨done_eq', connectionId', left_eq'⟩ :=
    receiveTimes_replies alive distinct between different' stream_eq' enough'
  have perm_done : (inbox.receiveTimes times' schedule').completions.Perm
      (inbox.receiveTimes times schedule).completions := by
    rw [done_eq, done_eq']
    exact perm.map Reply.completion
  rw [← done_eq] at nodup
  constructor
  · exact fun request _ => filter_key_eq_of_perm nodup perm_done request.key
  · rw [left_eq, left_eq', without_eq_of_perm (perm.map Reply.sequence)]
  · exact perm_done
  · intro _ reply mem
    have key_eq : reply.completion.key = reply.request.key := by
      rw [Reply.completion, Completion.eq_answer]
    rw [← key_eq]
    refine filter_key_eq_singleton nodup ?_
    rw [done_eq]
    exact List.mem_map_of_mem mem
  · intro _
    rw [done_eq, List.length_map]
    exact ⟨rfl, connectionId, left_eq⟩
  · intro dead
    rw [alive] at dead
    cases dead

theorem sameButOrder_of_failed (dead : inbox.failed = true) (schedule schedule' : Schedule)
    (times times' : Nat) :
    inbox.SameButOrder replies (inbox.receiveTimes times schedule)
      (inbox.receiveTimes times' schedule') := by
  obtain ⟨done_eq, left_eq⟩ := receiveTimes_of_failed dead times schedule
  obtain ⟨done_eq', left_eq'⟩ := receiveTimes_of_failed dead times' schedule'
  constructor
  · exact fun _ _ => by rw [done_eq, done_eq']
  · rw [left_eq, left_eq']
  · rw [done_eq, done_eq']
  · intro alive
    rw [dead] at alive
    cases alive
  · intro alive
    rw [dead] at alive
    cases alive
  · exact fun _ => ⟨done_eq, left_eq⟩

end Inbox

open Correlator (Reply) in
/-- **Responses do not depend on their order.** Take any inbox that was greeted and used since in
any way, if it is between two frames, and any responses to different requests that wait in it. In
whatever order they come, and in whatever pieces, once all are there each request has got the same
call, with the same response and value, or none, and the inbox is the same but for the number of the
connection. -/
theorem responses_in_any_order [Channel σ] [Pollable σ] {inbox : Inbox η}
    (reachable : inbox.Reachable σ) (between : inbox.reader.state = .idle)
    {replies replies' : List (inbox.correlator.Reply inbox.reader.maxFrameSize)}
    (different : (replies.map Reply.sequence).Nodup) (perm : replies'.Perm replies)
    {schedule schedule' : Schedule} {times times' : Nat}
    (stream_eq : schedule.stream = (replies.map Reply.frame).flatMap Frame.encode)
    (stream_eq' : schedule'.stream = (replies'.map Reply.frame).flatMap Frame.encode)
    (enough : schedule.arrivals.length ≤ times) (enough' : schedule'.arrivals.length ≤ times') :
    inbox.SameButOrder replies (inbox.receiveTimes times schedule)
      (inbox.receiveTimes times' schedule') := by
  cases alive : inbox.failed with
  | true => exact Inbox.sameButOrder_of_failed alive schedule schedule' times times'
  | false =>
    exact Inbox.sameButOrder_of_alive reachable.distinct between different perm stream_eq
      stream_eq' enough enough' alive

section Swapped

/-- A response to the first request, in two pieces, and one to the second behind it. -/
def inOrder : Schedule :=
  ⟨[.bytes ((signedResponse [7] 0).encode.take 5), .block,
    .bytes ((signedResponse [7] 0).encode.drop 5 ++ (signedResponse [7] 1).encode)]⟩

/-- The same responses **the other way round**, in one piece. -/
def swapped : Schedule :=
  ⟨[.bytes ((signedResponse [7] 1).encode ++ (signedResponse [7] 0).encode)]⟩

/-- An inbox with two requests out. -/
def withTwoOut (inbox : Inbox Nat) : Option (Inbox Nat) :=
  (inbox.track ⟨0, 0, 10⟩).bind (·.track ⟨1, 1, 20⟩)

/-- Two requests are answered **alike**, whichever answer comes first. -/
theorem responses_in_any_order_swapped :
    ∃ (inbox : Inbox Nat) (first second : inbox.correlator.Reply inbox.reader.maxFrameSize),
      inbox.Reachable Opening ∧ inbox.reader.state = .idle ∧ inbox.failed = false ∧
      [first, second].map (·.request.handler) = [10, 20] ∧
      ([first, second].map Correlator.Reply.sequence).Nodup ∧
      [second, first].Perm [first, second] ∧
      inOrder.stream = ([first, second].map Correlator.Reply.frame).flatMap Frame.encode ∧
      swapped.stream = ([second, first].map Correlator.Reply.frame).flatMap Frame.encode ∧
      inOrder.arrivals.length ≤ 3 ∧ swapped.arrivals.length ≤ 1 ∧
      inbox.SameButOrder [first, second] (inbox.receiveTimes 3 inOrder)
        (inbox.receiveTimes 1 swapped) := by
  have check : ((greet 4 (.constant [7]) { hmacKey := [1] } punctual :
      Option (Except Failure (Greeted Nat) × Opening)).any fun answer =>
        answer.1.toOption.any fun greeted => (withTwoOut greeted.inbox).any fun inbox =>
          decide (inbox.reader.inProgress = false ∧ inbox.failed = false ∧
            ([0, 1].all fun sequence =>
              decide ((signedResponse [7] sequence).Fits inbox.reader.maxFrameSize) &&
                (signedResponse [7] sequence).succeeds inbox.correlator.signer
                  inbox.correlator.hmacKey sequence) = true)) = true := by
    decide +kernel
  obtain ⟨⟨answer, left⟩, greets, check⟩ := (Option.any_eq_true _ _).mp check
  obtain ⟨greeted, ok, check⟩ := (Option.any_eq_true _ _).mp check
  obtain ⟨inbox, tracks, check⟩ := (Option.any_eq_true _ _).mp check
  obtain ⟨between, alive, answered⟩ := of_decide_eq_true check
  obtain rfl := eq_ok_of_toOption ok
  obtain ⟨inbox₁, first_tracks, second_tracks⟩ := Option.bind_eq_some_iff.mp tracks
  have reachable : inbox.Reachable Opening :=
    ((Inbox.Reachable.greeted greets).track first_tracks).track second_tracks
  have idle : inbox.reader.state = .idle := by
    rw [FrameReader.inProgress] at between
    cases state : inbox.reader.state with
    | idle => rfl
    | _ =>
      rw [state] at between
      cases between
  have out : inbox.correlator.outstanding.entries =
      greeted.inbox.correlator.outstanding.entries ++ [⟨0, 0, 10⟩] ++ [⟨1, 1, 20⟩] := by
    rw [(Inbox.entries_of_track second_tracks).1, (Inbox.entries_of_track first_tracks).1]
  have holds := List.all_eq_true.mp answered
  obtain ⟨fits, succeeds⟩ := Bool.and_eq_true_iff.mp (holds 0 (by simp))
  obtain ⟨fits', succeeds'⟩ := Bool.and_eq_true_iff.mp (holds 1 (by simp))
  obtain ⟨response, answers, -⟩ := Frame.exists_answers succeeds
  obtain ⟨response', answers', -⟩ := Frame.exists_answers succeeds'
  let first : inbox.correlator.Reply inbox.reader.maxFrameSize :=
    ⟨signedResponse [7] 0, ⟨0, 0, 10⟩, response, of_decide_eq_true fits, by simp [out], answers⟩
  let second : inbox.correlator.Reply inbox.reader.maxFrameSize :=
    ⟨signedResponse [7] 1, ⟨1, 1, 20⟩, response', of_decide_eq_true fits', by simp [out], answers'⟩
  have different : ([first, second].map Correlator.Reply.sequence).Nodup := by
    show ([0, 1] : List Int64).Nodup
    decide
  have perm : [second, first].Perm [first, second] := .swap first second []
  have stream_eq : inOrder.stream =
      ([first, second].map Correlator.Reply.frame).flatMap Frame.encode := by
    show _ = (signedResponse [7] 0).encode ++ ((signedResponse [7] 1).encode ++ [])
    decide +kernel
  have stream_eq' : swapped.stream =
      ([second, first].map Correlator.Reply.frame).flatMap Frame.encode := by
    show _ = (signedResponse [7] 1).encode ++ ((signedResponse [7] 0).encode ++ [])
    decide +kernel
  exact ⟨inbox, first, second, reachable, idle, alive, rfl, different, perm, stream_eq, stream_eq',
    by decide, by decide, responses_in_any_order reachable idle different perm stream_eq stream_eq'
      (by decide) (by decide)⟩

end Swapped

end DriveLink
