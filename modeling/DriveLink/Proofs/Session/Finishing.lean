import DriveLink.Proofs.Pipeline.Blame
import DriveLink.Proofs.Pipeline.Interest
import DriveLink.Proofs.Session.Batches

/-! # How a batch ends

Whoever opens a batch commits it, discards it, or abandons it. Each of them queues one more request
behind those of the batch, and the drive keeps the batch open until it hears that request. A call
that commits or discards may give up while its request still waits for its turn. Then it recalls the
request, and nobody submits another one: the batch is left open, on a connection that is alive.

* `Multiplexer.drained_of_run` — when a run says that nothing is left to write;
* `Multiplexer.TakesBack` — turns in which requests of a batch are taken back;
* `Finish`, `Blocking.finishBatch` — the ways to finish a batch;
* `Blocking.LeavesOpen` — when they leave it open;
* `finished_batch_is_closed` — in all other cases they close it. -/

namespace DriveLink

open Metered (gauge)
open Simulation (HeardRequest)

/-! ## Nothing left to write -/

section Drained

variable {σ η : Type} [Channel σ]

/-- A run that asks for nothing but to read has **written all there was** to write. -/
theorem Multiplexer.drained_of_run {m : Multiplexer σ η} (coherent : m.Coherent)
    {readiness : Readiness} (asks : m.run.readiness = some readiness)
    (drained : readiness.write = false) :
    m.run.service.failed = false ∧ m.run.service.outbox.failed = false ∧
      m.run.service.outbox.current = none ∧ m.run.service.outbox.queue = [] := by
  have alive : m.failed = false := by
    rw [← Bool.not_eq_true]
    intro dead
    rw [run_of_failed dead] at asks
    cases asks
  have works : m.writes.activity ≠ .failed := by
    intro fails
    rw [run_of_writeFails alive fails] at asks
    cases asks
  rw [run_of_writesWork coherent alive works] at asks ⊢
  have reads : m.reads.activity ≠ .failed := by
    intro fails
    rw [if_pos fails] at asks
    cases asks
  rw [if_neg reads] at asks
  cases activity : m.writes.activity with
  | idle => exact ⟨decide_eq_false reads, Outbox.nothing_of_send activity⟩
  | waiting =>
    rw [activity] at asks
    cases asks
    cases drained
  | failed => exact absurd activity works

end Drained

/-! ## Taking back requests of a batch -/

section TakingBack

variable {σ η : Type} [Channel σ] {m : Multiplexer σ η} {turns later : List (Turn σ η)}

/-- In some turn the owner **takes a request back** that carries a number, while it waits for its
turn. -/
def Multiplexer.TakesBack (m : Multiplexer σ η) (turns : List (Turn σ η)) (id : UInt32) : Prop :=
  ∃ before key after, turns = before ++ .remove key :: after ∧
    ∃ request ∈ (m.live before).service.outbox.queue,
      request.key = key ∧ request.carries id = true

/-- A run **takes nothing back**. -/
theorem Multiplexer.TakesBack.of_concat_run {id : UInt32} (h : m.TakesBack (turns ++ [.run]) id) :
    m.TakesBack turns id := by
  obtain ⟨before, key, after, split, waits⟩ := h
  rcases after.eq_nil_or_concat with rfl | ⟨init, last, rfl⟩
  · have same := (List.append_inj' split rfl).2
    cases same
  · rw [List.concat_eq_append, ← List.cons_append, ← List.append_assoc] at split
    exact ⟨before, key, init, (List.append_inj' split rfl).1, waits⟩

/-- A request that has not been taken back **stays so** as long as none of its batch is. -/
theorem Multiplexer.not_withdraws_of_later_kept (fresh : m.Fresh)
    (numbered : Numbered (m.live (turns ++ later)).events (m.live (turns ++ later)).service)
    {id : UInt32} (kept : ¬ (m.live turns).service.TakesBack later id) {request : QueuedRequest η}
    (queued : .queued request ∈ (m.live turns).events) (carries : request.carries id = true)
    (stays : ¬ m.Withdraws turns request.sequence) :
    ¬ m.Withdraws (turns ++ later) request.sequence := by
  rw [withdraws_append]
  rintro (earlier | ⟨before, key, after, rfl, other, waits, own, same⟩)
  · exact stays earlier
  · obtain ⟨out, begun, rest, written⟩ := (path_live m (turns ++ before)).written fresh
    have waiting : other ∈ (m.live (turns ++ before)).service.outbox.queue := by rwa [live_append]
    have known := written.order.subset (List.mem_append_right _ waiting)
    have inside {event : Event η} (mem : event ∈ (m.live (turns ++ before)).events) :
        event ∈ (m.live (turns ++ (before ++ .remove key :: after))).events := by
      rw [← List.append_assoc, live_append]
      exact List.mem_append_left _ mem
    have queued' : .queued request ∈
        (m.live (turns ++ (before ++ .remove key :: after))).events := by
      rw [live_append]
      exact List.mem_append_left _ queued
    obtain rfl := numbered.request_eq queued'
      (Event.mem_requests.mpr (inside (Event.mem_requests.mp known))) same
    exact kept ⟨before, key, after, rfl, other, waits, own, carries⟩

end TakingBack

/-! ## The ways to finish a batch -/

/-- **How a batch is finished.** -/
inductive Finish
  | commit
  | discard
  | abandon
  deriving DecidableEq, Repr

namespace Finish

/-- The request that **ends the batch**. -/
def request (batch : OpenBatch) : Finish → Request .acknowledgement
  | commit => .endBatch batch.id batch.count
  | discard | abandon => .abortBatch batch.id

/-- **What the drive hears** of it. -/
def Appears (batch : OpenBatch) : Finish → HeardRequest → Prop
  | commit, heard => heard.Says batch.id .endBatch (.batch { count := batch.count }) []
  | discard, heard | abandon, heard => heard.Says batch.id .abortBatch .empty []

end Finish

namespace Blocking

variable {σ τ : Type}

theorem finish_appears_hearing (b : Blocking σ τ) (finish : Finish) (batch : OpenBatch)
    (sequence : Int64) :
    finish.Appears batch (b.hearing (finish.request batch) sequence) := by
  cases finish <;> exact ⟨rfl, rfl, rfl, rfl⟩

variable [Channel σ] [Pollable σ]

/-- **Finish** a batch. -/
def finishBatch (patience : Nat) (b : Blocking σ τ) (batch : OpenBatch) :
    Finish → Option (Called σ τ Unit)
  | .commit => b.commit patience batch
  | .discard => b.abort patience batch
  | .abandon => some (b.abandon batch)

/-- Whether the request that ends a batch is **recalled**: only by a call that waits for its
outcome, and gives up while the request still waits for its turn. -/
def RecallsEnd (b : Blocking σ τ) (batch : OpenBatch) : Finish → Prop
  | .commit => b.Recalls batchPolicy.timeout (Finish.commit.request batch)
  | .discard => b.Recalls batchPolicy.timeout (Finish.discard.request batch)
  | .abandon => False

/-- Finishing a batch **leaves it open**: the request that ends it does not fit into a frame, or is
recalled. -/
def LeavesOpen (b : Blocking σ τ) (batch : OpenBatch) (finish : Finish) : Prop :=
  b.fits (finish.request batch) = false ∨ b.RecallsEnd batch finish

section Finished

variable [Metered σ] [SteadyWaits σ] {m : Multiplexer σ (Callback (Option τ))}
  {turns : List (Turn σ (Callback (Option τ)))} {b : Blocking σ τ} {batch : OpenBatch}
  {requests : List (QueuedRequest (Callback (Option τ)))}

omit [Metered σ] [Pollable σ] [SteadyWaits σ] in
/-- **What has been heard of a batch** when nothing is left to write, if nobody has taken any of it
back since its last requests were submitted: all of it, but for those that were recalled. -/
theorem Concluded.filter_heardIn {last : List (QueuedRequest (Callback (Option τ)))}
    {recalled : Prop} (h : Concluded m turns batch.id requests last recalled) (fresh : m.Fresh)
    {later : List (Turn σ (Callback (Option τ)))}
    (few : (Turn.submitted (turns ++ later)).length < 2 ^ 63)
    (spares : ∀ turn ∈ later, turn.Spares batch.id)
    (kept : ¬ (m.live turns).service.TakesBack later batch.id)
    (working : (m.live (turns ++ later)).service.outbox.failed = false)
    (free : (m.live (turns ++ later)).service.outbox.current = none)
    (nothing : (m.live (turns ++ later)).service.outbox.queue = []) :
    (recalled → (heardIn ((Event.wire (m.live (turns ++ later)).events).map Prod.snd)).filter
        (·.carries batch.id) = requests.filterMap QueuedRequest.heard?) ∧
      (¬ recalled → (heardIn ((Event.wire (m.live (turns ++ later)).events).map Prod.snd)).filter
        (·.carries batch.id) = (requests ++ last).filterMap QueuedRequest.heard?) := by
  have numbered := numbered_live fresh _ few
  have carried_eq : m.carried (turns ++ later) batch.id = requests ++ last := by
    rw [Multiplexer.carried_append, Multiplexer.carried_of_spares spares, h.carried,
      List.append_nil]
  have queued {request : QueuedRequest (Callback (Option τ))} (mem : request ∈ requests ++ last) :=
    Multiplexer.mem_carried.mp (h.carried ▸ mem)
  have stays {request : QueuedRequest (Callback (Option τ))} (mem : request ∈ requests ++ last)
      (stays : ¬ m.Withdraws turns request.sequence) :
      ¬ m.Withdraws (turns ++ later) request.sequence :=
    Multiplexer.not_withdraws_of_later_kept fresh numbered kept (queued mem).1 (queued mem).2 stays
  constructor
  · intro recalled
    refine filter_heardIn_of_drained fresh few working free nothing carried_eq ?_ ?_
    · exact fun request mem => stays (List.mem_append_left _ mem) (h.kept request mem)
    · intro request mem byte written
      exact (h.gone recalled request mem).ne_of_wire (queued (List.mem_append_right _ mem)).1
        numbered written
  · intro remains
    have all : m.carried (turns ++ later) batch.id = (requests ++ last) ++ [] := by
      rw [carried_eq, List.append_nil]
    refine filter_heardIn_of_drained fresh few working free nothing all ?_ (by simp)
    intro request mem
    refine stays mem ?_
    rcases List.mem_append.mp mem with before | here
    · exact h.kept request before
    · exact h.stays remains request here

/-- **When a batch has been finished**, its last request has been submitted. -/
theorem Gathers.finished (h : Gathers m turns b batch.id requests) (fresh : m.Fresh)
    (few : (Turn.submitted turns).length + 1 < 2 ^ 63) {patience : Nat} {finish : Finish}
    {called : Called σ τ Unit} (returned : b.finishBatch patience batch finish = some called) :
    ∃ more, Moment m (turns ++ more) called.connection ∧ (Turn.submitted more).length = 1 ∧
      Concluded m (turns ++ more) batch.id requests
        (b.inner.service.carried [b.submitting (finish.request batch)] batch.id)
        (b.RecallsEnd batch finish) := by
  cases finish with
  | commit =>
    obtain ⟨more, moment, one, concluded, -⟩ := h.returned fresh few (by simp) returned
    exact ⟨more, moment, one, concluded⟩
  | discard =>
    obtain ⟨more, moment, one, concluded, -⟩ := h.returned fresh few (by simp) returned
    exact ⟨more, moment, one, concluded⟩
  | abandon =>
    cases returned
    have submits : Moment m (turns ++ [b.submitting (.abortBatch batch.id)])
        { b with inner := (b.inner.submit (.abortBatch batch.id) none).2.2 } :=
      h.moment.submit _ rfl
    have runs : Moment m (turns ++ [b.submitting (.abortBatch batch.id)] ++ [.run])
        (b.abandon batch).connection := submits.run rfl
    rw [List.append_assoc, List.singleton_append] at runs
    have waits : ∀ turn ∈ ([.run] : List (Turn σ (Callback (Option τ)))), turn.Waits := by
      simp [Turn.Waits]
    exact ⟨_, runs, length_submitted_call b _ waits,
      (h.call fresh few _ waits runs).concluded fun recalled => recalled⟩

/-- **A batch that is finished is closed**, unless finishing leaves it open. Let a batch be built at
any moment in the life of a connection that was started, and then be finished in any way, whatever
comes of it. Let nothing else be submitted with its number, and nobody take back what still waits of
it. As soon as a run says that the connection is alive and that nothing is left to write, the
requests written with its number are the one that opens it, one for each operation that fits into a
frame, in order, and then what ends it: no request if the one that was to end it was recalled, or
does not fit into a frame, and exactly one otherwise. -/
theorem finished_batch_is_closed {patience waits : Nat} {signer : Signer} {options : Options}
    {s : σ} {m : Multiplexer σ (Callback (Option τ))}
    (started : Multiplexer.start patience signer options s = some (.ok m))
    {earlier later : List (Turn σ (Callback (Option τ)))} {calls : List (Addition σ τ)}
    {b : Blocking σ τ} {batch : OpenBatch} (built : Built m earlier calls b batch)
    {finish : Finish} {called : Called σ τ Unit}
    (returned : b.finishBatch waits batch finish = some called)
    (steady : called.connection.inner.service.Steady later)
    (spares : ∀ turn ∈ earlier ++ later, turn.Spares batch.id)
    (kept : ¬ called.connection.inner.service.TakesBack later batch.id)
    (few : (Turn.submitted (earlier ++ later)).length + calls.length + 2 < 2 ^ 63)
    {readiness : Readiness}
    (asks : (called.connection.inner.service.live later).service.run.readiness = some readiness)
    (drained : readiness.write = false) {stream : Bytes}
    (written :
      (gauge (called.connection.inner.service.live later).service.run.service.channel).accepted =
        (gauge m.channel).accepted ++ stream) :
    ∃ start middle ending,
      (heardIn stream).filter (·.carries batch.id) = start :: (middle ++ ending) ∧
      start.StartsBatch batch.id ∧
      List.Forall₂ (BatchOperation.Appears batch.id)
        ((calls.filter (·.fits batch.id)).map Addition.operation) middle ∧
      (b.LeavesOpen batch finish → ending = []) ∧
      (¬ b.LeavesOpen batch finish → ∃ heard, ending = [heard] ∧ finish.Appears batch heard) := by
  have fresh := Multiplexer.fresh_of_start started
  have coherent := Multiplexer.coherent_of_start started
  rw [Turn.submitted_append, List.length_append] at few
  obtain ⟨building, first, new, start, gathers, building_eq, first_heard, starts, appear, alive⟩ :=
    built.exists_turns fresh coherent (fun turn mem => spares turn (List.mem_append_left _ mem))
      (by omega)
  have built_eq : (Turn.submitted (earlier ++ building)).length =
      (Turn.submitted earlier).length + calls.length + 1 := by
    rw [Turn.submitted_append, List.length_append, building_eq]
    omega
  obtain ⟨finishing, moment, one, concluded⟩ := gathers.finished fresh (by omega) returned
  have few_all : (Turn.submitted (earlier ++ building ++ finishing ++ (later ++ [.run]))).length <
      2 ^ 63 := by
    have no_more : Turn.submitted (later ++ [.run]) = Turn.submitted later := by
      simp [Turn.submitted]
    rw [Turn.submitted_append, Turn.submitted_append, no_more, List.length_append,
      List.length_append, built_eq, one]
    omega
  have end_eq : (m.live (earlier ++ building ++ finishing ++ (later ++ [.run]))).service =
      (called.connection.inner.service.live later).service.run.service := by
    rw [← List.append_assoc, Multiplexer.live_concat, Multiplexer.live_append, ← moment.service]
    rfl
  have coherent_then : called.connection.inner.service.Coherent :=
    moment.service ▸ coherent.live _
  obtain ⟨still_alive, working, free, nothing⟩ :=
    Multiplexer.drained_of_run (coherent_then.live later) asks drained
  rw [← end_eq] at still_alive working free nothing written
  have alive_now : b.inner.service.failed = false := by
    rw [gathers.moment.service]
    rw [List.append_assoc] at still_alive
    exact Multiplexer.alive_of_live still_alive
  -- the meter says what the events say
  have steady_all : m.Steady (earlier ++ building ++ finishing ++ (later ++ [.run])) := by
    rw [moment.service] at steady
    exact moment.steady.append (steady.append (.singleton (by simp)))
  have stream_eq : stream = (Event.wire
      (m.live (earlier ++ building ++ finishing ++ (later ++ [.run]))).events).map Prod.snd := by
    have shows := congrArg Gauge.accepted (gauge_live coherent steady_all)
    rw [written, Gauge.accepted_afterAll] at shows
    exact List.append_cancel_left shows
  have spares_later : ∀ turn ∈ later ++ [.run], turn.Spares batch.id := by
    intro turn mem
    rcases List.mem_append.mp mem with before | last
    · exact spares turn (List.mem_append_right _ before)
    · rw [List.mem_singleton.mp last]
      trivial
  have kept_later : ¬ (m.live (earlier ++ building ++ finishing)).service.TakesBack
      (later ++ [.run]) batch.id := by
    rw [← moment.service]
    exact fun takes => kept takes.of_concat_run
  obtain ⟨without, whole⟩ :=
    concluded.filter_heardIn fresh few_all spares_later kept_later working free nothing
  rw [← stream_eq] at without whole
  have queues : calls.filter (·.queues batch.id) = calls.filter (·.fits batch.id) := by
    refine List.filter_congr fun call mem => ?_
    simp [Addition.queues, alive alive_now call mem]
  rw [queues] at appear
  have own : (finish.request batch).command.header.batchId = some batch.id := by
    cases finish <;> rfl
  obtain ⟨added, refused⟩ := b.carried_submitting
    (gathers.moment.service ▸ (coherent.live (earlier ++ building)).outbox)
    (finish.request batch) own
  have front : (first :: new).filterMap QueuedRequest.heard? =
      start :: new.filterMap QueuedRequest.heard? := by simp [first_heard]
  cases fits : b.fits (finish.request batch) with
  | false =>
    -- the request that ends the batch has not been queued at all
    rw [refused (.inr fits), List.append_nil] at whole
    refine ⟨start, _, [], ?_, starts, appear, fun _ => rfl, fun closes => absurd (.inl fits) closes⟩
    rw [List.append_nil, ← front]
    by_cases recalled : b.RecallsEnd batch finish
    · exact without recalled
    · exact whole recalled
  | true =>
    obtain ⟨ending, ending_eq, -, -, ending_heard⟩ := added alive_now fits
    rw [ending_eq] at whole
    by_cases recalled : b.RecallsEnd batch finish
    · refine ⟨start, _, [], ?_, starts, appear, fun _ => rfl,
        fun closes => absurd (.inr recalled) closes⟩
      rw [List.append_nil, ← front, without recalled]
    · refine ⟨start, _, [b.hearing (finish.request batch) ending.sequence], ?_, starts, appear,
        fun leaves => ?_, fun _ => ⟨_, rfl, b.finish_appears_hearing finish batch _⟩⟩
      · rw [whole recalled, List.filterMap_append, front]
        simp [ending_heard]
      · exact (leaves.resolve_left (by simp [fits]) |> recalled).elim

end Finished

/-! ## A batch that is left open -/

section Deaf

open Simulation (Drive)

/-- A drive whose source cannot be registered, so that **nobody can wait for it**, and that takes
nothing for a while when the batch has been opened. -/
def deafDrive : Recorder Drive where
  channel :=
    { key := [1]
      queue := [.bytes hello]
      reply := [.frame
        { auth := .pin
          command := .response {} .echo (.given .empty) (some { code := .success }) }]
      writes := [.upTo 500, .block, .block]
      source := some { behaviour := .failRegister } }

/-- What the **first wait** of a call comes to. -/
def firstWait {σ τ : Type} {reply : Reply} [Channel σ] [Pollable σ] (b : Blocking σ τ)
    (timeout : Duration) (request : Request reply) : Except IoError Bool × Blocking σ τ :=
  (b.submitted request).afterRun.wait ((b.submitted request).ran.readiness.getD .forRead) timeout

/-- A call whose first wait fails **gives up** then, unless its outcome is in. -/
theorem givesUp_of_firstWait {σ τ : Type} {reply : Reply} [Channel σ] [Pollable σ]
    {b : Blocking σ τ} {timeout : Duration} {request : Request reply}
    (none : outcomeOf b.inner.service.nextKey
      (b.refused request ++ (b.submitted request).ran.completions) = none)
    (vain : (b.firstWait timeout request).1.toOption = Option.none) :
    b.GivesUp timeout request (b.firstWait timeout request).2 := by
  have waits : b.firstWait timeout request =
      ((b.firstWait timeout request).1, (b.firstWait timeout request).2) := rfl
  have failed : (b.firstWait timeout request).1 ≠ .ok true := by
    intro succeeds
    rw [succeeds] at vain
    cases vain
  exact .vain .first (.inl rfl) none waits failed

/-- The call that commits a batch cannot wait and **recalls its request**. Everything else is
written later, and the batch is left open. -/
theorem finished_batch_is_closed_deaf :
    ∃ (m : Multiplexer (Recorder Drive) (Callback (Option Nat)))
      (calls : List (Addition (Recorder Drive) Nat)) (b : Blocking (Recorder Drive) Nat)
      (batch : OpenBatch) (called : Called (Recorder Drive) Nat Unit) (start put : HeardRequest),
      Multiplexer.start 2 (.constant [7]) { hmacKey := [1] } deafDrive = some (.ok m) ∧
      Built m [] calls b batch ∧ calls.map Addition.operation = [grantedPut] ∧
      b.finishBatch 2 batch .commit = some called ∧ b.LeavesOpen batch .commit ∧
      called.connection.inner.service.run.readiness = some { read := false, write := false } ∧
      start.StartsBatch batch.id ∧ grantedPut.Appears batch.id put ∧
      (heardIn (gauge called.connection.inner.service.run.service.channel).accepted).filter
        (·.carries batch.id) = [start, put] := by
  have check : ((Multiplexer.start 2 (.constant [7]) { hmacKey := [1] } deafDrive :
      Option (Except Failure (Multiplexer (Recorder Drive) (Callback (Option Nat))))).any
        fun started => started.toOption.any fun m => (opening m).any fun opened =>
          opened.result.toOption.any fun batch =>
            let added := opened.connection.add batch grantedPut
            let first := added.1.connection.submitted (Finish.commit.request added.2)
            (added.1.connection.finishBatch 2 added.2 .commit).any fun called =>
              decide ((gauge m.channel).accepted = [] ∧
                opened.connection.fits (grantedPut.request batch.id) = true ∧
                outcomeOf added.1.connection.inner.service.nextKey
                  (added.1.connection.refused (Finish.commit.request added.2) ++
                    first.ran.completions) = none ∧
                (added.1.connection.firstWait batchPolicy.timeout
                  (Finish.commit.request added.2)).1.toOption = none ∧
                (added.1.connection.firstWait batchPolicy.timeout
                  (Finish.commit.request added.2)).2.inner.service.outbox.queue.any
                    (·.key = added.1.connection.inner.service.nextKey) = true ∧
                called.connection.inner.service.run.readiness =
                  some { read := false, write := false })) = true := by
    decide +kernel
  obtain ⟨m, started, check⟩ := exists_started check
  obtain ⟨opened, opens, check⟩ := (Option.any_eq_true _ _).mp check
  obtain ⟨batch, ok, check⟩ := (Option.any_eq_true _ _).mp check
  obtain ⟨called, returned, check⟩ := (Option.any_eq_true _ _).mp check
  obtain ⟨empty, fits, none, vain, waiting, asks⟩ := of_decide_eq_true check
  have begin : Moment m [] (.ofConnection ⟨m, 0, .normal, Option.none⟩ (.seconds 1)) :=
    ⟨rfl, .of_none (by simp)⟩
  have adds := (Adds.none : opened.connection.Adds batch [] _ _).behind grantedPut
  have built := built_of_adds begin opens (eq_ok_of_toOption ok) adds
  obtain ⟨queued, mem, own⟩ := List.any_eq_true.mp waiting
  have leaves : (opened.connection.add batch grantedPut).1.connection.LeavesOpen
      (opened.connection.add batch grantedPut).2 .commit :=
    .inr ⟨_, givesUp_of_firstWait none vain, queued, mem, of_decide_eq_true own⟩
  have nobody : ¬ called.connection.inner.service.TakesBack [] batch.id := by
    rintro ⟨before, key, after, split, -⟩
    simp at split
  obtain ⟨start, middle, ending, stream_eq, starts, appear, left, -⟩ :=
    finished_batch_is_closed started built returned
      (.of_none (by simp) : called.connection.inner.service.Steady []) (by simp) nobody
      (by simp [Turn.submitted]) asks rfl (by rw [empty]; rfl)
  have one : ([⟨opened.connection, grantedPut⟩] : List (Addition (Recorder Drive) Nat)).filter
      (·.fits batch.id) = [⟨opened.connection, grantedPut⟩] := by
    simpa [Addition.fits] using fits
  rw [left leaves, List.append_nil] at stream_eq
  cases (one ▸ appear : List.Forall₂ _ [grantedPut] middle) with
  | cons appears rest =>
    cases rest
    exact ⟨m, _, _, _, called, start, _, started, built, rfl, returned, leaves, asks, starts,
      appears, stream_eq⟩

end Deaf

end Blocking

end DriveLink
