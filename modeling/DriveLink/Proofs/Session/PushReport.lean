import DriveLink.Proofs.Pipeline.Authentic
import DriveLink.Proofs.Session.Usage

/-! # What is reported of a push

A push asks the drive for some operations, and the response lists operations of its own, each with
what became of it. The two lists are made by different sides. Whoever asked is told of the
operations that the response lists, and nobody compares them with those that were asked for: where
the response lists fewer, nothing is said of the last ones.

* `Reply.report` — what is to be said of so many operations that were asked for;
* `Reply.report_eq` — the report, by the statuses of the operations that are listed;
* `push_reports_listed_operations` — what whoever asked for a push is told. -/

namespace DriveLink

variable {σ τ : Type}

namespace Reply

/-- What is said of an operation that was **not attempted**. -/
def notAttempted : Status := .remote .otherError "operation not attempted"

/-- **The report** on so many operations that were asked for, in their order: what the operation
listed in the same place says, or that the operation was not attempted. -/
def report (asked : Nat) (listed : List PushOperation) : List Status :=
  (List.range asked).map fun i => (listed[i]?.map operationStatus).getD notAttempted

theorem length_report (asked : Nat) (listed : List PushOperation) :
    (report asked listed).length = asked := by
  rw [report, List.length_map, List.length_range]

/-- The report is made of the **statuses of the operations that are listed**, as many as were asked
for, and where there are fewer, of those that were not attempted. -/
theorem report_eq (asked : Nat) (listed : List PushOperation) :
    report asked listed = (listed.map operationStatus).take asked ++
      List.replicate (asked - listed.length) notAttempted := by
  refine List.ext_getElem? fun i => ?_
  rw [report, List.getElem?_map]
  by_cases inside : i < asked
  · rw [List.getElem?_range inside]
    by_cases reported : i < listed.length
    · rw [List.getElem?_append_left (by rw [List.length_take, List.length_map]; omega),
        List.getElem?_take_of_lt inside, List.getElem?_map, List.getElem?_eq_getElem reported]
      simp [List.getElem?_eq_getElem reported]
    · rw [List.getElem?_append_right (by rw [List.length_take, List.length_map]; omega)]
      simp only [List.length_take, List.length_map, List.getElem?_replicate]
      rw [if_pos (by omega), Option.map_some, List.getElem?_eq_none (by omega)]
      rfl
  · rw [List.getElem?_eq_none (by rw [List.length_range]; omega), Option.map_none,
      List.getElem?_eq_none]
    simp only [List.length_append, List.length_take, List.length_map, List.length_replicate]
    omega

/-- The statuses of the operations that are listed **are the report** just if as many are listed as
were asked for. -/
theorem map_operationStatus_eq_report_iff {asked : Nat} {listed : List PushOperation} :
    listed.map operationStatus = report asked listed ↔ listed.length = asked := by
  constructor
  · intro same
    have length_eq := congrArg List.length same
    rwa [length_report, List.length_map] at length_eq
  · rintro rfl
    rw [report_eq, Nat.sub_self, List.replicate_zero, List.append_nil, List.take_of_length_le]
    exact (List.length_map _).le

end Reply

open Reply (operationStatus notAttempted report)

/-- Only **pushes** are answered by statuses. -/
theorem DriveOperation.exists_push_of_reply {operation : DriveOperation}
    (pushes : operation.reply = .pushStatuses) :
    ∃ peer operations, operation = .push peer operations := by
  cases operation with
  | push peer operations => exact ⟨peer, operations, rfl⟩
  | _ => cases pushes

variable [Channel σ] [Pollable σ]

/-- **A push reports on the operations that the response lists.** Let a connection be started and
used in whatever way, up to its end. Whenever a callback of a push is called for success, with a
response that has the body of a push, it goes back to a push that was asked for, and the response is
the drive's answer to the request of that push. The callback is given one status for each operation
that the response lists, in their order and by their own status blocks. That is the report on the
operations that were asked for just if as many are listed; in any case, the report is made of the
statuses that the callback is given, as far as operations were asked for, and of the operations
behind them that were not attempted, of which the callback is told nothing. -/
theorem push_reports_listed_operations {patience : Nat} {signer : Signer} {options : Options}
    {s : σ} {c : Connection σ τ}
    (started : Connection.start patience signer options s = some (.ok c)) (uses : List (Use σ τ))
    {completion : Completion (Callback τ)}
    (called : completion ∈ c.called uses)
    (pushes : completion.handler.reply = .pushStatuses) {response : Command} {value : Bytes}
    (answered : completion.outcome = .answered response value) {pushed : Push}
    (body : response.push? = some pushed) :
    ∃ (sooner later : List (Use σ τ)) (peer : Peer) (operations : List PushOperation)
      (request : QueuedRequest (Callback τ)) (frame : Frame) (envelope : Envelope)
      (statuses : List Status),
      uses = sooner ++ .ask (.push peer operations) completion.handler.tag :: later ∧
      .queued request ∈ ((c.inUse sooner).2.service.turn ((c.inUse sooner).2.asking
        (.push peer operations) completion.handler.tag)).events ∧
      AnsweredBy completion response request frame envelope ∧
      completion.outcome.read .pushStatuses = .ok statuses ∧
      statuses.length = pushed.operations.length ∧
      (∀ (i : Nat) (operation : PushOperation), pushed.operations[i]? = some operation →
        statuses[i]? = some (operationStatus operation)) ∧
      (statuses = report operations.length pushed.operations ↔
        pushed.operations.length = operations.length) ∧
      report operations.length pushed.operations = statuses.take operations.length ++
        List.replicate (operations.length - statuses.length) notAttempted := by
  have fresh := Multiplexer.fresh_of_start (Connection.service_of_start started)
  have responds : completion.outcome.response? = some response := by
    rw [answered]
    rfl
  obtain ⟨sooner, operation, later, request, frame, envelope, uses_eq, reply_eq, queued,
    answeredBy⟩ := Connection.exists_ask_of_answered fresh called responds
  obtain ⟨peer, operations, rfl⟩ := DriveOperation.exists_push_of_reply (reply_eq.symm.trans pushes)
  have read_eq : completion.outcome.read .pushStatuses =
      .ok (pushed.operations.map operationStatus) := by
    rw [answered]
    show Reply.decodePushStatuses response = _
    rw [Reply.decodePushStatuses, body]
  refine ⟨sooner, later, peer, operations, request, frame, envelope, _, uses_eq, queued, answeredBy,
    read_eq, List.length_map _, fun i operation listed => ?_,
    Reply.map_operationStatus_eq_report_iff, ?_⟩
  · rw [List.getElem?_map, listed]
    rfl
  · rw [List.length_map]
    exact Reply.report_eq _ _

/-! ## A drive that lists fewer -/

section Terse

open Simulation (Drive)

/-- A push of one key. -/
def pushOf (key : Bytes) (status : Option StatusBlock) : PushOperation :=
  { key, version := none, newKey := none, force := false, status, nested := none }

/-- A drive that lists **only the first operation** of a push, for success. -/
def terseDrive : Drive where
  key := [1]
  queue := [.bytes hello]
  reply := [.frame
    { auth := .pin
      command := .response {} .echo
        (.given (.push ⟨{}, [pushOf [5] (some { code := .success })], none⟩))
        (some { code := .success }) }]

/-- A push of two keys. -/
def terseUses : List (Use Drive Nat) :=
  [.ask (.push {} [pushOf [5] none, pushOf [6] none]) 10, .run]

/-- How many operations a response **lists**, if a callback is called with it for success. -/
def Outcome.listed? (outcome : Outcome) : Option Nat :=
  outcome.success?.bind fun success =>
    success.1.push?.map fun pushed => pushed.operations.length

theorem Outcome.exists_of_listed? {outcome : Outcome} {n : Nat} (h : outcome.listed? = some n) :
    ∃ response value pushed, outcome = .answered response value ∧
      response.push? = some pushed ∧ pushed.operations.length = n := by
  obtain ⟨⟨response, value⟩, success, lists⟩ := Option.bind_eq_some_iff.mp h
  obtain ⟨pushed, body, rfl⟩ := Option.map_eq_some_iff.mp lists
  exact ⟨response, value, pushed, eq_of_success? success, body, rfl⟩

/-- Two keys were to be pushed, and the callback is given **one status**: it is not told that the
other key was not attempted. -/
theorem push_reports_listed_operations_terse :
    ∃ (c : Connection Drive Nat) (completion : Completion (Callback Nat)) (response : Command)
      (value : Bytes) (pushed : Push) (statuses : List Status),
      Connection.start 2 (.constant [7]) { hmacKey := [1] } terseDrive = some (.ok c) ∧
      c.called terseUses = [completion] ∧
      completion.outcome = .answered response value ∧ response.push? = some pushed ∧
      completion.outcome.read .pushStatuses = .ok statuses ∧ statuses.length = 1 ∧
      report 2 pushed.operations = statuses ++ [notAttempted] := by
  have check : ((Connection.start 2 (.constant [7]) { hmacKey := [1] } terseDrive :
      Option (Except Failure (Connection Drive Nat))).any fun started =>
      started.toOption.any fun c =>
        decide ((c.called terseUses).map (fun completion =>
          (completion.handler.reply, completion.outcome.listed?)) =
            [(.pushStatuses, some 1)])) = true := by
    decide +kernel
  obtain ⟨c, started, check⟩ := exists_started check
  obtain ⟨completion, _, called_eq, one, none⟩ := List.map_eq_cons_iff.mp (of_decide_eq_true check)
  obtain rfl := List.map_eq_nil_iff.mp none
  have pushes : completion.handler.reply = .pushStatuses := congrArg Prod.fst one
  obtain ⟨response, value, pushed, answered, body, listed⟩ :=
    Outcome.exists_of_listed? (congrArg Prod.snd one)
  have called : completion ∈ c.called terseUses := by
    rw [called_eq]
    exact List.mem_singleton_self _
  obtain ⟨sooner, later, peer, operations, -, -, -, statuses, uses_eq, -, -, read_eq, length_eq, -,
    -, report_eq⟩ := push_reports_listed_operations started terseUses called pushes answered body
  -- there is only one push that it can go back to
  have two : operations.length = 2 := by
    rcases sooner with _ | ⟨_, _ | ⟨_, _⟩⟩
    · obtain ⟨asked, -⟩ := Use.ask.inj (List.cons_eq_cons.mp uses_eq).1
      obtain ⟨-, rfl⟩ := DriveOperation.push.inj asked
      rfl
    · cases (List.cons_eq_cons.mp uses_eq).2
    · simp [terseUses] at uses_eq
  rw [listed] at length_eq
  rw [two, length_eq, List.take_of_length_le (by omega)] at report_eq
  exact ⟨c, completion, response, value, pushed, statuses, started, called_eq, answered, body,
    read_eq, length_eq, report_eq⟩

end Terse

end DriveLink
