import DriveLink.Pipeline.Inbox
import Mathlib.Algebra.Order.Ring.Int
import Mathlib.Tactic.Common

/-! # What the end of a frame can do

Of all the ways in which a frame may be good or bad, the requests that are out see four: all of them
fail, one of them is answered, one of them fails because its answer was too large, or nothing
becomes of them.

* `Outstanding.exists_split` — the request that is found under a name, between the others;
* `Correlator.Accepts`, `Correlator.accepts_accept` — what the end of a frame does. -/

namespace DriveLink

variable {η : Type}

/-- **The first element that satisfies a condition**, between those before and behind it. -/
theorem exists_split_of_find? {α : Type} {p : α → Bool} {l : List α} {a : α}
    (h : l.find? p = some a) :
    ∃ before after, l = before ++ a :: after ∧ l.eraseP p = before ++ after ∧
      (∀ b ∈ before, p b = false) ∧ p a = true := by
  obtain ⟨holds, before, after, rfl, others⟩ := List.find?_eq_some_iff_append.mp h
  have none : ∀ b ∈ before, p b = false := fun b mem => by simpa using others b mem
  refine ⟨before, after, rfl, ?_, none, holds⟩
  rw [List.eraseP_append_right _ fun b mem => Bool.eq_false_iff.mp (none b mem),
    List.eraseP_cons_of_pos holds]

namespace Outstanding

/-- The request that is taken out for a sequence **stood between the others**. -/
theorem exists_split {out out' : Outstanding η} {sequence : Int64}
    {request : OutstandingRequest η}
    (h : out.removeBySequence sequence = some (request, out')) :
    ∃ before after, out.entries = before ++ request :: after ∧ out' = ⟨before ++ after⟩ ∧
      request.sequence = sequence := by
  unfold removeBySequence at h
  split at h
  · rename_i found
    cases h
    obtain ⟨before, after, entries_eq, erased, -, same⟩ := exists_split_of_find? found
    exact ⟨before, after, entries_eq, by rw [erased], of_decide_eq_true same⟩
  · cases h

/-- No request is taken out for a sequence that **none is out under**. -/
theorem removeBySequence_eq_none_iff {out : Outstanding η} {sequence : Int64} :
    out.removeBySequence sequence = none ↔
      ∀ request ∈ out.entries, request.sequence ≠ sequence := by
  unfold removeBySequence
  constructor
  · intro h request mem same
    split at h
    · cases h
    · rename_i none
      exact List.find?_eq_none.mp none request mem (decide_eq_true same)
  · intro h
    have none : out.entries.find? (·.sequence = sequence) = none :=
      List.find?_eq_none.mpr fun request mem same => h request mem (of_decide_eq_true same)
    rw [none]

end Outstanding

namespace Correlator

/-- **What the end of a frame does**, by what it was. Whatever it does, the number of the connection
may be another afterwards. -/
inductive Accepts (c : Correlator η) : ReadOutcome → Accepted η → Prop
  /-- Every request fails. -/
  | giveUp {outcome : ReadOutcome} (status : Status) (connectionId : Option Int64) (stop : Bool) :
      Accepts c outcome
        ⟨{ c with outstanding := .empty, connectionId },
          c.outstanding.entries.map fun request => .fail request.key request.handler status, stop⟩
  /-- Nothing becomes of any request. -/
  | passOver {outcome : ReadOutcome} (connectionId : Option Int64) :
      Accepts c outcome ⟨{ c with connectionId }, [], false⟩
  /-- A request is answered. -/
  | answer {frame : Frame} {envelope : Envelope} {response : Command}
      {request : OutstandingRequest η} {before after : List (OutstandingRequest η)}
      (opened : c.openResponse frame.command = .ok (envelope, response))
      (answers : answeredSequence envelope response = some request.sequence)
      (entries_eq : c.outstanding.entries = before ++ request :: after)
      (connectionId : Option Int64) :
      Accepts c (.frame frame)
        ⟨{ c with outstanding := ⟨before ++ after⟩, connectionId },
          [.answer request.key request.handler response frame.value], false⟩
  /-- A request fails because its answer was too large. -/
  | tooLarge {bytes : Option Bytes} {commandLength valueLength : UInt32}
      {request : OutstandingRequest η} {before after : List (OutstandingRequest η)}
      (acknowledged : c.acknowledgedIn bytes = some request.sequence)
      (entries_eq : c.outstanding.entries = before ++ request :: after) :
      Accepts c (.tooLarge bytes commandLength valueLength)
        ⟨{ c with outstanding := ⟨before ++ after⟩ },
          [.fail request.key request.handler tooLargeStatus], false⟩

theorem learn_eq (c : Correlator η) (response : Command) :
    ∃ connectionId, c.learn response = { c with connectionId } := by
  unfold learn
  split
  · exact ⟨_, rfl⟩
  · exact ⟨c.connectionId, rfl⟩

/-- What a response does that **answers a sequence**. -/
theorem dispatch_of_opened {c : Correlator η} {frame : Frame} {envelope : Envelope}
    {response : Command} {sequence : Int64}
    (opened : c.openResponse frame.command = .ok (envelope, response))
    (answers : answeredSequence envelope response = some sequence) :
    c.dispatch frame =
      match c.outstanding.removeBySequence sequence with
      | none => ⟨c.learn response, [], false⟩
      | some (request, outstanding) =>
        ⟨{ c.learn response with outstanding },
          [.answer request.key request.handler response frame.value], false⟩ := by
  obtain ⟨connectionId, learns⟩ := c.learn_eq response
  unfold dispatch
  cases removed : c.outstanding.removeBySequence sequence with
  | none => simp only [opened, answers, learns, removed]
  | some taken => simp only [opened, answers, learns, removed]

theorem accepts_dispatch (c : Correlator η) (frame : Frame) :
    Accepts c (.frame frame) (c.dispatch frame) := by
  cases opened : c.openResponse frame.command with
  | error fault =>
    rw [dispatch, opened]
    exact .giveUp fault.status c.connectionId true
  | ok response =>
    obtain ⟨envelope, command⟩ := response
    obtain ⟨connectionId, learns⟩ := c.learn_eq command
    cases answers : answeredSequence envelope command with
    | none =>
      rw [dispatch, opened]
      simp only
      rw [answers, learns]
      exact .giveUp _ connectionId true
    | some sequence =>
      rw [dispatch_of_opened opened answers, learns]
      cases removed : c.outstanding.removeBySequence sequence with
      | none => exact .passOver connectionId
      | some taken =>
        obtain ⟨request, outstanding⟩ := taken
        obtain ⟨before, after, entries_eq, rfl, rfl⟩ := Outstanding.exists_split removed
        exact .answer opened answers entries_eq connectionId

theorem accepts_dispatchTooLarge (c : Correlator η) (bytes : Option Bytes)
    (commandLength valueLength : UInt32) :
    Accepts c (.tooLarge bytes commandLength valueLength) (c.dispatchTooLarge bytes) := by
  unfold dispatchTooLarge
  cases acknowledged : c.acknowledgedIn bytes with
  | none => exact .giveUp tooLargeStatus c.connectionId false
  | some sequence =>
    simp only
    cases removed : c.outstanding.removeBySequence sequence with
    | none => exact .passOver c.connectionId
    | some taken =>
      obtain ⟨request, outstanding⟩ := taken
      obtain ⟨before, after, entries_eq, rfl, rfl⟩ := Outstanding.exists_split removed
      exact .tooLarge acknowledged entries_eq

/-- **What the end of every frame does.** -/
theorem accepts_accept (c : Correlator η) {outcome : ReadOutcome}
    (ends : outcome.endsFrame = true) : Accepts c outcome (c.accept outcome) := by
  cases outcome with
  | frame frame => exact c.accepts_dispatch frame
  | tooLarge bytes commandLength valueLength =>
    exact c.accepts_dispatchTooLarge bytes commandLength valueLength
  | pending => cases ends
  | failed error => cases ends

end Correlator

end DriveLink
