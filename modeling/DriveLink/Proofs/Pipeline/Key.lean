import DriveLink.Proofs.Pipeline.Transit

/-! # The key of a connection

Which frames a connection takes for signed depends on its signer and its key. Nothing that happens
ever changes these, from the wait for the greeting on.

* `Correlator.SameKey` — two correlators open the same responses;
* `correlator_of_start` — a connection has the key that it was started with;
* `Path.sameKey`, `Path.correlator_of_start` — and goes on having it. -/

namespace DriveLink

variable {σ η : Type}

namespace Correlator

/-- What one correlator opens, **the other opens** as well. -/
structure SameKey (c c' : Correlator η) : Prop where
  signer : c'.signer = c.signer
  hmacKey : c'.hmacKey = c.hmacKey

theorem SameKey.refl (c : Correlator η) : SameKey c c := ⟨rfl, rfl⟩

theorem SameKey.trans {c c₁ c₂ : Correlator η} (h : SameKey c c₁) (h₁ : SameKey c₁ c₂) :
    SameKey c c₂ := ⟨h₁.signer.trans h.signer, h₁.hmacKey.trans h.hmacKey⟩

theorem Accepts.sameKey {c : Correlator η} {outcome : ReadOutcome} {accepted : Accepted η}
    (h : Accepts c outcome accepted) : SameKey c accepted.correlator := by
  cases h <;> exact ⟨rfl, rfl⟩

/-- An envelope is turned down for its digest **unless that is right**, or is not claimed to be. -/
theorem verified_of_signed {signer : Signer} {hmacKey : Bytes} {envelope : Envelope}
    (signed : envelope.auth = .hmac → signer.verifies hmacKey envelope = true) :
    ¬ (envelope.auth = .hmac && !signer.verifies hmacKey envelope) = true := by
  by_cases hmac : envelope.auth = .hmac
  · rw [signed hmac, Bool.not_true, Bool.and_false]
    exact Bool.false_ne_true
  · rw [decide_eq_false hmac, Bool.false_and]
    exact Bool.false_ne_true

/-- A response that decodes and carries the digest that it should **can be opened**. -/
theorem openResponse_eq_ok {c : Correlator η} {bytes : Bytes} {envelope : Envelope}
    {response : Command} (decoded : Envelope.decode bytes = .ok envelope)
    (signed : envelope.auth = .hmac → c.signer.verifies c.hmacKey envelope = true)
    (inner : envelope.inner = .ok response) : c.openResponse bytes = .ok (envelope, response) := by
  rw [openResponse, decoded]
  simp only
  rw [if_neg (verified_of_signed signed), inner]

/-- A command that does not decode **cannot be opened**, whatever carries the digest that it
should. -/
theorem openResponse_eq_error {c : Correlator η} {bytes : Bytes} {envelope : Envelope}
    {error : DecodeError} (decoded : Envelope.decode bytes = .ok envelope)
    (signed : envelope.auth = .hmac → c.signer.verifies c.hmacKey envelope = true)
    (inner : envelope.inner = .error error) :
    c.openResponse bytes = .error (.malformed error) := by
  rw [openResponse, decoded]
  simp only
  rw [if_neg (verified_of_signed signed), inner]

end Correlator

open Correlator (SameKey)

section Start

variable [Channel σ]

theorem sameKey_receiveFrom (c : Correlator η) (reader : FrameReader) (s : σ) :
    SameKey c (Inbox.receiveFrom c reader s).inbox.correlator := by
  fun_induction Inbox.receiveFrom c reader s with
  | case1 c reader s nothing => exact .refl c
  | case2 c reader s some read ends accepted events stop => exact (c.accepts_accept ends).sameKey
  | case3 c reader s some read ends accepted events more later ih =>
    exact (c.accepts_accept ends).sameKey.trans ih
  | case4 c reader s some read open' error failure failed c' all =>
    cases all
    exact ⟨rfl, rfl⟩
  | case5 c reader s some read open' fine => exact .refl c

theorem sameKey_receive (inbox : Inbox η) (s : σ) :
    SameKey inbox.correlator (inbox.receive s).inbox.correlator := by
  unfold Inbox.receive
  split
  · exact .refl _
  · exact sameKey_receiveFrom _ _ _

variable [Pollable σ]

/-- **A connection that is started** has the key that it was started with. -/
theorem correlator_of_start {patience : Nat} {signer : Signer} {options : Options} {s : σ}
    {m : Multiplexer σ η} (started : Multiplexer.start patience signer options s = some (.ok m)) :
    m.inbox.correlator.signer = signer ∧ m.inbox.correlator.hmacKey = options.hmacKey := by
  obtain ⟨inbox, s₁, same, correlator_eq, -⟩ := exists_receive_of_start
    (fun inbox _ => SameKey (Inbox.forGreeting signer options).correlator inbox.correlator)
    (fun inbox s same _ _ => same.trans (sameKey_receive inbox s)) (fun _ _ _ _ same => same)
    (.refl _) started
  have same := same.trans (sameKey_receive inbox s₁)
  rw [correlator_eq]
  exact ⟨same.signer, same.hmacKey⟩

end Start

theorem sameKey_release (request : InFlight η) (inbox : Inbox η) :
    SameKey inbox.correlator (Outbox.release request inbox).2.correlator := by
  have releases := Outbox.releases_release request inbox
  generalize Outbox.release request inbox = released at releases ⊢
  cases releases <;> exact ⟨rfl, rfl⟩

variable [Channel σ]

/-- A step **leaves the key as it is.** -/
theorem Move.sameKey {m m' : Multiplexer σ η} {events : List (Event η)} (h : Move m events m') :
    SameKey m.inbox.correlator m'.inbox.correlator := by
  cases h with
  | release working current write => exact sameKey_release _ _
  | accept working read ends => exact (Correlator.accepts_accept _ ends).sameKey
  | breakIn working read all =>
    cases all
    exact ⟨rfl, rfl⟩
  | _ => exact ⟨rfl, rfl⟩

/-- **The key stays.** -/
theorem Path.sameKey {m m' : Multiplexer σ η} {events : List (Event η)} (h : Path m events m') :
    SameKey m.inbox.correlator m'.inbox.correlator := by
  induction h with
  | done m => exact .refl _
  | step move _ ih => exact move.sameKey.trans ih

/-- **What a connection was started with** stays its key. -/
theorem Path.correlator_of_start [Pollable σ] {patience : Nat} {signer : Signer}
    {options : Options} {s : σ} {m m' : Multiplexer σ η} {events : List (Event η)}
    (h : Path m events m') (started : Multiplexer.start patience signer options s = some (.ok m)) :
    m'.inbox.correlator.signer = signer ∧ m'.inbox.correlator.hmacKey = options.hmacKey := by
  obtain ⟨signer_eq, key_eq⟩ := DriveLink.correlator_of_start started
  exact ⟨h.sameKey.signer.trans signer_eq, h.sameKey.hmacKey.trans key_eq⟩

end DriveLink
