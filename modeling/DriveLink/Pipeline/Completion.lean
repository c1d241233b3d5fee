import DriveLink.Status

/-! # Completions

A request that wants to know its outcome carries a handler. What a handler is, the pipeline does not
ask: it keeps it while the request is on its way and hands it back together with the outcome, once.
So each operation of the pipeline answers with the list of completions that it caused, in order.

* `RequestKey` — by which a caller names a request;
* `Outcome` — what became of a request;
* `Completion` — a handler handed back with it. -/

namespace DriveLink

/-- By which a caller **names a request**, to take it back. It is not the number that the request
has on the wire. -/
abbrev RequestKey : Type := UInt64

/-- The key of the drive's greeting, which no request has. -/
def greetingKey : RequestKey := 18446744073709551615

/-- **What became of a request.** -/
inductive Outcome
  /-- The drive answered with success. -/
  | answered (response : Command) (value : Bytes)
  /-- The request failed; the response is there if the drive answered at all. -/
  | failed (status : Status) (response : Option Command)

/-- A handler that is **handed back** with the outcome of its request. -/
structure Completion (η : Type) where
  key : RequestKey
  handler : η
  outcome : Outcome

namespace Completion

variable {η : Type}

/-- A request that fails without an answer. -/
def fail (key : RequestKey) (handler : η) (status : Status) : Completion η :=
  ⟨key, handler, .failed status none⟩

/-- The failure of a request, if it has a handler that wants to know. -/
def failIfAny (key : RequestKey) (handler : Option η) (status : Status) : List (Completion η) :=
  (handler.map fun handler => fail key handler status).toList

/-- A request that the **drive answers**: with success, or with what its response means. -/
def answer (key : RequestKey) (handler : η) (response : Command) (value : Bytes) :
    Completion η :=
  if response.isSuccess then ⟨key, handler, .answered response value⟩
  else ⟨key, handler, .failed (.ofResponse response) (some response)⟩

end Completion

end DriveLink
