import DriveLink.Pipeline.Completion

/-! # Requests that wait for an answer

A request that is out is known under two names: the sequence that its answer will acknowledge, and
the key by which its caller may take it back. Each name is used at most once, so that either of them
finds the request, and taking it out under one takes it out under the other.

* `Outstanding` — the requests that are out, in the order in which they were put in;
* `insert`, `removeBySequence`, `removeByKey`, `drain` — its operations;
* `hasSequence`, `hasKey`, `sequenceOf` — its two views. -/

namespace DriveLink

/-- A **request that is out**, under both of its names. -/
structure OutstandingRequest (η : Type) where
  sequence : Int64
  key : RequestKey
  handler : η

/-- The **requests that are out**. -/
structure Outstanding (η : Type) where
  entries : List (OutstandingRequest η) := []

namespace Outstanding

variable {η : Type}

/-- Nothing is out. -/
def empty : Outstanding η := {}

/-- How many requests are out. -/
def size (out : Outstanding η) : Nat := out.entries.length

/-- Whether nothing is out. -/
def isEmpty (out : Outstanding η) : Bool := out.entries.isEmpty

/-- Whether some request waits for an answer to the sequence. -/
def hasSequence (out : Outstanding η) (sequence : Int64) : Bool :=
  out.entries.any (·.sequence = sequence)

/-- Whether some request has the key. -/
def hasKey (out : Outstanding η) (key : RequestKey) : Bool := out.entries.any (·.key = key)

/-- The sequence of the request with the key. -/
def sequenceOf (out : Outstanding η) (key : RequestKey) : Option Int64 :=
  (out.entries.find? (·.key = key)).map (·.sequence)

/-- **Put a request in.** If one of its names is taken, nothing changes and the answer is `none`. -/
def insert (out : Outstanding η) (request : OutstandingRequest η) : Option (Outstanding η) :=
  if out.hasSequence request.sequence || out.hasKey request.key then none
  else some ⟨out.entries ++ [request]⟩

/-- **Take out** the request that waits for an answer to the sequence. -/
def removeBySequence (out : Outstanding η) (sequence : Int64) :
    Option (OutstandingRequest η × Outstanding η) :=
  match out.entries.find? (·.sequence = sequence) with
  | some request => some (request, ⟨out.entries.eraseP (·.sequence = sequence)⟩)
  | none => none

/-- **Take out** the request with the key. -/
def removeByKey (out : Outstanding η) (key : RequestKey) :
    Option (OutstandingRequest η × Outstanding η) :=
  match out.entries.find? (·.key = key) with
  | some request => some (request, ⟨out.entries.eraseP (·.key = key)⟩)
  | none => none

/-- Take **every request** out. -/
def drain (out : Outstanding η) : List (OutstandingRequest η) × Outstanding η :=
  (out.entries, empty)

end Outstanding

end DriveLink
