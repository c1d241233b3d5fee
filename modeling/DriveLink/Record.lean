import DriveLink.Protocol.Fields

/-! # Records

* `Record` — what a read returns and a write stores. -/

namespace DriveLink

/-- A **value with its version**, its integrity tag and the algorithm of the tag. -/
structure Record where
  value : Bytes := []
  version : Bytes := []
  tag : Bytes := []
  algorithm : Option Algorithm := none
  deriving DecidableEq, Repr

instance : Fields Record (Bytes × Bytes × Bytes × Option Algorithm) where
  names := ["value", "version", "tag", "algorithm"]
  tuple r := (r.value, r.version, r.tag, r.algorithm)
  ofTuple := fun (value, version, tag, algorithm) => ⟨value, version, tag, algorithm⟩

end DriveLink
