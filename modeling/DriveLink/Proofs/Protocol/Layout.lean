import DriveLink.Proofs.Wire.Sequences
import DriveLink.Protocol.Layout

/-! # Names and structures

Every name of the protocol is in the list of its kind, once, and every structure is made of its
fields. So their forms have the laws that the forms of numbers and tuples have. A drive log is not
here, for its form leaves out one field, and neither is what contains one.

* `Lossless` instances for the names and for all structures that are written as a whole. -/

namespace DriveLink

open Wire (Lossless)

/-! ## Names -/

instance : Lossless MessageType := .choice (fun a => by cases a <;> decide) (by decide) (by decide)
instance : Lossless Priority := .choice (fun a => by cases a <;> decide) (by decide) (by decide)
instance : Lossless Algorithm := .choice (fun a => by cases a <;> decide) (by decide) (by decide)
instance : Lossless Synchronization :=
  .choice (fun a => by cases a <;> decide) (by decide) (by decide)
instance : Lossless Permission := .choice (fun a => by cases a <;> decide) (by decide) (by decide)
instance : Lossless HmacAlgorithm := .choice (fun a => by cases a; decide) (by decide) (by decide)
instance : Lossless LogType := .choice (fun a => by cases a <;> decide) (by decide) (by decide)
instance : Lossless PinAction := .choice (fun a => by cases a <;> decide) (by decide) (by decide)
instance : Lossless DriveCode := .choice (fun a => by cases a <;> decide) (by decide) (by decide)
instance : Lossless AuthType := .choice (fun a => by cases a <;> decide) (by decide) (by decide)

/-! ## Structures -/

instance : Lossless Header := .via (fun _ => rfl) fun _ => rfl
instance : Lossless KeyValue := .via (fun _ => rfl) fun _ => rfl
instance : Lossless KeyRange := .via (fun _ => rfl) fun _ => rfl
instance : Lossless Setup := .via (fun _ => rfl) fun _ => rfl
instance : Lossless Scope := .via (fun _ => rfl) fun _ => rfl
instance : Lossless Acl := .via (fun _ => rfl) fun _ => rfl
instance : Lossless Security := .via (fun _ => rfl) fun _ => rfl
instance : Lossless Utilization := .via (fun _ => rfl) fun _ => rfl
instance : Lossless Temperature := .via (fun _ => rfl) fun _ => rfl
instance : Lossless Capacity := .via (fun _ => rfl) fun _ => rfl
instance : Lossless Configuration := .via (fun _ => rfl) fun _ => rfl
instance : Lossless Statistics := .via (fun _ => rfl) fun _ => rfl
instance : Lossless Limits := .via (fun _ => rfl) fun _ => rfl
instance : Lossless StatusBlock := .via (fun _ => rfl) fun _ => rfl
instance : Lossless Peer := .via (fun _ => rfl) fun _ => rfl
instance : Lossless Batch := .via (fun _ => rfl) fun _ => rfl
instance : Lossless SignedDigest := .via (fun _ => rfl) fun _ => rfl
instance : Lossless Envelope := .via (fun _ => rfl) fun _ => rfl

end DriveLink
