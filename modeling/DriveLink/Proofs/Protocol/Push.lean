import DriveLink.Proofs.Protocol.Layout

/-! # Pushes

A push is the only thing that contains itself, and it is read within a bound on its depth. The laws
pass from the pushes inside a push to the push: by induction on the bound for what any bytes are
read as, and for a push that was written because every push inside it takes up fewer bytes.

* `Push.within` — the form of pushes that are not too deep;
* `Push.extends_within` — a larger bound only adds to what is read;
* `Push.readBack_within` — a push is read back within as many bytes as it takes up. -/

namespace DriveLink

open Wire (Delimited Extends Lossless ReadBack)

/-! ## The bytes of an operation and of a push -/

theorem Push.encodeOperations_eq (operations : List PushOperation) :
    Push.encodeOperations operations = operations.flatMap PushOperation.encode := by
  induction operations with
  | nil => rfl
  | cons operation rest ih => rw [Push.encodeOperations, ih, List.flatMap_cons]

theorem PushOperation.length_encode (operation : PushOperation) :
    operation.encode.length =
      (Wire.encode operation.key).length + ((Wire.encode operation.version).length +
        ((Wire.encode operation.newKey).length + ((Wire.encode operation.force).length +
          ((Wire.encode operation.status).length +
            (Push.encodeNested operation.nested).length)))) := by
  obtain ⟨key, version, newKey, force, status, nested⟩ := operation
  simp only [PushOperation.encode, List.length_append]

theorem Push.length_encode (push : Push) :
    push.encode.length = (Wire.encode push.peer).length + (8 +
      (push.operations.flatMap PushOperation.encode).length +
        (Wire.encode push.allSucceeded).length) := by
  obtain ⟨peer, operations, allSucceeded⟩ := push
  have count : (Wire.encodeCount operations.length).length = 8 := Bytes.length_ofNatLE 8 _
  simp only [Push.encode, List.length_append, Push.encodeOperations_eq, count]

theorem PushOperation.encode_ne_nil (operation : PushOperation) : operation.encode ≠ [] := by
  have length_eq := operation.length_encode
  have key_pos := Wire.length_encode_pos operation.key
  intro none
  rw [none, List.length_nil] at length_eq
  omega

/-- An operation takes up **fewer bytes than its push**. -/
theorem Push.length_operation_lt {push : Push} {operation : PushOperation}
    (mem : operation ∈ push.operations) : operation.encode.length < push.encode.length := by
  have := push.length_encode
  have := Wire.length_form_le_of_mem PushOperation.encode mem
  omega

/-- A push inside an operation takes up **fewer bytes than the operation**. -/
theorem PushOperation.length_nested_lt {operation : PushOperation} {push : Push}
    (inside : operation.nested = some push) : push.encode.length < operation.encode.length := by
  have := operation.length_encode
  rw [inside, Push.encodeNested, List.length_cons] at this
  omega

namespace Push

/-! ## Pushes within a depth -/

/-- The form of pushes that **nest fewer than `depth`** others inside each other. -/
@[reducible] def within (depth : Nat) : Wire Push := ⟨Push.encode, Push.decodeWithin depth⟩

theorem operation_encode (depth : Nat) (operation : PushOperation) :
    (PushOperation.wire (within depth)).encode operation = operation.encode := by
  obtain ⟨key, version, newKey, force, status, nested⟩ := operation
  cases nested <;> rfl

theorem wire_encode (depth : Nat) (push : Push) :
    (Push.wire (PushOperation.wire (within depth))).encode push = push.encode := by
  obtain ⟨peer, operations, allSucceeded⟩ := push
  have operations_eq : operations.flatMap (PushOperation.wire (within depth)).encode =
      encodeOperations operations := by
    rw [encodeOperations_eq]
    exact List.flatMap_congr fun operation _ => operation_encode depth operation
  rw [Push.encode, ← operations_eq]
  rfl

/-- One more level is **the form of a push over the form below it**. -/
theorem within_succ (depth : Nat) :
    within (depth + 1) = Push.wire (PushOperation.wire (within depth)) :=
  congrArg (Wire.mk · _) (funext fun push => (wire_encode depth push).symm)

theorem encode_ne_nil (push : Push) : push.encode ≠ [] := by
  have := push.length_encode
  intro none
  rw [none, List.length_nil] at this
  omega

theorem extends_wire {w w' : Wire Push} (h : Extends w w') :
    Extends (Push.wire (PushOperation.wire w)) (Push.wire (PushOperation.wire w')) := by
  have operation : Extends (PushOperation.wire w) (PushOperation.wire w') :=
    .via (.pair Delimited.extends_self <| .pair Delimited.extends_self <|
      .pair Delimited.extends_self <| .pair Delimited.extends_self <|
      .pair Delimited.extends_self <| .option h) _ _
  exact .via (.pair Delimited.extends_self <| .pair (.list operation) Delimited.extends_self) _ _

/-- A larger bound **only adds to what is read**: where the depth was too small, the bytes are said
to have ended. -/
theorem extends_within {depth depth' : Nat} (le : depth ≤ depth') :
    Extends (within depth) (within depth') := by
  induction depth generalizing depth' with
  | zero => exact fun bytes more => .ended rfl _
  | succ depth ih =>
    obtain ⟨depth', rfl⟩ := Nat.exists_eq_add_of_le' (Nat.lt_of_lt_of_le (Nat.succ_pos depth) le)
    rw [within_succ, within_succ]
    exact extends_wire (ih (Nat.le_of_succ_le_succ le))

theorem delimited_operation {depth : Nat} (h : @Delimited Push (within depth)) :
    @Delimited PushOperation (PushOperation.wire (within depth)) :=
  let _ := within depth
  .via fun _ => rfl

theorem delimited_within (depth : Nat) : @Delimited Push (within depth) := by
  induction depth with
  | zero =>
    let _ := within 0
    exact ⟨encode_ne_nil, nofun, extends_within (Nat.le_refl 0)⟩
  | succ depth ih =>
    rw [within_succ]
    let _ := within depth
    let _ := PushOperation.wire (within depth)
    have := delimited_operation ih
    exact .via fun _ => rfl

theorem readBack_operation {depth : Nat} {operation : PushOperation}
    (addressable : operation.encode.Addressable)
    (nested : ∀ push ∈ operation.nested, @ReadBack Push (within depth) push push) :
    @ReadBack PushOperation (PushOperation.wire (within depth)) operation operation := by
  have length_eq := operation.length_encode
  let _ := within depth
  refine .via (.pair (Lossless.readBack _ (addressable.of_le ?_)) <|
    .pair (Lossless.readBack _ (addressable.of_le ?_)) <|
    .pair (Lossless.readBack _ (addressable.of_le ?_)) <|
    .pair (Lossless.readBack _ (addressable.of_le ?_)) <|
    .pair (Lossless.readBack _ (addressable.of_le ?_)) <| .option nested) (by cases operation; rfl)
  all_goals omega

/-- A push **is read back** within as many levels as it has bytes, and so are those inside it, which
have fewer. -/
theorem readBack_within {depth : Nat} {push : Push} (addressable : push.encode.Addressable)
    (shallow : push.encode.length < depth) : @ReadBack Push (within depth) push push := by
  induction depth generalizing push with
  | zero => exact absurd shallow (Nat.not_lt_zero _)
  | succ depth ih =>
    have length_eq := push.length_encode
    have operations : ∀ operation ∈ push.operations,
        @ReadBack PushOperation (PushOperation.wire (within depth)) operation operation := by
      intro operation mem
      have := length_operation_lt mem
      refine readBack_operation (addressable.of_le (by omega)) fun nested inside => ?_
      have := operation.length_nested_lt inside
      exact ih (addressable.of_le (by omega)) (by omega)
    have few : push.operations.length < 2 ^ 64 := by
      have := Wire.length_le_length_flatMap PushOperation.encode_ne_nil push.operations
      rw [Bytes.Addressable] at addressable
      omega
    rw [within_succ]
    let _ := PushOperation.wire (within depth)
    refine .via (.pair (Lossless.readBack _ (addressable.of_le ?_)) <|
      .pair (.list operations few) (Lossless.readBack _ (addressable.of_le ?_)))
      (by cases push; rfl)
    all_goals omega

end Push

/-! ## The forms themselves -/

instance : Lossless Push where
  encode_ne_nil := Push.encode_ne_nil
  canonical {bytes _ _} read := (Push.delimited_within (bytes.length + 1)).canonical read
  extends_self bytes more := Push.extends_within (by simp) bytes more
  readBack push addressable rest := by
    have le : push.encode.length ≤ (push.encode ++ rest).length := by
      rw [List.length_append]
      exact Nat.le_add_right _ _
    exact Push.readBack_within addressable (Nat.lt_succ_of_le le) rest

end DriveLink
