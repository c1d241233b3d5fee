import DriveLink.Proofs.Bytes
import DriveLink.Wire.Basic

/-! # Laws of serialized forms

Bytes that come over a channel may be cut short anywhere, and they may come from anybody. A form
stands up to that if a written value is read back, whatever follows it; if nothing is read but what
is written for the value, down to the last byte; and if what a reader says of some bytes stays true
when more of them come. All three pass from the parts of a value to the whole, so that a form has
them that is put together from forms that do.

* `Bytes.Addressable` — bytes that a machine can hold;
* `Wire.ReadBack` — a value is read back from its bytes;
* `Wire.Canonical` — only the bytes of a value are read as it;
* `Wire.Persists`, `Wire.Extends` — what is said of some bytes stays true when more come;
* `Wire.Delimited`, `Wire.Lossless` — forms with these laws;
* `Wire.ReadBack.exists_error` — the bytes of a value cut short are no value. -/

namespace DriveLink

/-- **Bytes that a machine can hold**: their count is a word of 64 bits. -/
def Bytes.Addressable (bytes : Bytes) : Prop := bytes.length < 2 ^ 64

theorem Bytes.Addressable.of_le {bytes part : Bytes} (h : bytes.Addressable)
    (le : part.length ≤ bytes.length) : part.Addressable := Nat.lt_of_le_of_lt le h

namespace Wire

variable {α β τ : Type}

/-! ## The laws -/

/-- **A value is read back** from its bytes, whatever follows them, as what is `kept` of it. -/
def ReadBack [Wire α] (value kept : α) : Prop :=
  ∀ rest : Bytes, decode (encode value ++ rest) = .ok (kept, rest)

/-- **Only the bytes of a value are read as it**: nothing has a second form. -/
def Canonical (α : Type) [Wire α] : Prop :=
  ∀ {bytes rest : Bytes} {value : α},
    decode bytes = .ok (value, rest) → bytes = encode value ++ rest

/-- **What is said of some bytes stays true** when `more` come: a value is still that value and an
error that error, unless all it said was that the bytes ended too early. -/
inductive Persists (more : Bytes) :
    Except DecodeError (α × Bytes) → Except DecodeError (α × Bytes) → Prop
  | ok (value : α) (rest : Bytes) : Persists more (.ok (value, rest)) (.ok (value, rest ++ more))
  | error (e : DecodeError) : Persists more (.error e) (.error e)
  | ended {e : DecodeError} (early : e.endOfInput = true)
      (later : Except DecodeError (α × Bytes)) : Persists more (.error e) later

/-- What one reader says of some bytes, **another says as well** when more come. -/
def Extends (w w' : Wire α) : Prop :=
  ∀ bytes more, Persists more (w.decode bytes) (w'.decode (bytes ++ more))

/-- A form of which **the end shows**: nothing else is read as a value, and more bytes make no
difference to it. -/
class Delimited (α : Type) [w : Wire α] : Prop where
  encode_ne_nil : ∀ value : α, encode value ≠ []
  canonical : Canonical α
  extends_self : Extends w w

/-- A form of which the end shows, and that **leaves nothing out**. -/
class Lossless (α : Type) [Wire α] : Prop extends Delimited α where
  readBack : ∀ value : α, (encode value).Addressable → ReadBack value value

theorem length_encode_pos [Wire α] [Delimited α] (value : α) : 0 < (encode value).length :=
  List.length_pos_iff.mpr (Delimited.encode_ne_nil value)

/-- **The bytes of a value cut short are no value**, and all that is wrong with them is that they
end too early. -/
theorem ReadBack.exists_error [w : Wire α] [Delimited α] {value kept : α} (h : ReadBack value kept)
    {front : Bytes} (begins : front <+: encode value) (cut : front ≠ encode value) :
    ∃ e, decode (α := α) front = .error e ∧ e.endOfInput = true := by
  obtain ⟨more, whole⟩ := begins
  have later : decode (front ++ more) = .ok (kept, []) := by
    rw [whole, ← List.append_nil (encode value)]
    exact h []
  have persists := Delimited.extends_self (w := w) front more
  rw [later] at persists
  cases read : decode (α := α) front with
  | ok result =>
    -- a value in front would have left the bytes over that were cut off
    obtain ⟨value', rest⟩ := result
    rw [read] at persists
    generalize rest_eq : ([] : Bytes) = rest' at persists
    cases persists
    obtain ⟨-, rfl⟩ := List.append_eq_nil_iff.mp rest_eq.symm
    exact absurd (by rw [← whole, List.append_nil]) cut
  | error e =>
    rw [read] at persists
    cases persists with
    | ended early => exact ⟨e, rfl, early⟩

/-! ## Forms that begin with another

Counts, and the numbers of names and shapes, stand in front of what they are for. A reader of such a
form fails wherever there is no number to be read, for the same reason. -/

section First

variable [Wire α] {start later : Bytes → Except DecodeError (β × Bytes)} {bytes rest : Bytes}

/-- Where such a reader **comes to a value**, there is a number in front. -/
theorem exists_first
    (fails : ∀ {bytes e}, decode (α := α) bytes = .error e → start bytes = .error e) {value : β}
    (h : start bytes = .ok (value, rest)) :
    ∃ first between, decode (α := α) bytes = .ok (first, between) := by
  cases first_eq : decode (α := α) bytes with
  | ok result => exact ⟨result.1, result.2, rfl⟩
  | error e =>
    rw [fails first_eq] at h
    cases h

/-- What such a reader says **stays true** if it does where there is a number in front. -/
theorem Persists.of_first [Delimited α]
    (fails : ∀ {bytes e}, decode (α := α) bytes = .error e → start bytes = .error e)
    (later_fails : ∀ {bytes e}, decode (α := α) bytes = .error e → later bytes = .error e)
    {more : Bytes}
    (behind : ∀ {first : α} {rest : Bytes}, decode bytes = .ok (first, rest) →
      decode (bytes ++ more) = .ok (first, rest ++ more) →
      Persists more (start bytes) (later (bytes ++ more))) :
    Persists more (start bytes) (later (bytes ++ more)) := by
  have persists := Delimited.extends_self (α := α) bytes more
  generalize first_eq : decode (α := α) bytes = read,
    later_eq : decode (α := α) (bytes ++ more) = read' at persists
  cases persists with
  | ok first rest => exact behind first_eq later_eq
  | error e =>
    rw [fails first_eq, later_fails later_eq]
    exact .error e
  | ended early =>
    rw [fails first_eq]
    exact .ended early _

end First

/-! ## Single bytes and truth values -/

instance : Lossless UInt8 where
  encode_ne_nil _ := List.cons_ne_nil _ _
  canonical {bytes rest value} read := by
    cases bytes with
    | nil => cases read
    | cons b bytes =>
      cases read
      rfl
  extends_self bytes more := by
    cases bytes with
    | nil => exact .ended rfl _
    | cons b bytes => exact .ok b bytes
  readBack _ _ _ := rfl

instance : Lossless Bool where
  encode_ne_nil _ := List.cons_ne_nil _ _
  canonical {bytes rest value} read := by
    cases bytes with
    | nil => cases read
    | cons b bytes =>
      simp only [decode] at read
      split at read
      · rename_i zero
        cases read
        rw [zero]
        rfl
      · split at read
        · rename_i one
          cases read
          rw [one]
          rfl
        · cases read
  extends_self bytes more := by
    cases bytes with
    | nil => exact .ended rfl _
    | cons b bytes =>
      simp only [decode, List.cons_append]
      split
      · exact .ok false bytes
      · split
        · exact .ok true bytes
        · exact .error _
  readBack value _ _ := by cases value <;> rfl

/-! ## Words -/

/-- The bytes in front are **the first so many**. -/
theorem splitFront_append {front : Bytes} {width : Nat} (length_eq : front.length = width)
    (rest : Bytes) : splitFront width (front ++ rest) = .ok (front, rest) := by
  rw [splitFront, List.take_left' length_eq, List.drop_left' length_eq, if_pos length_eq]

theorem eq_append_of_splitFront {width : Nat} {bytes front rest : Bytes}
    (h : splitFront width bytes = .ok (front, rest)) :
    bytes = front ++ rest ∧ front.length = width := by
  unfold splitFront at h
  simp only at h
  split at h
  · rename_i length_eq
    cases h
    exact ⟨(List.take_append_drop _ _).symm, length_eq⟩
  · cases h

/-- Where there are **not enough bytes**, that is all that can be said. -/
theorem eq_inputEnded_of_splitFront {width : Nat} {bytes : Bytes} {e : DecodeError}
    (h : splitFront width bytes = .error e) : e = .inputEnded := by
  unfold splitFront at h
  simp only at h
  split at h <;> cases h
  rfl

theorem ReadBack.word {width : Nat} {toNat : α → Nat} {ofNat : Nat → α}
    (lt : ∀ a, toNat a < 256 ^ width) (ofNat_toNat : ∀ a, ofNat (toNat a) = a) (a : α) :
    @ReadBack α (Wire.word width toNat ofNat) a a := by
  intro rest
  simp only [decode, encode]
  rw [splitFront_append (Bytes.length_ofNatLE width _)]
  dsimp only
  rw [Bytes.toNatLE_ofNatLE, Nat.mod_eq_of_lt (lt a), ofNat_toNat]

/-- **Words keep every number** that fits into their bytes. -/
theorem Lossless.word {width : Nat} {toNat : α → Nat} {ofNat : Nat → α} (wide : width ≠ 0)
    (lt : ∀ a, toNat a < 256 ^ width) (ofNat_toNat : ∀ a, ofNat (toNat a) = a)
    (toNat_ofNat : ∀ n < 256 ^ width, toNat (ofNat n) = n) :
    @Lossless α (Wire.word width toNat ofNat) := by
  let _ := Wire.word width toNat ofNat
  refine { encode_ne_nil := ?_, canonical := ?_, extends_self := ?_, readBack := ?_ }
  · intro value none
    have width_eq := Bytes.length_ofNatLE width (toNat value)
    rw [show Bytes.ofNatLE width (toNat value) = [] from none] at width_eq
    exact wide width_eq.symm
  · intro bytes rest value read
    simp only [decode] at read
    split at read
    · rename_i front rest split_eq
      cases read
      obtain ⟨rfl, rfl⟩ := eq_append_of_splitFront split_eq
      simp only [encode]
      rw [toNat_ofNat _ (Bytes.toNatLE_lt front), Bytes.ofNatLE_toNatLE]
    · cases read
  · intro bytes more
    simp only [decode]
    cases split_eq : splitFront width bytes with
    | ok parts =>
      obtain ⟨front, rest⟩ := parts
      obtain ⟨rfl, length_eq⟩ := eq_append_of_splitFront split_eq
      rw [List.append_assoc, splitFront_append length_eq]
      exact .ok _ rest
    | error e =>
      rw [eq_inputEnded_of_splitFront split_eq]
      exact .ended rfl _
  · exact fun value _ => .word lt ofNat_toNat value

theorem readBack_word32 (n : UInt32) : ReadBack n n :=
  .word UInt32.toNat_lt (fun _ => UInt32.ofNat_toNat) n

theorem readBack_word64 (n : UInt64) : ReadBack n n :=
  .word UInt64.toNat_lt (fun _ => UInt64.ofNat_toNat) n

instance : Lossless UInt32 :=
  .word (by decide) UInt32.toNat_lt (fun _ => UInt32.ofNat_toNat)
    fun _ lt => UInt32.toNat_ofNat_of_lt' lt

instance : Lossless UInt64 :=
  .word (by decide) UInt64.toNat_lt (fun _ => UInt64.ofNat_toNat)
    fun _ lt => UInt64.toNat_ofNat_of_lt' lt

/-! ## Pairs -/

theorem ReadBack.pair [Wire α] [Wire β] {a a' : α} {b b' : β} (h : ReadBack a a')
    (k : ReadBack b b') : ReadBack (a, b) (a', b') := by
  intro rest
  simp only [encode, decode, List.append_assoc]
  rw [h]
  dsimp only
  rw [k]

theorem Extends.pair {w w' : Wire α} {x x' : Wire β} (h : Extends w w') (k : Extends x x') :
    Extends (@Wire.pair α β w x) (@Wire.pair α β w' x') := by
  intro bytes more
  have first := h bytes more
  simp only [decode] at first ⊢
  generalize w.decode bytes = read, w'.decode (bytes ++ more) = later at first ⊢
  cases first with
  | ok a rest =>
    have second := k rest more
    dsimp only
    generalize x.decode rest = read, x'.decode (rest ++ more) = later at second ⊢
    cases second with
    | ok b rest => exact .ok (a, b) rest
    | error e => exact .error e
    | ended early => exact .ended early _
  | error e => exact .error e
  | ended early => exact .ended early _

instance [Wire α] [Wire β] [Delimited α] [Delimited β] : Delimited (α × β) where
  encode_ne_nil value := List.append_ne_nil_of_left_ne_nil (Delimited.encode_ne_nil value.1) _
  canonical {bytes rest value} read := by
    simp only [decode] at read
    split at read
    · cases read
    · rename_i first between first_eq
      split at read
      · cases read
      · rename_i second rest second_eq
        cases read
        rw [Delimited.canonical first_eq, Delimited.canonical second_eq, ← List.append_assoc]
        rfl
  extends_self := .pair Delimited.extends_self Delimited.extends_self

instance [Wire α] [Wire β] [Lossless α] [Lossless β] : Lossless (α × β) where
  readBack value addressable := by
    have length_eq : (encode value).length = (encode value.1).length + (encode value.2).length :=
      List.length_append
    exact .pair (Lossless.readBack _ (addressable.of_le (by omega)))
      (Lossless.readBack _ (addressable.of_le (by omega)))

/-! ## Forms of other types -/

theorem ReadBack.via [Wire τ] {pack : τ → α} {unpack : α → τ} {value kept : α} {parts : τ}
    (h : ReadBack (unpack value) parts) (pack_eq : pack parts = kept) :
    @ReadBack α (Wire.via pack unpack) value kept := by
  intro rest
  simp only [encode, decode]
  rw [h]
  dsimp only
  rw [pack_eq]

theorem Extends.via {w w' : Wire τ} (h : Extends w w') (pack : τ → α) (unpack : α → τ) :
    Extends (@Wire.via τ α w pack unpack) (@Wire.via τ α w' pack unpack) := by
  intro bytes more
  have persists := h bytes more
  simp only [decode] at persists ⊢
  generalize w.decode bytes = read, w'.decode (bytes ++ more) = later at persists ⊢
  cases persists with
  | ok parts rest => exact .ok (pack parts) rest
  | error e => exact .error e
  | ended early => exact .ended early _

theorem Delimited.via [Wire τ] [Delimited τ] {pack : τ → α} {unpack : α → τ}
    (unpack_pack : ∀ parts, unpack (pack parts) = parts) :
    @Delimited α (Wire.via pack unpack) := by
  let _ := Wire.via pack unpack
  refine { encode_ne_nil := ?_, canonical := ?_, extends_self := ?_ }
  · exact fun value => Delimited.encode_ne_nil (unpack value)
  · intro bytes rest value read
    simp only [decode] at read
    split at read
    · cases read
    · rename_i parts rest parts_eq
      cases read
      simp only [encode]
      rw [unpack_pack]
      exact Delimited.canonical parts_eq
  · exact .via Delimited.extends_self pack unpack

theorem Lossless.via [Wire τ] [Lossless τ] {pack : τ → α} {unpack : α → τ}
    (unpack_pack : ∀ parts, unpack (pack parts) = parts)
    (pack_unpack : ∀ value, pack (unpack value) = value) :
    @Lossless α (Wire.via pack unpack) :=
  let _ := Wire.via pack unpack
  { Delimited.via unpack_pack with
    readBack := fun value addressable =>
      .via (Lossless.readBack (unpack value) addressable) (pack_unpack value) }

instance : Lossless Int64 := .via (fun _ => rfl) fun _ => rfl

/-! ## Optional values -/

theorem ReadBack.option [Wire α] {value : Option α} (h : ∀ a ∈ value, ReadBack a a) :
    ReadBack value value := by
  intro rest
  cases value with
  | none => rfl
  | some a =>
    simp only [encode, decode, List.cons_append]
    rw [h a rfl rest]
    rfl

theorem Extends.option {w w' : Wire α} (h : Extends w w') :
    Extends (@Wire.option α w) (@Wire.option α w') := by
  intro bytes more
  cases bytes with
  | nil => exact .ended rfl _
  | cons tag bytes =>
    have persists := h bytes more
    simp only [decode, List.cons_append] at persists ⊢
    split
    · exact .ok none bytes
    · split
      · generalize w.decode bytes = read, w'.decode (bytes ++ more) = later at persists ⊢
        cases persists with
        | ok a rest => exact .ok (some a) rest
        | error e => exact .error e
        | ended early => exact .ended early _
      · exact .error _

instance [Wire α] [Delimited α] : Delimited (Option α) where
  encode_ne_nil value := by cases value <;> exact List.cons_ne_nil _ _
  canonical {bytes rest value} read := by
    cases bytes with
    | nil => cases read
    | cons tag bytes =>
      simp only [decode] at read
      split at read
      · rename_i absent
        cases read
        rw [absent]
        rfl
      · split at read
        · rename_i present
          split at read
          · cases read
          · rename_i a rest a_eq
            cases read
            rw [Delimited.canonical a_eq, present]
            rfl
        · cases read
  extends_self := .option Delimited.extends_self

instance [Wire α] [Lossless α] : Lossless (Option α) where
  readBack value addressable := by
    refine .option fun a mem => Lossless.readBack a (addressable.of_le ?_)
    rw [Option.mem_def.mp mem]
    exact Nat.le_succ _

end Wire

end DriveLink
