import DriveLink.Proofs.Wire.Laws
import Mathlib.Data.List.Nodup

/-! # Sequences, texts and names

A sequence and a text have a count in front of them, which may be a lie, and a name is a number,
which may be that of nothing. Their forms have all the laws nevertheless: a reader that is told to
go on past the end of the bytes says that they ended, and nothing else.

* `Wire.ReadBack.list`, `Wire.Extends.list` — sequences, by their elements;
* `Wire.Lossless.choice` — names, by the list of them all. -/

namespace DriveLink

namespace Wire

variable {α : Type}

/-! ## Sequences -/

/-- What is written of a sequence **reads on** behind what has been read. -/
theorem decodeInto_flatMap [Wire α] {values : List α} (h : ∀ a ∈ values, ReadBack a a)
    (reversed : List α) (rest : Bytes) :
    decodeInto values.length reversed (values.flatMap encode ++ rest) =
      .ok (reversed.reverse ++ values, rest) := by
  induction values generalizing reversed with
  | nil => simp
  | cons a values ih =>
    rw [List.length_cons, decodeInto_succ, List.flatMap_cons, List.append_assoc,
      h a (List.mem_cons_self ..)]
    dsimp only
    rw [ih fun b mem => h b (List.mem_cons_of_mem _ mem)]
    simp

/-- A sequence that is read is **what stood there**, behind what had been read. -/
theorem exists_of_decodeInto [Wire α] [Delimited α] {n : Nat} {reversed values : List α}
    {bytes rest : Bytes} (h : decodeInto n reversed bytes = .ok (values, rest)) :
    ∃ new, values = reversed.reverse ++ new ∧ new.length = n ∧
      bytes = new.flatMap encode ++ rest := by
  induction n generalizing reversed bytes with
  | zero =>
    cases h
    exact ⟨[], (List.append_nil _).symm, rfl, rfl⟩
  | succ n ih =>
    rw [decodeInto_succ] at h
    split at h
    · cases h
    · rename_i a between a_eq
      obtain ⟨new, rfl, length_eq, rfl⟩ := ih h
      refine ⟨a :: new, ?_, ?_, ?_⟩
      · simp
      · rw [List.length_cons, length_eq]
      · rw [Delimited.canonical a_eq, List.flatMap_cons, List.append_assoc]

theorem Extends.decodeInto {w w' : Wire α} (h : Extends w w') (n : Nat) (reversed : List α)
    (bytes more : Bytes) :
    Persists more (@Wire.decodeInto α w n reversed bytes)
      (@Wire.decodeInto α w' n reversed (bytes ++ more)) := by
  induction n generalizing reversed bytes with
  | zero => exact .ok _ bytes
  | succ n ih =>
    have persists := h bytes more
    rw [@decodeInto_succ α w, @decodeInto_succ α w']
    generalize w.decode bytes = read, w'.decode (bytes ++ more) = later at persists ⊢
    cases persists with
    | ok a rest => exact ih (a :: reversed) rest
    | error e => exact .error e
    | ended early => exact .ended early _

theorem decode_list_of_ok [Wire α] {bytes rest : Bytes} {count : UInt64}
    (h : decode bytes = .ok (count, rest)) :
    decode (α := List α) bytes = decodeInto count.toNat [] rest := by
  unfold decode list
  dsimp only
  rw [h]

theorem decode_list_of_error [Wire α] {bytes : Bytes} {e : DecodeError}
    (h : decode (α := UInt64) bytes = .error e) : decode (α := List α) bytes = .error e := by
  unfold decode list
  dsimp only
  rw [h]

theorem ReadBack.list [Wire α] {values : List α} (h : ∀ a ∈ values, ReadBack a a)
    (few : values.length < 2 ^ 64) : ReadBack values values := by
  intro rest
  have bytes_eq : encode values ++ rest =
      encode (UInt64.ofNat values.length) ++ (values.flatMap encode ++ rest) :=
    List.append_assoc _ _ _
  rw [bytes_eq, decode_list_of_ok (readBack_word64 _ _), UInt64.toNat_ofNat_of_lt' few,
    decodeInto_flatMap h]
  rfl

theorem Extends.list {w w' : Wire α} (h : Extends w w') :
    Extends (@Wire.list α w) (@Wire.list α w') := by
  intro bytes more
  refine .of_first (α := UInt64) (fun none => @decode_list_of_error α w _ _ none)
    (fun none => @decode_list_of_error α w' _ _ none) ?_
  intro count rest count_eq later_eq
  rw [@decode_list_of_ok α w _ _ _ count_eq, @decode_list_of_ok α w' _ _ _ later_eq]
  exact h.decodeInto count.toNat [] rest more

/-- A sequence is not longer **than its bytes**, if all elements have some. -/
theorem length_le_length_flatMap {form : α → Bytes} (nonempty : ∀ a, form a ≠ [])
    (values : List α) : values.length ≤ (values.flatMap form).length := by
  induction values with
  | nil => exact Nat.le_refl 0
  | cons a values ih =>
    have := List.length_pos_iff.mpr (nonempty a)
    rw [List.length_cons, List.flatMap_cons, List.length_append]
    omega

/-- The bytes of an element are **among those of its sequence**. -/
theorem length_form_le_of_mem (form : α → Bytes) {values : List α} {a : α} (mem : a ∈ values) :
    (form a).length ≤ (values.flatMap form).length := by
  obtain ⟨before, after, rfl⟩ := List.append_of_mem mem
  simp only [List.flatMap_append, List.flatMap_cons, List.length_append]
  omega

instance [Wire α] [Delimited α] : Delimited (List α) where
  encode_ne_nil _ := List.append_ne_nil_of_left_ne_nil (Delimited.encode_ne_nil (α := UInt64) _) _
  canonical {bytes rest values} read := by
    obtain ⟨count, between, count_eq⟩ := exists_first (α := UInt64) decode_list_of_error read
    rw [decode_list_of_ok count_eq] at read
    obtain ⟨new, rfl, length_eq, rfl⟩ := exists_of_decodeInto read
    rw [Delimited.canonical count_eq, ← List.append_assoc, ← count.ofNat_toNat, ← length_eq]
    rfl
  extends_self := .list Delimited.extends_self

instance [Wire α] [Lossless α] : Lossless (List α) where
  readBack values addressable := by
    have length_eq : (encode values).length = 8 + (values.flatMap encode).length := by
      rw [← Bytes.length_ofNatLE 8 (UInt64.ofNat values.length).toNat, ← List.length_append]
      rfl
    have := length_le_length_flatMap Delimited.encode_ne_nil values
    refine .list (fun a mem => Lossless.readBack a (addressable.of_le ?_)) ?_
    · have := length_form_le_of_mem encode mem
      omega
    · rw [Bytes.Addressable] at addressable
      omega

/-! ## Texts -/

theorem decode_text_of_error {bytes : Bytes} {e : DecodeError}
    (h : decode (α := UInt64) bytes = .error e) : decode (α := String) bytes = .error e := by
  unfold decode text
  dsimp only
  rw [h]

theorem decode_text_of_cut {bytes rest : Bytes} {count : UInt64} {e : DecodeError}
    (h : decode bytes = .ok (count, rest)) (cut : splitFront count.toNat rest = .error e) :
    decode (α := String) bytes = .error .textCutShort := by
  unfold decode text
  dsimp only
  rw [h]
  dsimp only
  rw [cut]

theorem decode_text_of_some {bytes between front rest : Bytes} {count : UInt64} {s : String}
    (h : decode bytes = .ok (count, between))
    (split_eq : splitFront count.toNat between = .ok (front, rest))
    (utf8 : String.fromUTF8? ⟨front.toArray⟩ = some s) : decode bytes = .ok (s, rest) := by
  unfold decode text
  dsimp only
  rw [h]
  dsimp only
  rw [split_eq]
  dsimp only
  rw [utf8]

theorem decode_text_of_none {bytes between front rest : Bytes} {count : UInt64}
    (h : decode bytes = .ok (count, between))
    (split_eq : splitFront count.toNat between = .ok (front, rest))
    (utf8 : String.fromUTF8? ⟨front.toArray⟩ = none) :
    decode (α := String) bytes = .error (.badText (Utf8.faultOf front)) := by
  unfold decode text
  dsimp only
  rw [h]
  dsimp only
  rw [split_eq]
  dsimp only
  rw [utf8]

theorem fromUTF8?_toByteArray (s : String) : String.fromUTF8? s.toByteArray = some s := by
  rw [String.fromUTF8?, dif_pos s.isValidUTF8]
  rfl

theorem toByteArray_of_fromUTF8? {bytes : ByteArray} {s : String}
    (h : String.fromUTF8? bytes = some s) : s.toByteArray = bytes := by
  unfold String.fromUTF8? at h
  split at h <;> cases h
  rfl

instance : Lossless String where
  encode_ne_nil _ := List.append_ne_nil_of_left_ne_nil (Delimited.encode_ne_nil (α := UInt64) _) _
  canonical {bytes rest s} read := by
    obtain ⟨count, between, count_eq⟩ := exists_first (α := UInt64) decode_text_of_error read
    cases split_eq : splitFront count.toNat between with
    | error e =>
      rw [decode_text_of_cut count_eq split_eq] at read
      cases read
    | ok parts =>
      obtain ⟨front, rest'⟩ := parts
      cases utf8 : String.fromUTF8? ⟨front.toArray⟩ with
      | none =>
        rw [decode_text_of_none count_eq split_eq utf8] at read
        cases read
      | some s' =>
        rw [decode_text_of_some count_eq split_eq utf8] at read
        cases read
        obtain ⟨rfl, length_eq⟩ := eq_append_of_splitFront split_eq
        have bytes_eq := toByteArray_of_fromUTF8? utf8
        have size_eq : s.toByteArray.size = count.toNat := by
          rw [bytes_eq]
          exact length_eq
        have encode_eq : encode s = encode count ++ front := by
          show encode (UInt64.ofNat s.toByteArray.size) ++ s.toByteArray.data.toList = _
          rw [size_eq, UInt64.ofNat_toNat, bytes_eq]
        rw [Delimited.canonical count_eq, encode_eq, List.append_assoc]
  extends_self bytes more := by
    refine .of_first (α := UInt64) decode_text_of_error decode_text_of_error ?_
    intro count rest count_eq later_eq
    cases split_eq : splitFront count.toNat rest with
    | error e =>
      rw [decode_text_of_cut count_eq split_eq]
      exact .ended rfl _
    | ok parts =>
      obtain ⟨front, rest'⟩ := parts
      obtain ⟨rfl, length_eq⟩ := eq_append_of_splitFront split_eq
      rw [List.append_assoc] at later_eq
      have later_split := splitFront_append length_eq (rest' ++ more)
      cases utf8 : String.fromUTF8? ⟨front.toArray⟩ with
      | none =>
        rw [decode_text_of_none count_eq split_eq utf8,
          decode_text_of_none later_eq later_split utf8]
        exact .error _
      | some s =>
        rw [decode_text_of_some count_eq split_eq utf8,
          decode_text_of_some later_eq later_split utf8]
        exact .ok s rest'
  readBack s addressable := by
    intro rest
    have length_eq : (encode s).length = 8 + s.toByteArray.size := by
      rw [← Bytes.length_ofNatLE 8 (UInt64.ofNat s.toByteArray.size).toNat]
      exact List.length_append
    have count_eq : (UInt64.ofNat s.toByteArray.size).toNat = s.toByteArray.size := by
      have lt : s.toByteArray.size < 2 ^ 64 := by
        rw [Bytes.Addressable] at addressable
        omega
      exact UInt64.toNat_ofNat_of_lt' lt
    have bytes_eq : encode s ++ rest = encode (UInt64.ofNat s.toByteArray.size) ++
        (s.toByteArray.data.toList ++ rest) := List.append_assoc _ _ _
    rw [bytes_eq]
    refine decode_text_of_some (readBack_word64 _ _)
      (splitFront_append (by rw [count_eq]; rfl) rest) ?_
    rw [Array.toArray_toList]
    exact fromUTF8?_toByteArray s

/-! ## Names -/

theorem decode_choice_of_some [DecidableEq α] {all : List α} {bytes rest : Bytes} {index : UInt32}
    {a : α} (h : decode bytes = .ok (index, rest)) (there : all[index.toNat]? = some a) :
    (Wire.choice all).decode bytes = .ok (a, rest) := by
  unfold Wire.choice
  dsimp only
  rw [h]
  dsimp only
  rw [there]

theorem decode_choice_of_none [DecidableEq α] {all : List α} {bytes rest : Bytes} {index : UInt32}
    (h : decode bytes = .ok (index, rest)) (absent : all[index.toNat]? = none) :
    (Wire.choice all).decode bytes = .error (.badVariant index all.length) := by
  unfold Wire.choice
  dsimp only
  rw [h]
  dsimp only
  rw [absent]

theorem decode_choice_of_error [DecidableEq α] {all : List α} {bytes : Bytes} {e : DecodeError}
    (h : decode (α := UInt32) bytes = .error e) : (Wire.choice all).decode bytes = .error e := by
  unfold Wire.choice
  dsimp only
  rw [h]

/-- **Names are kept**, if they are all listed, each of them once. -/
theorem Lossless.choice [DecidableEq α] {all : List α} (complete : ∀ a, a ∈ all)
    (nodup : all.Nodup) (few : all.length < 2 ^ 32) : @Lossless α (Wire.choice all) := by
  let _ := Wire.choice all
  refine { encode_ne_nil := ?_, canonical := ?_, extends_self := ?_, readBack := ?_ }
  · exact fun a => Delimited.encode_ne_nil (UInt32.ofNat (all.idxOf a))
  · intro bytes rest a read
    obtain ⟨index, between, index_eq⟩ := exists_first (α := UInt32) decode_choice_of_error read
    cases there : all[index.toNat]? with
    | none =>
      rw [decode_choice_of_none index_eq there] at read
      cases read
    | some b =>
      rw [decode_choice_of_some index_eq there] at read
      cases read
      obtain ⟨lt, rfl⟩ := List.getElem?_eq_some_iff.mp there
      rw [Delimited.canonical index_eq]
      show _ = encode (UInt32.ofNat (all.idxOf all[index.toNat])) ++ rest
      rw [nodup.idxOf_getElem _ lt, UInt32.ofNat_toNat]
  · intro bytes more
    refine .of_first (α := UInt32) decode_choice_of_error decode_choice_of_error ?_
    intro index rest index_eq later_eq
    cases there : all[index.toNat]? with
    | none =>
      rw [decode_choice_of_none index_eq there, decode_choice_of_none later_eq there]
      exact .error _
    | some a =>
      rw [decode_choice_of_some index_eq there, decode_choice_of_some later_eq there]
      exact .ok a rest
  · intro a _ rest
    have lt := List.idxOf_lt_length_of_mem (complete a)
    have index_eq : (UInt32.ofNat (all.idxOf a)).toNat = all.idxOf a :=
      UInt32.toNat_ofNat_of_lt' (Nat.lt_trans lt few)
    refine decode_choice_of_some (readBack_word32 _ rest) ?_
    rw [index_eq, List.getElem?_eq_getElem lt, List.getElem_idxOf]

end Wire

end DriveLink
