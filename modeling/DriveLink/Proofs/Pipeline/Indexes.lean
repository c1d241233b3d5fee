import DriveLink.Proofs.Pipeline.Accept

/-! # Two indexes over the requests that are out

A program that looks requests up by either of their names keeps two hash maps: one from sequences to
handlers, which also notes the key, and one from keys to sequences. They are changed one after the
other, so that nothing but the order of the changes keeps them together. Kept by these operations,
the two are one set of requests, and they answer every operation as the list of requests does.

* `Indexes` — the two hash maps, with their operations and views;
* `Operation`, `Answer` — what may be asked of requests that are out, and what comes back;
* `Indexes.Holds` — two indexes that hold exactly some requests, whose names are all different;
* `Indexes.ActsAs`, `indexes_act_as_one_set` — what the indexes do after any operations. -/

namespace DriveLink

variable {η : Type}

/-! ## The two hash maps -/

/-- What the first index holds for a sequence. -/
structure Indexes.Entry (η : Type) where
  handler : η
  key : RequestKey

/-- **The requests that are out, under two indexes.** -/
structure Indexes (η : Type) where
  bySequence : Std.HashMap Int64 (Indexes.Entry η) := ∅
  byKey : Std.HashMap RequestKey Int64 := ∅

namespace Indexes

/-- **Put a request in** under both indexes. If one of its names is taken, nothing changes and the
handler comes back. -/
def insert (ix : Indexes η) (request : OutstandingRequest η) : Except η Unit × Indexes η :=
  if ix.bySequence.contains request.sequence || ix.byKey.contains request.key then
    (.error request.handler, ix)
  else
    (.ok (), { bySequence := ix.bySequence.insert request.sequence ⟨request.handler, request.key⟩
               byKey := ix.byKey.insert request.key request.sequence })

/-- **Take out** what waits for an answer to the sequence. -/
def removeBySequence (ix : Indexes η) (sequence : Int64) :
    Option (η × RequestKey) × Indexes η :=
  match ix.bySequence[sequence]? with
  | none => (none, ix)
  | some entry =>
    (some (entry.handler, entry.key),
      { bySequence := ix.bySequence.erase sequence, byKey := ix.byKey.erase entry.key })

/-- **Take out** what has the key. The key is gone before the sequence is looked up, so that a key
without its sequence would be lost here. -/
def removeByKey (ix : Indexes η) (key : RequestKey) : Option (η × Int64) × Indexes η :=
  match ix.byKey[key]? with
  | none => (none, ix)
  | some sequence =>
    let keyless : Indexes η := { ix with byKey := ix.byKey.erase key }
    match ix.bySequence[sequence]? with
    | none => (none, keyless)
    | some entry =>
      (some (entry.handler, sequence),
        { keyless with bySequence := ix.bySequence.erase sequence })

/-- Take **every handler** out. -/
def drain (ix : Indexes η) : List η × Indexes η :=
  (ix.bySequence.toList.map fun held => held.2.handler, { bySequence := ∅, byKey := ∅ })

/-- Whether something waits for an answer to the sequence. -/
def containsSequence (ix : Indexes η) (sequence : Int64) : Bool := ix.bySequence.contains sequence

/-- Whether something has the key. -/
def containsKey (ix : Indexes η) (key : RequestKey) : Bool := ix.byKey.contains key

/-- The sequence of what has the key. -/
def sequenceOf (ix : Indexes η) (key : RequestKey) : Option Int64 := ix.byKey[key]?

/-- How many handlers there are. -/
def size (ix : Indexes η) : Nat := ix.bySequence.size

end Indexes

/-! ## Operations and answers -/

/-- **What may be asked** of the requests that are out. -/
inductive Operation (η : Type)
  | insert (request : OutstandingRequest η)
  | removeBySequence (sequence : Int64)
  | removeByKey (key : RequestKey)
  | drain

/-- **What comes back.** -/
inductive Answer (η : Type)
  | inserted (result : Except η Unit)
  | ofSequence (taken : Option (η × RequestKey))
  | ofKey (taken : Option (η × Int64))
  | drained (handlers : List η)

/-- Two answers that are the same, **whatever the order** in which handlers are drained. -/
inductive Answer.Same : Answer η → Answer η → Prop
  | refl (answer : Answer η) : Same answer answer
  | drained {handlers handlers' : List η} (perm : handlers.Perm handlers') :
      Same (.drained handlers) (.drained handlers')

/-- One operation on the two indexes. -/
def Indexes.perform (ix : Indexes η) : Operation η → Answer η × Indexes η
  | .insert request => ((ix.insert request).map .inserted id)
  | .removeBySequence sequence => ((ix.removeBySequence sequence).map .ofSequence id)
  | .removeByKey key => ((ix.removeByKey key).map .ofKey id)
  | .drain => (ix.drain.map .drained id)

/-- One operation on the list of requests. -/
def Outstanding.perform (out : Outstanding η) : Operation η → Answer η × Outstanding η
  | .insert request =>
    match out.insert request with
    | none => (.inserted (.error request.handler), out)
    | some more => (.inserted (.ok ()), more)
  | .removeBySequence sequence =>
    match out.removeBySequence sequence with
    | none => (.ofSequence none, out)
    | some (request, left) => (.ofSequence (some (request.handler, request.key)), left)
  | .removeByKey key =>
    match out.removeByKey key with
    | none => (.ofKey none, out)
    | some (request, left) => (.ofKey (some (request.handler, request.sequence)), left)
  | .drain => (.drained (out.drain.1.map (·.handler)), out.drain.2)

/-- Operations **one after the other** on the two indexes, with what came back each time. -/
def Indexes.performAll (ix : Indexes η) : List (Operation η) → List (Answer η) × Indexes η
  | [] => ([], ix)
  | operation :: operations =>
    let later := (ix.perform operation).2.performAll operations
    ((ix.perform operation).1 :: later.1, later.2)

/-- Operations **one after the other** on the list of requests. -/
def Outstanding.performAll (out : Outstanding η) :
    List (Operation η) → List (Answer η) × Outstanding η
  | [] => ([], out)
  | operation :: operations =>
    let later := (out.perform operation).2.performAll operations
    ((out.perform operation).1 :: later.1, later.2)

/-! ## Indexes that hold exactly some requests -/

/-- One of the request's names is **taken** by another one. -/
def OutstandingRequest.Taken (request : OutstandingRequest η)
    (requests : List (OutstandingRequest η)) : Prop :=
  ∃ held ∈ requests, held.sequence = request.sequence ∨ held.key = request.key

namespace Indexes

/-- The two indexes **hold exactly** these requests, no two of which share a name. -/
structure Holds (ix : Indexes η) (requests : List (OutstandingRequest η)) : Prop where
  apart : requests.Pairwise fun one other => one.sequence ≠ other.sequence ∧ one.key ≠ other.key
  bySequence (sequence : Int64) (entry : Entry η) : ix.bySequence[sequence]? = some entry ↔
    ⟨sequence, entry.key, entry.handler⟩ ∈ requests
  byKey (key : RequestKey) (sequence : Int64) : ix.byKey[key]? = some sequence ↔
    ∃ handler, ⟨sequence, key, handler⟩ ∈ requests

theorem holds_empty : ({} : Indexes η).Holds [] where
  apart := .nil
  bySequence _ _ := by simp
  byKey _ _ := by simp

variable {ix : Indexes η} {requests before after : List (OutstandingRequest η)}
  {request : OutstandingRequest η}

/-- Among elements with different names, those beside one of them are **those of other names**. -/
theorem mem_beside_iff {α β : Type} {name : α → β} {before after : List α} {a b : α}
    (apart : (before ++ a :: after).Pairwise fun one other => name one ≠ name other) :
    b ∈ before ++ after ↔ b ∈ before ++ a :: after ∧ name b ≠ name a := by
  obtain ⟨-, ahead, across⟩ := List.pairwise_append.mp apart
  obtain ⟨behind, -⟩ := List.pairwise_cons.mp ahead
  constructor
  · intro mem
    rcases List.mem_append.mp mem with mem | mem
    · exact ⟨List.mem_append_left _ mem, across b mem a (List.mem_cons_self ..)⟩
    · exact ⟨List.mem_append_right _ (List.mem_cons_of_mem _ mem), (behind b mem).symm⟩
  · rintro ⟨mem, other⟩
    rcases List.mem_append.mp mem with mem | mem
    · exact List.mem_append_left _ mem
    · rcases List.mem_cons.mp mem with rfl | mem
      · exact absurd rfl other
      · exact List.mem_append_right _ mem

theorem Holds.containsSequence_iff (h : ix.Holds requests) (sequence : Int64) :
    ix.containsSequence sequence = true ↔ ∃ held ∈ requests, held.sequence = sequence := by
  rw [containsSequence, Std.HashMap.contains_eq_isSome_getElem?, Option.isSome_iff_exists]
  constructor
  · rintro ⟨entry, found⟩
    exact ⟨_, (h.bySequence _ _).mp found, rfl⟩
  · rintro ⟨held, mem, rfl⟩
    exact ⟨⟨held.handler, held.key⟩, (h.bySequence _ _).mpr mem⟩

theorem Holds.sequenceOf_iff (h : ix.Holds requests) (key : RequestKey) (sequence : Int64) :
    ix.sequenceOf key = some sequence ↔
      ∃ held ∈ requests, held.key = key ∧ held.sequence = sequence := by
  refine (h.byKey key sequence).trans ⟨fun ⟨handler, mem⟩ => ⟨_, mem, rfl, rfl⟩, ?_⟩
  rintro ⟨held, mem, rfl, rfl⟩
  exact ⟨held.handler, mem⟩

theorem Holds.containsKey_iff (h : ix.Holds requests) (key : RequestKey) :
    ix.containsKey key = true ↔ ∃ held ∈ requests, held.key = key := by
  rw [containsKey, Std.HashMap.contains_eq_isSome_getElem?, Option.isSome_iff_exists]
  constructor
  · rintro ⟨sequence, found⟩
    obtain ⟨held, mem, same, -⟩ := (h.sequenceOf_iff key sequence).mp found
    exact ⟨held, mem, same⟩
  · rintro ⟨held, mem, same⟩
    exact ⟨held.sequence, (h.sequenceOf_iff key _).mpr ⟨held, mem, same, rfl⟩⟩

/-- What the first index lists **is the requests**, in some order. -/
theorem Holds.perm (h : ix.Holds requests) :
    (ix.bySequence.toList.map fun held =>
      (⟨held.1, held.2.key, held.2.handler⟩ : OutstandingRequest η)).Perm requests := by
  have listed : (ix.bySequence.toList.map fun held =>
      (⟨held.1, held.2.key, held.2.handler⟩ : OutstandingRequest η)).Nodup := by
    refine List.pairwise_map.mpr (Std.HashMap.distinct_keys_toList.imp ?_)
    intro one other differ same
    have same : one.1 = other.1 := congrArg OutstandingRequest.sequence same
    rw [same, beq_self_eq_true] at differ
    cases differ
  have nodup : requests.Nodup := h.apart.imp fun differ same => differ.1 (by rw [same])
  refine (List.perm_ext_iff_of_nodup listed nodup).mpr fun request => ?_
  rw [List.mem_map]
  constructor
  · rintro ⟨⟨sequence, entry⟩, mem, rfl⟩
    exact (h.bySequence _ _).mp (Std.HashMap.mem_toList_iff_getElem?_eq_some.mp mem)
  · intro mem
    exact ⟨(request.sequence, ⟨request.handler, request.key⟩),
      Std.HashMap.mem_toList_iff_getElem?_eq_some.mpr ((h.bySequence _ _).mpr mem), rfl⟩

theorem Holds.size_eq (h : ix.Holds requests) : ix.size = requests.length := by
  rw [← h.perm.length_eq, List.length_map, Std.HashMap.length_toList, size]

theorem Holds.drain_perm (h : ix.Holds requests) :
    ix.drain.1.Perm (requests.map (·.handler)) := by
  have perm := h.perm.map (·.handler)
  rwa [List.map_map] at perm

/-! ## What the operations do -/

theorem Holds.taken_iff (h : ix.Holds requests) :
    (ix.bySequence.contains request.sequence || ix.byKey.contains request.key) = true ↔
      request.Taken requests := by
  rw [Bool.or_eq_true]
  refine (or_congr (h.containsSequence_iff _) (h.containsKey_iff _)).trans ?_
  constructor
  · rintro (⟨held, mem, same⟩ | ⟨held, mem, same⟩)
    · exact ⟨held, mem, .inl same⟩
    · exact ⟨held, mem, .inr same⟩
  · rintro ⟨held, mem, same | same⟩
    · exact .inl ⟨held, mem, same⟩
    · exact .inr ⟨held, mem, same⟩

theorem Holds.insert_of_taken (h : ix.Holds requests) (taken : request.Taken requests) :
    ix.insert request = (.error request.handler, ix) := by
  rw [insert, if_pos (h.taken_iff.mpr taken)]

/-- A request whose names are free **is held afterwards**, beside all that were held before. -/
theorem Holds.insert_of_free (h : ix.Holds requests) (free : ¬request.Taken requests) :
    (ix.insert request).1 = .ok () ∧ (ix.insert request).2.Holds (requests ++ [request]) := by
  have others (held : OutstandingRequest η) (mem : held ∈ requests) :
      held.sequence ≠ request.sequence ∧ held.key ≠ request.key :=
    ⟨fun same => free ⟨held, mem, .inl same⟩, fun same => free ⟨held, mem, .inr same⟩⟩
  rw [insert, if_neg fun taken => free (h.taken_iff.mp taken)]
  refine ⟨rfl, ?_, fun sequence entry => ?_, fun key sequence => ?_⟩
  · refine List.pairwise_append.mpr ⟨h.apart, List.pairwise_singleton .., fun held mem last => ?_⟩
    rintro (_ | ⟨_, ⟨⟩⟩)
    exact others held mem
  · rw [Std.HashMap.getElem?_insert, List.mem_append, List.mem_singleton, ← h.bySequence]
    split
    case isTrue same =>
      obtain rfl := beq_iff_eq.mp same
      have absent : ix.bySequence[request.sequence]? ≠ some entry := fun found =>
        (others _ ((h.bySequence _ _).mp found)).1 rfl
      rw [or_iff_right absent, Option.some.injEq]
      constructor
      · rintro rfl
        rfl
      · intro same
        rw [← congrArg OutstandingRequest.handler same, ← congrArg OutstandingRequest.key same]
    case isFalse differ =>
      refine (or_iff_left fun same => differ ?_).symm
      exact beq_iff_eq.mpr (congrArg OutstandingRequest.sequence same).symm
  · rw [Std.HashMap.getElem?_insert]
    simp only [List.mem_append, List.mem_singleton, exists_or]
    rw [← h.byKey]
    split
    case isTrue same =>
      obtain rfl := beq_iff_eq.mp same
      have absent : ix.byKey[request.key]? ≠ some sequence := fun found =>
        Exists.elim ((h.byKey _ _).mp found) fun _ mem => (others _ mem).2 rfl
      rw [or_iff_right absent, Option.some.injEq]
      constructor
      · rintro rfl
        exact ⟨request.handler, rfl⟩
      · rintro ⟨handler, same⟩
        exact (congrArg OutstandingRequest.sequence same).symm
    case isFalse differ =>
      refine (or_iff_left fun ⟨handler, same⟩ => differ ?_).symm
      exact beq_iff_eq.mpr (congrArg OutstandingRequest.key same).symm

/-- The two indexes without one request. -/
def without (ix : Indexes η) (request : OutstandingRequest η) : Indexes η where
  bySequence := ix.bySequence.erase request.sequence
  byKey := ix.byKey.erase request.key

/-- Without one of the requests, the indexes hold **the others**. -/
theorem Holds.without (h : ix.Holds (before ++ request :: after)) :
    (ix.without request).Holds (before ++ after) := by
  refine ⟨h.apart.sublist ?_, fun sequence entry => ?_, fun key sequence => ?_⟩
  · exact (List.sublist_cons_self request after).append_left before
  · rw [mem_beside_iff (h.apart.imp And.left), ← h.bySequence, Indexes.without,
      Std.HashMap.getElem?_erase]
    split
    case isTrue same => simp [beq_iff_eq.mp same]
    case isFalse differ => exact (and_iff_left fun same => differ (beq_iff_eq.mpr same.symm)).symm
  · simp only [mem_beside_iff (h.apart.imp And.right), exists_and_right]
    rw [← h.byKey, Indexes.without, Std.HashMap.getElem?_erase]
    split
    case isTrue same => simp [beq_iff_eq.mp same]
    case isFalse differ => exact (and_iff_left fun same => differ (beq_iff_eq.mpr same.symm)).symm

theorem Holds.removeBySequence_eq (h : ix.Holds requests) (mem : request ∈ requests) :
    ix.removeBySequence request.sequence =
      (some (request.handler, request.key), ix.without request) := by
  have found : ix.bySequence[request.sequence]? = some ⟨request.handler, request.key⟩ :=
    (h.bySequence _ _).mpr mem
  rw [removeBySequence, found]
  rfl

theorem Holds.removeByKey_eq (h : ix.Holds requests) (mem : request ∈ requests) :
    ix.removeByKey request.key =
      (some (request.handler, request.sequence), ix.without request) := by
  have found : ix.byKey[request.key]? = some request.sequence :=
    (h.byKey _ _).mpr ⟨request.handler, mem⟩
  have entry : ix.bySequence[request.sequence]? = some ⟨request.handler, request.key⟩ :=
    (h.bySequence _ _).mpr mem
  rw [removeByKey, found]
  simp only
  rw [entry]
  rfl

theorem Holds.removeBySequence_of_absent (h : ix.Holds requests) {sequence : Int64}
    (absent : ∀ held ∈ requests, held.sequence ≠ sequence) :
    ix.removeBySequence sequence = (none, ix) := by
  have none : ix.bySequence[sequence]? = none :=
    Option.eq_none_iff_forall_ne_some.mpr fun entry found =>
      absent _ ((h.bySequence _ _).mp found) rfl
  rw [removeBySequence, none]

theorem Holds.removeByKey_of_absent (h : ix.Holds requests) {key : RequestKey}
    (absent : ∀ held ∈ requests, held.key ≠ key) : ix.removeByKey key = (none, ix) := by
  have none : ix.byKey[key]? = none :=
    Option.eq_none_iff_forall_ne_some.mpr fun sequence found =>
      Exists.elim ((h.byKey _ _).mp found) fun _ mem => absent _ mem rfl
  rw [removeByKey, none]

/-! ## One step, and all of them -/

/-- Whatever is asked, indexes and list **answer the same**, and the indexes hold what the list has
afterwards. -/
theorem Holds.perform {out : Outstanding η} (h : ix.Holds out.entries) (operation : Operation η) :
    Answer.Same (ix.perform operation).1 (out.perform operation).1 ∧
      (ix.perform operation).2.Holds (out.perform operation).2.entries := by
  cases operation with
  | insert request =>
    have names : (out.hasSequence request.sequence || out.hasKey request.key) = true ↔
        request.Taken out.entries := by
      simp [Outstanding.hasSequence, Outstanding.hasKey, OutstandingRequest.Taken,
        ← exists_or, ← and_or_left]
    rw [Indexes.perform, Outstanding.perform, Outstanding.insert]
    by_cases taken : request.Taken out.entries
    · rw [if_pos (names.mpr taken), h.insert_of_taken taken]
      exact ⟨.refl _, h⟩
    · rw [if_neg fun some => taken (names.mp some)]
      obtain ⟨done, holds⟩ := h.insert_of_free taken
      refine ⟨?_, holds⟩
      rw [Prod.map_fst, done]
      exact .refl _
  | removeBySequence sequence =>
    rw [Indexes.perform, Outstanding.perform]
    cases removed : out.removeBySequence sequence with
    | none =>
      rw [h.removeBySequence_of_absent (Outstanding.removeBySequence_eq_none_iff.mp removed)]
      exact ⟨.refl _, h⟩
    | some taken =>
      obtain ⟨request, left⟩ := taken
      obtain ⟨before, after, entries_eq, rfl, rfl⟩ := Outstanding.exists_split removed
      rw [entries_eq] at h
      rw [h.removeBySequence_eq (List.mem_append_right _ (List.mem_cons_self ..))]
      exact ⟨.refl _, h.without⟩
  | removeByKey key =>
    rw [Indexes.perform, Outstanding.perform, Outstanding.removeByKey]
    cases found : out.entries.find? (·.key = key) with
    | none =>
      rw [h.removeByKey_of_absent fun held mem same =>
        List.find?_eq_none.mp found held mem (decide_eq_true same)]
      exact ⟨.refl _, h⟩
    | some request =>
      obtain ⟨before, after, entries_eq, erased, -, same⟩ := exists_split_of_find? found
      obtain rfl := of_decide_eq_true same
      simp only
      rw [erased]
      rw [entries_eq] at h
      rw [h.removeByKey_eq (List.mem_append_right _ (List.mem_cons_self ..))]
      exact ⟨.refl _, h.without⟩
  | drain => exact ⟨.drained h.drain_perm, holds_empty⟩

/-- The indexes keep up with the list **through any operations**. -/
theorem Holds.performAll (operations : List (Operation η)) {ix : Indexes η} {out : Outstanding η}
    (h : ix.Holds out.entries) :
    List.Forall₂ Answer.Same (ix.performAll operations).1 (out.performAll operations).1 ∧
      (ix.performAll operations).2.Holds (out.performAll operations).2.entries := by
  induction operations generalizing ix out with
  | nil => exact ⟨.nil, h⟩
  | cons operation operations ih =>
    obtain ⟨same, holds⟩ := h.perform operation
    exact ⟨.cons same (ih holds).1, (ih holds).2⟩

/-! ## One set of requests -/

/-- The two indexes **act as one set of requests**. -/
structure ActsAs (ix : Indexes η) (requests : List (OutstandingRequest η)) : Prop where
  /-- Each index is the other one, read backwards. -/
  bijective (key : RequestKey) (sequence : Int64) : ix.byKey[key]? = some sequence ↔
    ∃ entry, ix.bySequence[sequence]? = some entry ∧ entry.key = key
  /-- A request is in the set if the first index holds its handler and its key. -/
  mem_iff (request : OutstandingRequest η) : request ∈ requests ↔
    ix.bySequence[request.sequence]? = some ⟨request.handler, request.key⟩
  sequences_nodup : (requests.map OutstandingRequest.sequence).Nodup
  keys_nodup : (requests.map OutstandingRequest.key).Nodup
  /-- A request is refused exactly if one of its names is taken. -/
  insert_refused_iff (request : OutstandingRequest η) :
    (∃ handler, (ix.insert request).1 = .error handler) ↔ request.Taken requests
  /-- A refusal changes nothing, and hands back the very handler. -/
  insert_of_taken (request : OutstandingRequest η) (taken : request.Taken requests) :
    ix.insert request = (.error request.handler, ix)
  insert_of_free (request : OutstandingRequest η) (free : ¬request.Taken requests) :
    (ix.insert request).1 = .ok () ∧ (ix.insert request).2.Holds (requests ++ [request])
  /-- Either name takes out the same request, and leaves the same indexes with all the others. -/
  remove (request : OutstandingRequest η) (mem : request ∈ requests) :
    ∃ before after left, requests = before ++ request :: after ∧
      ix.removeBySequence request.sequence = (some (request.handler, request.key), left) ∧
      ix.removeByKey request.key = (some (request.handler, request.sequence), left) ∧
      left.Holds (before ++ after)
  removeBySequence_of_absent (sequence : Int64)
    (absent : ∀ held ∈ requests, held.sequence ≠ sequence) :
    ix.removeBySequence sequence = (none, ix)
  removeByKey_of_absent (key : RequestKey) (absent : ∀ held ∈ requests, held.key ≠ key) :
    ix.removeByKey key = (none, ix)
  /-- A drain gives out each handler once, and nothing is left under either index. -/
  drain : ix.drain.1.Perm (requests.map OutstandingRequest.handler) ∧
    ix.drain.2.bySequence.isEmpty = true ∧ ix.drain.2.byKey.isEmpty = true
  containsSequence_iff (sequence : Int64) :
    ix.containsSequence sequence = true ↔ ∃ held ∈ requests, held.sequence = sequence
  containsKey_iff (key : RequestKey) :
    ix.containsKey key = true ↔ ∃ held ∈ requests, held.key = key
  sequenceOf_iff (key : RequestKey) (sequence : Int64) : ix.sequenceOf key = some sequence ↔
    ∃ held ∈ requests, held.key = key ∧ held.sequence = sequence
  size_eq : ix.size = requests.length

theorem Holds.actsAs (h : ix.Holds requests) : ix.ActsAs requests where
  bijective key sequence := by
    rw [h.byKey]
    constructor
    · rintro ⟨handler, mem⟩
      exact ⟨⟨handler, key⟩, (h.bySequence _ _).mpr mem, rfl⟩
    · rintro ⟨entry, found, rfl⟩
      exact ⟨entry.handler, (h.bySequence _ _).mp found⟩
  mem_iff request := (h.bySequence request.sequence ⟨request.handler, request.key⟩).symm
  sequences_nodup := List.pairwise_map.mpr (h.apart.imp And.left)
  keys_nodup := List.pairwise_map.mpr (h.apart.imp And.right)
  insert_refused_iff request := by
    constructor
    · rintro ⟨handler, refused⟩
      by_contra free
      rw [(h.insert_of_free free).1] at refused
      cases refused
    · intro taken
      exact ⟨request.handler, by rw [h.insert_of_taken taken]⟩
  insert_of_taken _ := h.insert_of_taken
  insert_of_free _ := h.insert_of_free
  remove request mem := by
    obtain ⟨before, after, rfl⟩ := List.append_of_mem mem
    exact ⟨before, after, ix.without request, rfl, h.removeBySequence_eq mem,
      h.removeByKey_eq mem, h.without⟩
  removeBySequence_of_absent _ := h.removeBySequence_of_absent
  removeByKey_of_absent _ := h.removeByKey_of_absent
  drain := ⟨h.drain_perm, Std.HashMap.isEmpty_empty, Std.HashMap.isEmpty_empty⟩
  containsSequence_iff := h.containsSequence_iff
  containsKey_iff := h.containsKey_iff
  sequenceOf_iff := h.sequenceOf_iff
  size_eq := h.size_eq

end Indexes

/-- Whatever is asked of two indexes that were empty at first, they **act as one set of requests**:
that which the list of requests holds after the same operations, and they have answered each of
these as the list did. -/
theorem indexes_act_as_one_set (operations : List (Operation η)) :
    (Indexes.performAll {} operations).2.ActsAs
        (Outstanding.empty.performAll operations).2.entries ∧
      List.Forall₂ Answer.Same (Indexes.performAll {} operations).1
        (Outstanding.empty.performAll operations).1 := by
  have nothing : ({} : Indexes η).Holds Outstanding.empty.entries := Indexes.holds_empty
  obtain ⟨answers, holds⟩ := nothing.performAll operations
  exact ⟨holds.actsAs, answers⟩

end DriveLink
