import DriveLink.Proofs.Frame.Reading

/-! # Streams parsed at once

What a reader should make of a stream can be said without any reader: frame after frame, from the
first byte of the stream, until one is not whole or does not begin as a frame.

* `Frame.parseOne` — the frame at the front of a stream;
* `Frame.parse` — all frames of a stream, and the bytes of the one that is not whole;
* `Frame.parse_append` — a stream may be parsed in two parts, with what the first leaves over put in
  front of the second;
* `Frame.whole_encode_of_checkLengths` — the bytes of a frame that was written are a whole frame. -/

namespace DriveLink

/-- How many **bytes a frame has taken**, by what reading it came to. -/
def ReadOutcome.size : ReadOutcome → Nat
  | frame content => Frame.headerSize + content.command.length + content.value.length
  | tooLarge _ commandLength valueLength =>
    Frame.headerSize + commandLength.toNat + valueLength.toNat
  | pending | failed _ => 0

namespace Frame

/-- The number in the first four bytes, the highest first. -/
def lengthIn (bytes : Bytes) : UInt32 := UInt32.ofNat (Bytes.toNatBE (bytes.take 4))

/-- **The frame at the front** of a stream: what reading it comes to, and the bytes behind it. The
answer is `none` if the stream ends before the frame does. -/
def parseOne (max : Nat) (stream : Bytes) : Option (ReadOutcome × Bytes) :=
  match stream with
  | [] => none
  | found :: bytes =>
    if found ≠ magic then some (.failed (.badMagic found), bytes)
    else
      let commandLength := lengthIn bytes
      let valueLength := lengthIn (bytes.drop 4)
      let size := commandLength.toNat + valueLength.toNat
      let body := bytes.drop 8
      if bytes.length < 8 + size then none
      else some (verdict max commandLength valueLength (body.take size), body.drop size)

/-- The bytes behind a frame are fewer than those from its front on. -/
theorem length_lt_of_parseOne {max : Nat} {stream rest : Bytes} {outcome : ReadOutcome}
    (h : parseOne max stream = some (outcome, rest)) : rest.length < stream.length := by
  unfold parseOne at h
  split at h
  · cases h
  · simp only at h
    split at h
    · cases h
      exact Nat.lt_succ_self _
    · split at h
      · cases h
      · cases h
        simp only [List.length_drop, List.length_cons]
        omega

/-- **All frames of a stream**, up to a byte that should begin a frame and does not, and the bytes
that are left over. -/
def parse (max : Nat) (stream : Bytes) : List ReadOutcome × Bytes :=
  match _front : parseOne max stream with
  | none => ([], stream)
  | some (outcome, rest) =>
    if outcome.endsFrame then (parse max rest).map (outcome :: ·) id else ([outcome], rest)
termination_by stream.length
decreasing_by exact length_lt_of_parseOne _front

/-! ## Reading lemmas -/

theorem parse_of_none {max : Nat} {stream : Bytes} (h : parseOne max stream = none) :
    parse max stream = ([], stream) := by
  rw [parse]
  split
  · rfl
  · rename_i front
    rw [h] at front
    cases front

theorem parse_of_some {max : Nat} {stream rest : Bytes} {outcome : ReadOutcome}
    (h : parseOne max stream = some (outcome, rest)) :
    parse max stream =
      if outcome.endsFrame then (outcome :: (parse max rest).1, (parse max rest).2)
      else ([outcome], rest) := by
  rw [parse]
  split
  · rename_i front
    rw [h] at front
    cases front
  · rename_i front
    rw [h] at front
    cases front
    rfl

@[simp] theorem parse_nil (max : Nat) : parse max [] = ([], []) := parse_of_none rfl

/-- The four bytes of a length read back. -/
theorem lengthIn_ofNatBE (length : UInt32) (rest : Bytes) :
    lengthIn (Bytes.ofNatBE 4 length.toNat ++ rest) = length := by
  have lt : length.toNat < 256 ^ 4 := length.toNat_lt
  rw [lengthIn, List.take_left' (Bytes.length_ofNatBE 4 _), Bytes.toNatBE_ofNatBE,
    Nat.mod_eq_of_lt lt, UInt32.ofNat_toNat]

/-- **The front of a stream that begins with a header** is a frame if its body is there. -/
theorem parseOne_header (max : Nat) (commandLength valueLength : UInt32) (rest : Bytes) :
    parseOne max (header commandLength valueLength ++ rest) =
      let size := commandLength.toNat + valueLength.toNat
      if rest.length < size then none
      else some (verdict max commandLength valueLength (rest.take size), rest.drop size) := by
  have commandWidth := Bytes.length_ofNatBE 4 commandLength.toNat
  have valueWidth := Bytes.length_ofNatBE 4 valueLength.toNat
  have eight : (Bytes.ofNatBE 4 commandLength.toNat ++ Bytes.ofNatBE 4 valueLength.toNat).length =
      8 := by rw [List.length_append, commandWidth, valueWidth]
  rw [header, List.cons_append, parseOne]
  simp only [ne_eq, not_true_eq_false, if_false]
  rw [List.drop_left' eight, List.append_assoc, lengthIn_ofNatBE, List.drop_left' commandWidth,
    lengthIn_ofNatBE, ← List.append_assoc, List.length_append, eight]
  simp only [Nat.add_lt_add_iff_left]

/-- A **whole frame** at the front of a stream is the frame at its front. -/
theorem parseOne_whole {max : Nat} {bytes : Bytes} {outcome : ReadOutcome}
    (h : Whole max bytes outcome) (rest : Bytes) :
    parseOne max (bytes ++ rest) = some (outcome, rest) := by
  cases h with
  | intro commandLength valueLength body length_eq =>
    rw [List.append_assoc, parseOne_header]
    simp only
    rw [if_neg (by rw [List.length_append]; omega), ← length_eq, List.take_left, List.drop_left]

theorem Whole.endsFrame {max : Nat} {bytes : Bytes} {outcome : ReadOutcome}
    (h : Whole max bytes outcome) : outcome.endsFrame = true := by
  cases h
  exact endsFrame_verdict ..

/-- A whole frame is as long as its header and its announced body. -/
theorem Whole.length_eq {max : Nat} {bytes : Bytes} {outcome : ReadOutcome}
    (h : Whole max bytes outcome) : bytes.length = outcome.size := by
  cases h with
  | intro commandLength valueLength body length_eq =>
    rw [List.length_append, length_header]
    unfold verdict
    split
    · simp only [ReadOutcome.size, List.length_take, List.length_drop]
      omega
    · split <;> simp only [ReadOutcome.size] <;> omega

theorem parse_whole {max : Nat} {bytes : Bytes} {outcome : ReadOutcome}
    (h : Whole max bytes outcome) (rest : Bytes) :
    parse max (bytes ++ rest) = (outcome :: (parse max rest).1, (parse max rest).2) := by
  rw [parse_of_some (parseOne_whole h rest), if_pos h.endsFrame]

/-- A stream with a bad byte where a frame should begin has no frames from there on. -/
theorem parse_badMagic {found : UInt8} (bad : found ≠ magic) (max : Nat) (rest : Bytes) :
    parse max (found :: rest) = ([.failed (.badMagic found)], rest) := by
  have front : parseOne max (found :: rest) = some (.failed (.badMagic found), rest) := by
    rw [parseOne, if_pos bad]
  rw [parse_of_some front]
  rfl

/-- A reader that lacks bytes **stands in a frame that is not whole**. -/
theorem parseOne_stands {max : Nat} {state : ReaderState} {taken : Bytes}
    (h : state.Stands max taken) (short : 0 < state.missing) : parseOne max taken = none := by
  -- either the header is cut, or the body is
  have few {bytes : Bytes} (lt : bytes.length < 8) : parseOne max (magic :: bytes) = none := by
    rw [parseOne]
    simp only [ne_eq, not_true_eq_false, if_false]
    rw [if_pos (by omega)]
  have cut {commandLength valueLength : UInt32} {body : Bytes}
      (lt : body.length < commandLength.toNat + valueLength.toNat) :
      parseOne max (header commandLength valueLength ++ body) = none := by
    rw [parseOne_header]
    exact if_pos lt
  cases h with
  | idle => rfl
  | @commandLength buffer size_eq =>
    have := buffer.length_bytes_add_missing
    exact few (by omega)
  | @valueLength commandLength buffer size_eq =>
    have := buffer.length_bytes_add_missing
    refine few ?_
    rw [List.length_append, Bytes.length_ofNatBE]
    simp only [ReaderState.missing] at short
    omega
  | @command buffer commandLength valueLength skipValue size_eq fits skip_iff =>
    have := buffer.length_bytes_add_missing
    simp only [ReaderState.missing] at short
    exact cut (by omega)
  | @value command buffer commandLength valueLength length_eq size_eq fits =>
    have := buffer.length_bytes_add_missing
    simp only [ReaderState.missing] at short
    refine cut ?_
    rw [List.length_append]
    omega
  | @skip remaining command commandLength valueLength body length_eq large kept =>
    simp only [ReaderState.missing] at short
    exact cut (by omega)

/-- **The frame at the front of a stream is whole**, and the rest is what stands behind it. -/
theorem whole_of_parseOne {max : Nat} {stream rest : Bytes} {outcome : ReadOutcome}
    (h : parseOne max stream = some (outcome, rest)) (ends : outcome.endsFrame = true) :
    ∃ bytes, stream = bytes ++ rest ∧ Whole max bytes outcome := by
  unfold parseOne at h
  split at h
  · cases h
  · rename_i found bytes
    simp only at h
    split at h
    · -- a bad byte does not end a frame
      cases h
      cases ends
    · rename_i good
      split at h
      · cases h
      · rename_i enough
        cases h
        -- nine bytes are there, and they are the header of the lengths that they announce
        set commandLength := lengthIn bytes with commandLength_eq
        set valueLength := lengthIn (bytes.drop 4) with valueLength_eq
        have command_eq : Bytes.ofNatBE 4 commandLength.toNat = bytes.take 4 :=
          Bytes.ofNatBE_ofNat_toNatBE (by rw [List.length_take]; omega)
        have value_eq : Bytes.ofNatBE 4 valueLength.toNat = (bytes.drop 4).take 4 :=
          Bytes.ofNatBE_ofNat_toNatBE (by rw [List.length_take, List.length_drop]; omega)
        have header_eq : found :: bytes = header commandLength valueLength ++ bytes.drop 8 := by
          have eight : (bytes.drop 4).drop 4 = bytes.drop 8 := List.drop_drop
          rw [header, command_eq, value_eq, List.cons_append, List.append_assoc, ← eight,
            List.take_append_drop, List.take_append_drop, not_ne_iff.mp good]
        refine ⟨_, ?_, .intro commandLength valueLength _ ?_⟩
        · rw [List.append_assoc, List.take_append_drop]
          exact header_eq
        · rw [List.length_take, List.length_drop]
          omega

/-! ## Parsing in parts -/

/-- **A stream may be parsed in two parts**, with what the first leaves over put in front of the
second. -/
theorem parse_append {max : Nat} {past part : Bytes} {outcomes : List ReadOutcome}
    (h : parse max past = (outcomes, part)) (ends : ∀ o ∈ outcomes, o.endsFrame = true)
    (more : Bytes) :
    parse max (past ++ more) =
      (outcomes ++ (parse max (part ++ more)).1, (parse max (part ++ more)).2) := by
  fun_induction parse max past generalizing outcomes with
  | case1 past front =>
    cases h
    rfl
  | case2 past outcome rest front whole ih =>
    cases h
    -- the first frame is whole also with more bytes behind the stream
    obtain ⟨bytes, rfl, frame⟩ := whole_of_parseOne front whole
    rw [List.append_assoc, parse_whole frame,
      ih rfl fun o mem => ends o (List.mem_cons_of_mem _ mem)]
    rfl
  | case3 past outcome rest front notWhole =>
    cases h
    exact absurd (ends outcome (List.mem_singleton_self _)) notWhole

/-- The bytes of a stream are those of its **frames and what is left over**. -/
theorem length_eq_of_parse {max : Nat} {stream part : Bytes} {outcomes : List ReadOutcome}
    (h : parse max stream = (outcomes, part)) (ends : ∀ o ∈ outcomes, o.endsFrame = true) :
    stream.length = (outcomes.map ReadOutcome.size).sum + part.length := by
  fun_induction parse max stream generalizing outcomes with
  | case1 stream front =>
    cases h
    exact (Nat.zero_add _).symm
  | case2 stream outcome rest front whole ih =>
    cases h
    obtain ⟨bytes, rfl, frame⟩ := whole_of_parseOne front whole
    have := ih rfl fun o mem => ends o (List.mem_cons_of_mem _ mem)
    rw [List.length_append, frame.length_eq, List.map_cons, List.sum_cons]
    omega
  | case3 stream outcome rest front notWhole =>
    cases h
    exact absurd (ends outcome (List.mem_singleton_self _)) notWhole

/-! ## Frames that were written -/

/-- **Both lengths fit** into a frame just if neither part is longer than a frame can announce. -/
theorem checkLengths_eq_ok_iff {commandLength valueLength : Nat} :
    checkLengths commandLength valueLength = .ok () ↔
      commandLength ≤ maxPartSize ∧ valueLength ≤ maxPartSize := by
  unfold checkLengths
  split
  · simp; omega
  · split <;> simp <;> omega

/-- A length that a frame can announce **is the one that it does**. -/
theorem toNat_ofNat_of_le {length : Nat} (le : length ≤ maxPartSize) :
    (UInt32.ofNat length).toNat = length :=
  UInt32.toNat_ofNat_of_lt' (Nat.lt_succ_of_le le)

/-- The bytes of a frame whose lengths fit are a **whole frame**, and what they come to is up to how
large the body is. -/
theorem whole_encode_of_checkLengths {frame : Frame}
    (fits : checkLengths frame.command.length frame.value.length = .ok ()) (max : Nat) :
    Whole max frame.encode (verdict max (.ofNat frame.command.length) (.ofNat frame.value.length)
      (frame.command ++ frame.value)) := by
  obtain ⟨command_le, value_le⟩ := checkLengths_eq_ok_iff.mp fits
  have command_eq := toNat_ofNat_of_le command_le
  have value_eq := toNat_ofNat_of_le value_le
  have length_eq : (frame.command ++ frame.value).length =
      (UInt32.ofNat frame.command.length).toNat + (UInt32.ofNat frame.value.length).toNat := by
    rw [List.length_append, command_eq, value_eq]
  have encode_eq : frame.encode =
      header (.ofNat frame.command.length) (.ofNat frame.value.length) ++
        (frame.command ++ frame.value) := by
    rw [header, command_eq, value_eq, encode]
    simp only [List.cons_append, List.append_assoc]
  rw [encode_eq]
  exact .intro _ _ (frame.command ++ frame.value) length_eq

end Frame

end DriveLink
