import DriveLink.Frame.Reader
import DriveLink.Proofs.Bytes

/-! # What reading takes off a channel

A channel may cut what it yields into any pieces, and now and then yield nothing. What filling a
part of a frame comes to, or stepping over one, depends on the bytes alone.

* `Channel.Yields` — the bytes that a channel yields between two of its states;
* `Channel.Vain`, `Channel.Broke` — a read that asks for bytes and gets none, or fails;
* `Buffer.Fills`, `Buffer.fills_fill` — what filling a part comes to;
* `Skips`, `skips_skipBytes` — what stepping over bytes comes to. -/

namespace DriveLink

variable {σ : Type} [Channel σ]

/-! ## Bytes that a channel yields -/

/-- **The bytes that a channel yields** in some reads between two of its states. -/
inductive Channel.Yields : σ → Bytes → σ → Prop
  | nothing (s : σ) : Yields s [] s
  | progress {s s₁ s₂ : σ} {limit : Nat} {chunk : Chunk limit} {bytes : Bytes}
      (read : Channel.read s limit = (.progress chunk, s₁)) (later : Yields s₁ bytes s₂) :
      Yields s (chunk.bytes ++ bytes) s₂
  | wouldBlock {s s₁ s₂ : σ} {limit : Nat} {bytes : Bytes}
      (read : Channel.read s limit = (.wouldBlock, s₁)) (later : Yields s₁ bytes s₂) :
      Yields s bytes s₂
  | failed {s s₁ s₂ : σ} {limit : Nat} {error : IoError} {bytes : Bytes}
      (read : Channel.read s limit = (.failed error, s₁)) (later : Yields s₁ bytes s₂) :
      Yields s bytes s₂

/-- **Asking in vain**: a read that wants bytes and gets none, though the channel has not failed. -/
inductive Channel.Vain : σ → σ → Prop
  | wouldBlock {s s' : σ} {limit : Nat} (wants : 0 < limit)
      (read : Channel.read s limit = (.wouldBlock, s')) : Vain s s'
  | nothing {s s' : σ} {limit : Nat} {chunk : Chunk limit} (wants : 0 < limit)
      (read : Channel.read s limit = (.progress chunk, s')) (none : chunk.bytes = []) : Vain s s'

/-- A read that wants bytes **fails**. -/
def Channel.Broke (error : IoError) (s s' : σ) : Prop :=
  ∃ limit, 0 < limit ∧ Channel.read s limit = (.failed error, s')

namespace Channel

/-- Reads one after the other yield their bytes one after the other. -/
theorem Yields.trans {s s₁ s₂ : σ} {bytes later : Bytes} (h : Yields s bytes s₁)
    (h₁ : Yields s₁ later s₂) : Yields s (bytes ++ later) s₂ := by
  induction h with
  | nothing => exact h₁
  | progress read _ ih =>
    rw [List.append_assoc]
    exact .progress read (ih h₁)
  | wouldBlock read _ ih => exact .wouldBlock read (ih h₁)
  | failed read _ ih => exact .failed read (ih h₁)

/-- One read that makes progress yields its bytes. -/
theorem Yields.of_progress {s s' : σ} {limit : Nat} {chunk : Chunk limit}
    (read : Channel.read s limit = (.progress chunk, s')) : Yields s chunk.bytes s' := by
  have h := Yields.progress read (.nothing s')
  rwa [List.append_nil] at h

/-- Asking in vain yields nothing. -/
theorem Vain.yields {s s' : σ} (h : Vain s s') : Yields s [] s' := by
  cases h with
  | wouldBlock _ read => exact .wouldBlock read (.nothing s')
  | nothing _ read none =>
    have h := Yields.of_progress read
    rwa [none] at h

/-- A read that fails yields nothing. -/
theorem Broke.yields {error : IoError} {s s' : σ} (h : Broke error s s') : Yields s [] s' := by
  obtain ⟨limit, -, read⟩ := h
  exact .failed read (.nothing s')

end Channel

open Channel (Yields Vain Broke)

/-! ## Filling a part and stepping over one -/

namespace Buffer

@[simp] theorem bytes_ofSize (size : Nat) : (ofSize size).bytes = [] := rfl

@[simp] theorem size_ofSize (size : Nat) : (ofSize size).size = size := rfl

@[simp] theorem bytes_append (buffer : Buffer) (chunk : Chunk buffer.missing) :
    (buffer.append chunk).bytes = buffer.bytes ++ chunk.bytes := by
  simp [append, bytes, Array.toList_appendList]

/-- What has come of a part and what is missing make up the part. -/
theorem length_bytes_add_missing (buffer : Buffer) :
    buffer.bytes.length + buffer.missing = buffer.size := by
  have := buffer.fits
  simp only [bytes, missing, Array.length_toList]
  omega

/-- **What filling a part comes to.** The bytes that the channel yields are put behind those that
have come. The part is complete, or the channel was asked for more in vain, or it failed. -/
inductive Fills (buffer : Buffer) (s : σ) : Progress → Buffer → σ → Prop
  | complete {buffer' : Buffer} {s' : σ} {bytes : Bytes} (yields : Yields s bytes s')
      (bytes_eq : buffer'.bytes = buffer.bytes ++ bytes) (size_eq : buffer'.size = buffer.size)
      (whole : buffer'.missing = 0) : Fills buffer s .complete buffer' s'
  | pending {buffer' : Buffer} {s₁ s' : σ} {bytes : Bytes} (yields : Yields s bytes s₁)
      (vain : Vain s₁ s') (bytes_eq : buffer'.bytes = buffer.bytes ++ bytes)
      (size_eq : buffer'.size = buffer.size) (short : 0 < buffer'.missing) :
      Fills buffer s .pending buffer' s'
  | failed {buffer' : Buffer} {s₁ s' : σ} {bytes : Bytes} {error : IoError}
      (yields : Yields s bytes s₁) (broke : Broke error s₁ s')
      (bytes_eq : buffer'.bytes = buffer.bytes ++ bytes) (size_eq : buffer'.size = buffer.size)
      (short : 0 < buffer'.missing) : Fills buffer s (.failed error) buffer' s'

/-- A part that is filled further after some bytes is filled with those bytes in front. -/
theorem Fills.append {buffer : Buffer} {s s₁ : σ} {chunk : Chunk buffer.missing}
    (read : Channel.read s buffer.missing = (.progress chunk, s₁)) {progress : Progress}
    {buffer' : Buffer} {s' : σ} (h : Fills (buffer.append chunk) s₁ progress buffer' s') :
    Fills buffer s progress buffer' s' := by
  cases h with
  | complete yields bytes_eq size_eq whole =>
    rw [bytes_append, List.append_assoc] at bytes_eq
    exact .complete (.progress read yields) bytes_eq size_eq whole
  | pending yields vain bytes_eq size_eq short =>
    rw [bytes_append, List.append_assoc] at bytes_eq
    exact .pending (.progress read yields) vain bytes_eq size_eq short
  | failed yields broke bytes_eq size_eq short =>
    rw [bytes_append, List.append_assoc] at bytes_eq
    exact .failed (.progress read yields) broke bytes_eq size_eq short

theorem fills_fill (buffer : Buffer) (s : σ) :
    Fills buffer s (buffer.fill s).1 (buffer.fill s).2.1 (buffer.fill s).2.2 := by
  fun_induction fill buffer s with
  | case1 buffer s whole =>
    exact .complete (.nothing s) (List.append_nil _).symm rfl whole
  | case2 buffer s short chunk s' read some ih => exact ih.append read
  -- a read that brought nothing was in vain, since the part is not whole
  | case3 buffer s whole chunk s' read none =>
    have none : chunk.bytes = [] := List.eq_nil_of_length_eq_zero (by omega)
    have short : 0 < buffer.missing := Nat.pos_of_ne_zero whole
    exact .pending (.nothing s) (.nothing short read none) (List.append_nil _).symm rfl short
  | case4 buffer s whole s' read =>
    have short : 0 < buffer.missing := Nat.pos_of_ne_zero whole
    exact .pending (.nothing s) (.wouldBlock short read) (List.append_nil _).symm rfl short
  | case5 buffer s whole error s' read =>
    have short : 0 < buffer.missing := Nat.pos_of_ne_zero whole
    exact .failed (.nothing s) ⟨_, short, read⟩ (List.append_nil _).symm rfl short

/-- What filling a part comes to, by its result. -/
theorem fills_of_fill {buffer buffer' : Buffer} {s s' : σ} {progress : Progress}
    (h : buffer.fill s = (progress, buffer', s')) : Fills buffer s progress buffer' s' := by
  have fills := buffer.fills_fill s
  rwa [h] at fills

end Buffer

/-- **What stepping over bytes comes to.** What is left to step over is less by the bytes that the
channel yields. -/
inductive Skips (remaining : Nat) (s : σ) : Buffer.Progress → Nat → σ → Prop
  | complete {s' : σ} {bytes : Bytes} (yields : Yields s bytes s')
      (length_eq : bytes.length = remaining) {left : Nat} : Skips remaining s .complete left s'
  | pending {left : Nat} {s₁ s' : σ} {bytes : Bytes} (yields : Yields s bytes s₁)
      (vain : Vain s₁ s') (length_eq : bytes.length + left = remaining) (short : 0 < left) :
      Skips remaining s .pending left s'
  | failed {left : Nat} {s₁ s' : σ} {bytes : Bytes} {error : IoError} (yields : Yields s bytes s₁)
      (broke : Broke error s₁ s') (length_eq : bytes.length + left = remaining)
      (short : 0 < left) : Skips remaining s (.failed error) left s'

/-- Stepping over some bytes and then over the rest is stepping over them all. -/
theorem Skips.append {remaining limit : Nat} {s s₁ : σ} {chunk : Chunk limit}
    (read : Channel.read s limit = (.progress chunk, s₁)) (le : limit ≤ remaining)
    {progress : Buffer.Progress} {left : Nat} {s' : σ}
    (h : Skips (remaining - chunk.bytes.length) s₁ progress left s') :
    Skips remaining s progress left s' := by
  have := chunk.le
  cases h with
  | complete yields length_eq =>
    refine .complete (.progress read yields) ?_
    rw [List.length_append]
    omega
  | pending yields vain length_eq short =>
    refine .pending (.progress read yields) vain ?_ short
    rw [List.length_append]
    omega
  | failed yields broke length_eq short =>
    refine .failed (.progress read yields) broke ?_ short
    rw [List.length_append]
    omega

theorem skips_skipBytes (remaining : Nat) (s : σ) :
    Skips remaining s (skipBytes remaining s).1 (skipBytes remaining s).2.1
      (skipBytes remaining s).2.2 := by
  fun_induction skipBytes remaining s with
  | case1 s => exact .complete (.nothing s) rfl
  | case2 remaining s some chunk s' read moved ih => exact ih.append read (Nat.min_le_left ..)
  | case3 remaining s some chunk s' read none =>
    have none : chunk.bytes = [] := List.eq_nil_of_length_eq_zero (by omega)
    have some : 0 < remaining := Nat.pos_of_ne_zero some
    have wants : 0 < min remaining skipChunk := Nat.lt_min.mpr ⟨some, by decide⟩
    exact .pending (.nothing s) (.nothing wants read none) (Nat.zero_add _) some
  | case4 remaining s some s' read =>
    have some : 0 < remaining := Nat.pos_of_ne_zero some
    have wants : 0 < min remaining skipChunk := Nat.lt_min.mpr ⟨some, by decide⟩
    exact .pending (.nothing s) (.wouldBlock wants read) (Nat.zero_add _) some
  | case5 remaining s some error s' read =>
    have some : 0 < remaining := Nat.pos_of_ne_zero some
    have wants : 0 < min remaining skipChunk := Nat.lt_min.mpr ⟨some, by decide⟩
    exact .failed (.nothing s) ⟨_, wants, read⟩ (Nat.zero_add _) some

/-- What stepping over bytes comes to, by its result. -/
theorem skips_of_skipBytes {remaining left : Nat} {s s' : σ} {progress : Buffer.Progress}
    (h : skipBytes remaining s = (progress, left, s')) : Skips remaining s progress left s' := by
  have skips := skips_skipBytes remaining s
  rwa [h] at skips

end DriveLink
