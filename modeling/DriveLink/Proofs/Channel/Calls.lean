import DriveLink.Frame.Writer
import DriveLink.Proofs.Frame.Stream
import Mathlib.Logic.Relation

/-! # Calls that work and calls that fail

Whoever writes a frame calls a channel to write and to flush, and stops at the first call that
fails. Whoever reads one calls it to read, and stops likewise. So between two states of a channel
there are calls that work, and perhaps a last one that fails; and it fails just if the writer or the
reader says so.

* `Channel.Pushes`, `Channel.Refuses` — writes and flushes that work, and one that fails;
* `Channel.Pulls` — reads that work;
* `FrameWriter.pushed_write` — what writing does to a channel;
* `FrameReader.pulled_read` — what reading does to it. -/

namespace DriveLink

/-- A call **works** if it does not fail. That it would have to wait is no failure. -/
def Transfer.Works {α : Type} (transfer : Transfer α) : Prop := ∀ error, transfer ≠ .failed error

theorem Transfer.Works.progress {α : Type} (moved : α) : (progress moved).Works := by
  intro error same
  cases same

theorem Transfer.Works.wouldBlock {α : Type} : (wouldBlock : Transfer α).Works := by
  intro error same
  cases same

variable {σ : Type} [Channel σ]

namespace Channel

/-! ## Calls -/

/-- A write or a flush **that works**. -/
inductive Push : σ → σ → Prop
  | write {s s' : σ} {offered : Bytes} {transfer : Transfer (Taken offered.length)}
      (call : Channel.write s offered = (transfer, s')) (works : transfer.Works) : Push s s'
  | flush {s s' : σ} {transfer : Transfer Nat} (call : Channel.flush s = (transfer, s'))
      (works : transfer.Works) : Push s s'

/-- Some writes and flushes, **all of which work**. -/
def Pushes : σ → σ → Prop := Relation.ReflTransGen Push

/-- A write or a flush **that fails**. -/
inductive Refuses (error : IoError) : σ → σ → Prop
  | write {s s' : σ} {offered : Bytes} (call : Channel.write s offered = (.failed error, s')) :
      Refuses error s s'
  | flush {s s' : σ} (call : Channel.flush s = (.failed error, s')) : Refuses error s s'

/-- A read **that works**. -/
inductive Pull : σ → σ → Prop
  | read {s s' : σ} {limit : Nat} {transfer : Transfer (Chunk limit)}
      (call : Channel.read s limit = (transfer, s')) (works : transfer.Works) : Pull s s'

/-- Some reads, **all of which work**. -/
def Pulls : σ → σ → Prop := Relation.ReflTransGen Pull

/-- **Writing** up to a state of the channel, with the error of the last call if that failed. -/
inductive Pushed (s : σ) : Option IoError → σ → Prop
  | works {s' : σ} (pushes : Pushes s s') : Pushed s none s'
  | fails {error : IoError} {s₁ s' : σ} (pushes : Pushes s s₁) (refuses : Refuses error s₁ s') :
      Pushed s (some error) s'

/-- **Reading** up to a state of the channel, with the error of the last call if that failed. -/
inductive Pulled (s : σ) : Option IoError → σ → Prop
  | works {s' : σ} (pulls : Pulls s s') : Pulled s none s'
  | fails {error : IoError} {s₁ s' : σ} (pulls : Pulls s s₁) (broke : Broke error s₁ s') :
      Pulled s (some error) s'

/-- Writing goes on **after writes that work**. -/
theorem Pushed.after {s s₁ s' : σ} {error : Option IoError} (h : Pushes s s₁)
    (later : Pushed s₁ error s') : Pushed s error s' := by
  cases later with
  | works pushes => exact .works (h.trans pushes)
  | fails pushes refuses => exact .fails (h.trans pushes) refuses

/-- Reading goes on **after reads that work**. -/
theorem Pulled.after {s s₁ s' : σ} {error : Option IoError} (h : Pulls s s₁)
    (later : Pulled s₁ error s') : Pulled s error s' := by
  cases later with
  | works pulls => exact .works (h.trans pulls)
  | fails pulls broke => exact .fails (h.trans pulls) broke

/-- Reading that did not fail has made **only calls that work**. -/
theorem Pulled.pulls {s s' : σ} (h : Pulled s none s') : Pulls s s' := by
  cases h
  assumption

theorem Pushed.pushes {s s' : σ} (h : Pushed s none s') : Pushes s s' := by
  cases h
  assumption

end Channel

open Channel (Push Pushes Refuses Pushed Pull Pulls Broke Pulled)

/-! ## Writing a frame -/

/-- The error of the **call that failed**, if writing failed. -/
def WriteOutcome.error? : WriteOutcome → Option IoError
  | failed (.channel error) => some error
  | _ => none

namespace FrameWriter

theorem pushed_flush (s : σ) : Pushed s (flush s).1.error? (flush s).2 := by
  unfold flush
  split
  · rename_i call
    exact .works (.single (.flush call (.progress _)))
  · rename_i call
    exact .works (.single (.flush call .wouldBlock))
  · rename_i call
    exact .fails .refl (.flush call)

theorem pushed_writeBytes (left : Bytes) (s : σ) :
    Pushed s (writeBytes left s).1.error? (writeBytes left s).2.2 := by
  fun_induction writeBytes left s with
  | case1 s outcome s' flushed =>
    have pushed := pushed_flush s
    rwa [flushed] at pushed
  | case2 s b rest taken s' write some ih => exact ih.after (.single (.write write (.progress _)))
  | case3 s b rest taken s' write none => exact .works (.single (.write write (.progress _)))
  | case4 s b rest s' write => exact .works (.single (.write write .wouldBlock))
  | case5 s b rest error s' write => exact .fails .refl (.write write)

/-- **What writing does to a channel**: calls that work, and perhaps a last one that fails. -/
theorem pushed_write {writer after : FrameWriter} {s s' : σ} {outcome : WriteOutcome}
    (h : writer.write s = (outcome, after, s')) : Pushed s outcome.error? s' := by
  cases h
  exact pushed_writeBytes writer.left s

/-- Writing fails **only because a call fails**. -/
theorem exists_channel_of_failed {writer after : FrameWriter} {s s' : σ} {error : FrameError}
    (h : writer.write s = (.failed error, after, s')) : ∃ cause, error = .channel cause := by
  -- the recursion is over the bytes that are left, not over the writer
  have fails {left : Bytes} {s : σ} : (writeBytes left s).1 = .failed error →
      ∃ cause, error = .channel cause := by
    fun_induction writeBytes left s with
    | case1 s outcome s' flushed =>
      intro failed
      unfold flush at flushed
      split at flushed
      · cases flushed
        cases failed
      · cases flushed
        cases failed
      · cases flushed
        cases failed
        exact ⟨_, rfl⟩
    | case2 s b rest taken s' write some ih => exact ih
    | case3 => nofun
    | case4 => nofun
    | case5 s b rest cause s' write =>
      intro failed
      cases failed
      exact ⟨cause, rfl⟩
  exact fails (congrArg Prod.fst h)

end FrameWriter

/-! ## Reading a frame -/

/-- The error of the **call that failed**, if filling or stepping over a part failed. -/
def Buffer.Progress.error? : Buffer.Progress → Option IoError
  | failed error => some error
  | _ => none

/-- The error of the **call that failed**, if reading failed because of one. -/
def ReadOutcome.error? : ReadOutcome → Option IoError
  | failed (.channel error) => some error
  | _ => none

theorem Buffer.pulled_fill (buffer : Buffer) (s : σ) :
    Pulled s (buffer.fill s).1.error? (buffer.fill s).2.2 := by
  fun_induction fill buffer s with
  | case1 => exact .works .refl
  | case2 buffer s short chunk s' read some ih =>
    exact ih.after (.single (.read read (.progress _)))
  | case3 buffer s short chunk s' read none => exact .works (.single (.read read (.progress _)))
  | case4 buffer s short s' read => exact .works (.single (.read read .wouldBlock))
  | case5 buffer s short error s' read =>
    exact .fails .refl ⟨_, Nat.pos_of_ne_zero short, read⟩

theorem pulled_skipBytes (remaining : Nat) (s : σ) :
    Pulled s (skipBytes remaining s).1.error? (skipBytes remaining s).2.2 := by
  fun_induction skipBytes remaining s with
  | case1 => exact .works .refl
  | case2 remaining s some chunk s' read moved ih =>
    exact ih.after (.single (.read read (.progress _)))
  | case3 remaining s some chunk s' read none => exact .works (.single (.read read (.progress _)))
  | case4 remaining s some s' read => exact .works (.single (.read read .wouldBlock))
  | case5 remaining s some error s' read =>
    have some : 0 < remaining := Nat.pos_of_ne_zero some
    exact .fails .refl ⟨_, Nat.lt_min.mpr ⟨some, by decide⟩, read⟩

namespace FrameReader

variable {s s₁ : σ}

/-- **What a step of reading** has done to a channel since an earlier state. -/
def Pulls (s : σ) (step : ReadStep σ) : Prop := Pulled s step.outcome.error? step.channel

theorem Pulls.after {step : ReadStep σ} (h : Channel.Pulls s s₁) (later : Pulls s₁ step) :
    Pulls s step := Pulled.after h later

theorem pulls_suspend (h : Channel.Pulls s s₁) (state : ReaderState) :
    Pulls s (suspend state s₁) := .works h

/-- A part that is filled goes on with **what stands behind it**, and one that is not stops. -/
theorem pulls_fill {buffer : Buffer} {go : Buffer → σ → ReadStep σ} {stop : Buffer → ReaderState}
    (goes : ∀ buffer s, Pulls s (go buffer s)) (s : σ) :
    Pulls s (match buffer.fill s with
      | (.complete, buffer, s) => go buffer s
      | (.pending, buffer, s) => suspend (stop buffer) s
      | (.failed error, _, s) => fail error s) := by
  have fills := buffer.pulled_fill s
  split
  · rename_i call
    rw [call] at fills
    exact (goes _ _).after fills.pulls
  · rename_i call
    rw [call] at fills
    exact pulls_suspend fills.pulls _
  · rename_i call
    rw [call] at fills
    exact fills

theorem pulls_readSkipped (remaining : Nat) (command : Option Bytes)
    (commandLength valueLength : UInt32) (s : σ) :
    Pulls s (readSkipped remaining command commandLength valueLength s) := by
  have skips := pulled_skipBytes remaining s
  unfold readSkipped
  split
  · rename_i call
    rw [call] at skips
    exact .works skips.pulls
  · rename_i call
    rw [call] at skips
    exact pulls_suspend skips.pulls _
  · rename_i call
    rw [call] at skips
    exact skips

theorem pulls_readValue (command : Bytes) (buffer : Buffer) (s : σ) :
    Pulls s (readValue command buffer s) := by
  refine pulls_fill (fun buffer s => ?_) s
  exact Pulled.works .refl

theorem pulls_readCommand (buffer : Buffer) (valueLength : UInt32) (skipValue : Bool) (s : σ) :
    Pulls s (readCommand buffer valueLength skipValue s) := by
  refine pulls_fill (fun buffer s => ?_) s
  split
  · exact pulls_readSkipped ..
  · exact pulls_readValue ..

theorem pulls_readBody (max : Nat) (commandLength valueLength : UInt32) (s : σ) :
    Pulls s (readBody max commandLength valueLength s) := by
  unfold readBody
  simp only
  split
  · exact pulls_readCommand ..
  · split
    · exact pulls_readCommand ..
    · exact pulls_readSkipped ..

theorem pulls_readValueLength (max : Nat) (commandLength : UInt32) (buffer : Buffer) (s : σ) :
    Pulls s (readValueLength max commandLength buffer s) :=
  pulls_fill (fun _ _ => pulls_readBody ..) s

theorem pulls_readCommandLength (max : Nat) (buffer : Buffer) (s : σ) :
    Pulls s (readCommandLength max buffer s) := pulls_fill (fun _ _ => pulls_readValueLength ..) s

theorem pulls_readMagic (max : Nat) (s : σ) : Pulls s (readMagic max s) := by
  unfold readMagic
  split
  · rename_i call
    exact pulls_suspend (.single (.read call (.progress _))) _
  · rename_i call
    have one : Channel.Pulls s _ := .single (.read call (.progress _))
    split
    · exact (pulls_readCommandLength ..).after one
    · exact .works one
  · rename_i call
    exact pulls_suspend (.single (.read call .wouldBlock)) _
  · rename_i call
    exact .fails .refl ⟨1, Nat.one_pos, call⟩

/-- **What reading does to a channel**: calls that work, and perhaps a last one that fails. -/
theorem pulled_read (reader : FrameReader) (s : σ) :
    Pulled s (reader.read s).1.error? (reader.read s).2.2 := by
  show Pulls s (resume reader.maxFrameSize reader.state s)
  -- each part of a frame hands over to the next, so that every state is covered by those behind it
  cases reader.state with
  | idle => exact pulls_readMagic ..
  | commandLength buffer => exact pulls_readCommandLength ..
  | valueLength commandLength buffer => exact pulls_readValueLength ..
  | command buffer valueLength skipValue => exact pulls_readCommand ..
  | value command buffer => exact pulls_readValue ..
  | skip remaining command commandLength valueLength => exact pulls_readSkipped ..

end FrameReader

end DriveLink
