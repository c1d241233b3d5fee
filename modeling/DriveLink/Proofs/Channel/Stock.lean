import DriveLink.Proofs.Frame.Reading
import DriveLink.Proofs.Frame.Writing
import DriveLink.Proofs.Pipeline.Move
import DriveLink.Simulation.Drive

/-! # Bytes in stock

Bytes that have come in and have not been read lie in stock: whoever reads gets the first of them at
once, at least one and perhaps not all that were asked for. Writing takes nothing from the stock,
but an answer may be put behind it.

* `Stocked` — a channel with a stock;
* `Channel.Yields.stock` — what reads take off it;
* `FrameWriter.stock_writeBytes`, `Outbox.stock_send` — writing only adds to it;
* `Simulation.Drive.stock` — the stock of a simulated drive. -/

namespace DriveLink

/-- A channel **with a stock** of bytes that have come in. -/
class Stocked (σ : Type) [Channel σ] where
  /-- What has come in and has not been read. -/
  stock : σ → Bytes
  /-- A read takes the first bytes, as long as there are any, and some if it wants some. -/
  read_stock (s : σ) (limit : Nat) (some : stock s ≠ []) :
    ∃ (chunk : Chunk limit) (s' : σ), Channel.read s limit = (.progress chunk, s') ∧
      chunk.bytes ++ stock s' = stock s ∧ (0 < limit → chunk.bytes ≠ [])
  stock_write (s : σ) (offered : Bytes) : stock s <+: stock (Channel.write s offered).2
  stock_flush (s : σ) : stock s <+: stock (Channel.flush s).2

open Stocked (stock)

section Use

variable {σ η : Type} [Channel σ] [Stocked σ]

/-! ## Reading -/

/-- **Reads take bytes off the stock**, from its front, until it is used up. -/
theorem Channel.Yields.stock {s s' : σ} {bytes : Bytes} (h : Channel.Yields s bytes s') :
    stock s = bytes ++ Stocked.stock s' ∨ stock s <+: bytes := by
  induction h with
  | nothing s => exact .inl rfl
  | @progress s s₁ s₂ limit chunk bytes read later ih =>
    by_cases empty : Stocked.stock s = []
    · exact .inr (empty ▸ List.nil_prefix)
    obtain ⟨chunk', s', read', front, -⟩ := Stocked.read_stock s limit empty
    rw [read] at read'
    cases read'
    rw [← front]
    rcases ih with whole | short
    · rw [whole, List.append_assoc]
      exact .inl rfl
    · exact .inr (List.prefix_append_right_inj _ |>.mpr short)
  | @wouldBlock s s₁ s₂ limit bytes read later ih =>
    by_cases empty : Stocked.stock s = []
    · exact .inr (empty ▸ List.nil_prefix)
    obtain ⟨chunk', s', read', -⟩ := Stocked.read_stock s limit empty
    rw [read] at read'
    cases read'
  | @failed s s₁ s₂ limit error bytes read later ih =>
    by_cases empty : Stocked.stock s = []
    · exact .inr (empty ▸ List.nil_prefix)
    obtain ⟨chunk', s', read', -⟩ := Stocked.read_stock s limit empty
    rw [read] at read'
    cases read'

/-- Nobody asks in vain **while there is stock**. -/
theorem Channel.Vain.stock_eq_nil {s s' : σ} (h : Channel.Vain s s') : stock s = [] := by
  by_contra some
  cases h with
  | wouldBlock wants read =>
    obtain ⟨chunk, s₁, read', -⟩ := Stocked.read_stock s _ some
    rw [read] at read'
    cases read'
  | nothing wants read none =>
    obtain ⟨chunk, s₁, read', -, more⟩ := Stocked.read_stock s _ some
    rw [read] at read'
    cases read'
    exact more wants none

/-- No read fails while there is stock. -/
theorem Channel.Broke.stock_eq_nil {error : IoError} {s s' : σ} (h : Channel.Broke error s s') :
    stock s = [] := by
  by_contra some
  obtain ⟨limit, -, read⟩ := h
  obtain ⟨chunk, s₁, read', -⟩ := Stocked.read_stock s limit some
  rw [read] at read'
  cases read'

/-! ## Writing -/

theorem FrameWriter.stock_writeBytes (left : Bytes) (s : σ) :
    stock s <+: stock (writeBytes left s).2.2 := by
  have flushes (s : σ) : stock s <+: stock (flush s).2 := by
    have grows := Stocked.stock_flush s
    unfold flush
    split
    · rename_i read
      rwa [read] at grows
    · rename_i read
      rwa [read] at grows
    · rename_i read
      rwa [read] at grows
  fun_induction writeBytes left s with
  | case1 s outcome s' flushed =>
    have grows := flushes s
    rwa [flushed] at grows
  | case2 s b rest count s' write some ih =>
    have grows := Stocked.stock_write s (b :: rest)
    rw [write] at grows
    exact grows.trans ih
  | case3 s b rest count s' write none =>
    have grows := Stocked.stock_write s (b :: rest)
    rwa [write] at grows
  | case4 s b rest s' write =>
    have grows := Stocked.stock_write s (b :: rest)
    rwa [write] at grows
  | case5 s b rest error s' write =>
    have grows := Stocked.stock_write s (b :: rest)
    rwa [write] at grows

/-- A write **adds to the stock** at most. -/
theorem FrameWriter.stock_of_write {writer after : FrameWriter} {s s' : σ} {outcome : WriteOutcome}
    (h : writer.write s = (outcome, after, s')) : stock s <+: stock s' := by
  cases h
  exact stock_writeBytes writer.left s

namespace Outbox

theorem stock_sendFrom (request : InFlight η) (queue : List (QueuedRequest η)) (inbox : Inbox η)
    (s : σ) : stock s <+: stock (sendFrom request queue inbox s).channel := by
  fun_induction sendFrom request queue inbox s with
  | case1 queue request inbox s writer s' took write => exact FrameWriter.stock_of_write write
  | case2 queue request inbox s writer s' took error status failed write =>
    exact FrameWriter.stock_of_write write
  | case3 request inbox s writer s' took released inbox' release events write =>
    exact FrameWriter.stock_of_write write
  | case4 request inbox s writer s' took released inbox' release events next queue later write ih =>
    exact (FrameWriter.stock_of_write write).trans ih

/-- **Sending adds to the stock** at most. -/
theorem stock_send (outbox : Outbox η) (inbox : Inbox η) (s : σ) :
    stock s <+: stock (outbox.send inbox s).channel := by
  unfold send
  split
  · exact List.prefix_refl _
  · simp only
    split
    · exact stock_sendFrom _ _ _ _
    · exact stock_sendFrom _ _ _ _
    · exact List.prefix_refl _

end Outbox

end Use

/-! ## The stock of a drive -/

namespace Simulation

/-- The bytes in front of some deliveries, up to the first one that brings none. -/
def stockOf : List Delivery → Bytes
  | .bytes (b :: content) :: queue => b :: content ++ stockOf queue
  | _ => []

theorem stockOf_append (queue more : List Delivery) :
    stockOf queue <+: stockOf (queue ++ more) := by
  induction queue with
  | nil => exact List.nil_prefix
  | cons delivery queue ih =>
    match delivery with
    | .bytes (b :: content) => exact (List.prefix_append_right_inj _).mpr ih
    | .bytes [] => exact List.nil_prefix
    | .block => exact List.nil_prefix
    | .zero => exact List.nil_prefix
    | .fail text => exact List.nil_prefix

namespace Drive

/-- What a drive **delivers at once**. One that lets nobody read anything has nothing in stock. -/
def stock (drive : Drive) : Bytes := if drive.readChunk = some 0 then [] else stockOf drive.queue

/-- A drive that **has more to deliver** than before, and delivers it in the same way. -/
def Fuller (drive drive' : Drive) : Prop :=
  drive'.readChunk = drive.readChunk ∧ ∃ more, drive'.queue = drive.queue ++ more

theorem Fuller.of_eq {drive drive' : Drive} (chunk : drive'.readChunk = drive.readChunk)
    (queue : drive'.queue = drive.queue) : drive.Fuller drive' :=
  ⟨chunk, [], queue.trans (List.append_nil _).symm⟩

theorem Fuller.trans {drive drive₁ drive₂ : Drive} (h : drive.Fuller drive₁)
    (h₁ : drive₁.Fuller drive₂) : drive.Fuller drive₂ := by
  obtain ⟨chunk, more, queue⟩ := h
  obtain ⟨chunk₁, more₁, queue₁⟩ := h₁
  refine ⟨chunk₁.trans chunk, more ++ more₁, ?_⟩
  rw [queue₁, queue, List.append_assoc]

theorem Fuller.stock {drive drive' : Drive} (h : drive.Fuller drive') :
    drive.stock <+: drive'.stock := by
  obtain ⟨chunk, more, queue⟩ := h
  rw [Drive.stock, Drive.stock, chunk, queue]
  split
  · exact List.prefix_refl _
  · exact stockOf_append _ _

theorem fuller_answer (drive : Drive) (request : HeardRequest) :
    drive.Fuller (drive.answer request) := by
  unfold answer
  exact ⟨rfl, _, rfl⟩

/-- Answering **puts deliveries at the end** of the queue. -/
theorem fuller_answerAll (drive : Drive) (bytes : Array UInt8) :
    drive.Fuller (drive.answerAll bytes) := by
  fun_induction answerAll drive bytes with
  | case1 drive bytes none => exact .of_eq rfl rfl
  | case2 drive bytes length some whole drive' ih =>
    refine Fuller.trans ?_ ih
    simp only [drive']
    split
    · exact fuller_answer _ _
    · exact .of_eq rfl rfl
  | case3 drive bytes length some cut => exact .of_eq rfl rfl

theorem fuller_take (drive : Drive) (offered : Bytes) (count : Nat) :
    drive.Fuller (drive.take offered count).2 :=
  Fuller.trans (.of_eq rfl rfl) (fuller_answerAll _ _)

theorem fuller_takeWithinBudget (drive : Drive) (offered : Bytes) (count : Nat) :
    drive.Fuller (drive.takeWithinBudget offered count).2 := by
  unfold takeWithinBudget
  split
  · exact fuller_take _ _ _
  · exact .of_eq rfl rfl
  · exact Fuller.trans (.of_eq rfl rfl) (fuller_take _ _ _)

theorem fuller_write (drive : Drive) (offered : Bytes) :
    drive.Fuller (drive.write offered).2 := by
  unfold write
  split
  · exact .of_eq rfl rfl
  · simp only
    split
    · exact fuller_takeWithinBudget _ _ _
    · exact .of_eq rfl rfl
    · exact .of_eq rfl rfl
    · exact .of_eq rfl rfl
    · exact .of_eq rfl rfl
    · exact Fuller.trans (.of_eq rfl rfl) (fuller_takeWithinBudget _ _ _)

theorem fuller_flush (drive : Drive) : drive.Fuller drive.flush.2 := by
  unfold flush
  split <;> exact .of_eq rfl rfl

/-- A read takes the first bytes of what is delivered at once. -/
theorem read_stock (drive : Drive) (limit : Nat) (some : drive.stock ≠ []) :
    ∃ (chunk : Chunk limit) (drive' : Drive), drive.read limit = (.progress chunk, drive') ∧
      chunk.bytes ++ drive'.stock = drive.stock ∧ (0 < limit → chunk.bytes ≠ []) := by
  have reads : drive.readChunk ≠ Option.some 0 :=
    fun nothing => some (by rw [stock, if_pos nothing])
  rw [stock, if_neg reads] at some
  match queue_eq : drive.queue with
  | .bytes (b :: content) :: queue =>
    -- what is left of the delivery goes on being the first one
    have rest_eq (rest : Bytes) :
        stockOf (if rest.isEmpty then queue else .bytes rest :: queue) = rest ++ stockOf queue := by
      cases rest <;> rfl
    have whole : drive.stock = b :: content ++ stockOf queue := by
      rw [stock, if_neg reads, queue_eq]
      rfl
    unfold read
    simp only [queue_eq]
    refine ⟨_, _, rfl, ?_, fun wants => ?_⟩
    · rw [whole, stock, if_neg (by split <;> exact reads), rest_eq, ← List.append_assoc,
        List.take_append_drop]
    · have some : limited limit drive.readChunk ≠ 0 := by
        unfold limited
        cases chunk_eq : drive.readChunk with
        | none => exact Nat.ne_of_gt wants
        | some size =>
          have : size ≠ 0 := fun none => reads (by rw [chunk_eq, none])
          simp only [Option.map_some, Option.getD_some]
          omega
      simp [some]
  | [] => exact absurd (by rw [queue_eq]; rfl) some
  | .bytes [] :: queue => exact absurd (by rw [queue_eq]; rfl) some
  | .block :: queue => exact absurd (by rw [queue_eq]; rfl) some
  | .zero :: queue => exact absurd (by rw [queue_eq]; rfl) some
  | .fail text :: queue => exact absurd (by rw [queue_eq]; rfl) some

end Drive

instance : Stocked Drive where
  stock := Drive.stock
  read_stock := Drive.read_stock
  stock_write drive offered := (drive.fuller_write offered).stock
  stock_flush drive := drive.fuller_flush.stock

end Simulation

end DriveLink
