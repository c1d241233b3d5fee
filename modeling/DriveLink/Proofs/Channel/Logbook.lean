import DriveLink.Channel.Waiter
import Mathlib.Data.List.Induction

/-! # The calls to a source

A source may be registered by one at a time: whoever wants it must find it free, and only who holds
it may change the registration or take it back. Whether a call succeeds is up to the source. So any
channel is given a source whose calls are written down, and a waiter is shown to make them in order,
since it knows at any time whether it holds the source.

* `SourceCall`, `holder`, `holder_ne_none_iff` — calls to a source, and who holds it behind them;
* `Disciplined` — every call is made by who may make it;
* `Logbook` — any channel, with a source whose calls are written down;
* `Waiter.Minds` — a waiter that knows whether it holds the source;
* `Minds.wait`, `Minds.release` — it makes one call for a wait, and gives the source back. -/

namespace DriveLink

/-! ## Calls -/

/-- **A call to a source**: who makes it, and whether it succeeds. -/
inductive SourceCall
  | register (registrar : Registrar) (interest : Interest) (succeeds : Bool)
  | reregister (registrar : Registrar) (interest : Interest) (succeeds : Bool)
  | deregister (registrar : Registrar) (succeeds : Bool)
  deriving DecidableEq, Repr

namespace SourceCall

/-- The interest that a call **asks for**, unless it takes the registration back. -/
def interest? : SourceCall → Option Interest
  | register _ interest _ | reregister _ interest _ => some interest
  | deregister _ _ => none

/-- Who **holds the source** behind a call. A registration that fails changes nothing. Taking it
back leaves the source to nobody, even if that fails. -/
def holderAfter (holder : Option Registrar) : SourceCall → Option Registrar
  | register registrar _ true => some registrar
  | deregister _ _ => none
  | _ => holder

/-- Whether a call **may be made**: nobody registers a source that is held, and only who holds it
changes the registration or takes it back. -/
def Allowed (holder : Option Registrar) : SourceCall → Prop
  | register _ _ _ => holder = none
  | reregister registrar _ _ | deregister registrar _ => holder = some registrar

/-- A call that asks for an interest **takes the source from nobody**. -/
theorem isSome_holderAfter {holder : Option Registrar} {call : SourceCall}
    (asks : call.interest? ≠ none) (held : holder ≠ none) : call.holderAfter holder ≠ none := by
  cases call with
  | register registrar interest succeeds => cases succeeds <;> simp [holderAfter, held]
  | reregister registrar interest succeeds => exact held
  | deregister registrar succeeds => exact absurd rfl asks

end SourceCall

/-- Who **holds the source** behind some calls. -/
def holder (calls : List SourceCall) : Option Registrar :=
  calls.foldl (fun held call => call.holderAfter held) none

@[simp] theorem holder_nil : holder [] = none := rfl

theorem holder_concat (calls : List SourceCall) (call : SourceCall) :
    holder (calls ++ [call]) = call.holderAfter (holder calls) := by
  rw [holder, List.foldl_append]
  rfl

/-- **Who holds the source** has registered it with success, and since then no call has taken a
registration back. -/
theorem holder_ne_none_iff {calls : List SourceCall} :
    holder calls ≠ none ↔ ∃ before registrar interest after,
      calls = before ++ .register registrar interest true :: after ∧
        ∀ call ∈ after, call.interest? ≠ none := by
  constructor
  · intro held
    -- the last call settles it, or leaves it as it was before
    induction calls using List.reverseRecOn with
    | nil => exact absurd rfl held
    | append_singleton calls call ih =>
      rw [holder_concat] at held
      have behind (asks : call.interest? ≠ none) (held : holder calls ≠ none) :
          ∃ before registrar interest after,
            calls ++ [call] = before ++ .register registrar interest true :: after ∧
              ∀ call ∈ after, call.interest? ≠ none := by
        obtain ⟨before, registrar, interest, after, rfl, rest⟩ := ih held
        refine ⟨before, registrar, interest, after ++ [call], by simp, fun other mem => ?_⟩
        rcases List.mem_append.mp mem with mem | mem
        · exact rest other mem
        · rwa [List.mem_singleton.mp mem]
      cases call with
      | register registrar interest succeeds =>
        cases succeeds with
        | false => exact behind nofun held
        | true => exact ⟨calls, registrar, interest, [], rfl, nofun⟩
      | reregister registrar interest succeeds => exact behind nofun held
      | deregister registrar succeeds => exact absurd rfl held
  · rintro ⟨before, registrar, interest, after, rfl, rest⟩
    induction after using List.reverseRecOn with
    | nil =>
      rw [holder_concat]
      exact nofun
    | append_singleton after call ih =>
      rw [← List.cons_append, ← List.append_assoc, holder_concat]
      refine SourceCall.isSome_holderAfter (rest call (by simp)) (ih fun other mem => ?_)
      exact rest other (List.mem_append_left _ mem)

/-- **Calls in order**: each is made by who may make it behind those before. -/
def Disciplined (calls : List SourceCall) : Prop :=
  ∀ before call after, calls = before ++ call :: after → call.Allowed (holder before)

theorem disciplined_nil : Disciplined [] := by
  intro before call after split
  simp at split

/-- One more call **that may be made** leaves calls in order. -/
theorem Disciplined.concat {calls : List SourceCall} (h : Disciplined calls) {call : SourceCall}
    (allowed : call.Allowed (holder calls)) : Disciplined (calls ++ [call]) := by
  intro before other after split
  rcases after.eq_nil_or_concat with rfl | ⟨after, last, rfl⟩
  · obtain ⟨rfl, same⟩ := List.append_inj' split rfl
    cases same
    exact allowed
  · rw [List.concat_eq_append, ← List.cons_append, ← List.append_assoc] at split
    exact h before other after (List.append_inj' split rfl).1

/-! ## A source whose calls are written down -/

/-- Any channel, with **a source whose calls are written down**. What a call comes to is up to the
channel. -/
structure Logbook (σ : Type) where
  channel : σ
  log : List SourceCall := []

namespace Logbook

variable {σ : Type}

/-- What a call to the channel comes to that **is not written down**. -/
def pass {α : Type} (logbook : Logbook σ) (result : α × σ) : α × Logbook σ :=
  (result.1, ⟨result.2, logbook.log⟩)

/-- What a call to the source comes to, **written down** with whether it succeeds. -/
def note (logbook : Logbook σ) (call : Bool → SourceCall) (result : Except IoError Unit × σ) :
    Except IoError Unit × Logbook σ :=
  (result.1, ⟨result.2, logbook.log ++ [call result.1.isOk]⟩)

instance [Channel σ] : Channel (Logbook σ) where
  read logbook limit := logbook.pass (Channel.read logbook.channel limit)
  write logbook offered := logbook.pass (Channel.write logbook.channel offered)
  flush logbook := logbook.pass (Channel.flush logbook.channel)
  inbound logbook := Channel.inbound logbook.channel
  read_inbound := by
    intro logbook logbook' limit chunk read
    obtain ⟨progress, rfl⟩ := Prod.mk.inj read
    exact Channel.read_inbound (Prod.ext progress rfl)

instance [Pollable σ] : Pollable (Logbook σ) where
  now logbook := Pollable.now logbook.channel
  sleep logbook d := { logbook with channel := Pollable.sleep logbook.channel d }
  hasSource _ := true
  register logbook registrar interest :=
    logbook.note (.register registrar interest)
      (Pollable.register logbook.channel registrar interest)
  reregister logbook registrar interest :=
    logbook.note (.reregister registrar interest)
      (Pollable.reregister logbook.channel registrar interest)
  deregister logbook registrar :=
    logbook.note (.deregister registrar) (Pollable.deregister logbook.channel registrar)
  poll logbook timeout := logbook.pass (Pollable.poll logbook.channel timeout)

end Logbook

/-! ## A waiter -/

namespace Waiter

variable {σ : Type} [Pollable σ] {waiter : Waiter} {s : Logbook σ}

/-- A waiter **minds the source**: so far the calls are in order, and it knows whether it holds the
source. -/
structure Minds (waiter : Waiter) (s : Logbook σ) : Prop where
  disciplined : Disciplined s.log
  holder_eq : holder s.log = if waiter.registered then some waiter.registrar else none

omit [Pollable σ] in
/-- A waiter that **starts with a free source** minds it. -/
theorem Minds.of_free (disciplined : Disciplined s.log) (free : holder s.log = none)
    (fresh : waiter.registered = false) : waiter.Minds s := by
  refine ⟨disciplined, ?_⟩
  rw [free, fresh]
  rfl

omit [Pollable σ] in
/-- Once its registration is taken back, **the source is free**. -/
theorem Minds.free (h : waiter.Minds s) (released : waiter.registered = false) :
    holder s.log = none := by
  rw [h.holder_eq, released]
  rfl

/-- A waiter that holds the source **changes its registration**. -/
theorem enroll_of_held (held : waiter.registered = true) (interest : Interest) (s : Logbook σ) :
    waiter.enroll interest s =
      ((Pollable.reregister s waiter.registrar interest).1, waiter,
        (Pollable.reregister s waiter.registrar interest).2) := if_pos held

/-- A waiter that does not hold the source **registers it**, and holds it if that succeeds. -/
theorem enroll_of_free (free : waiter.registered = false) (interest : Interest) (s : Logbook σ) :
    waiter.enroll interest s =
      ((Pollable.register s waiter.registrar interest).1,
        { waiter with registered := (Pollable.register s waiter.registrar interest).1.isOk },
        (Pollable.register s waiter.registrar interest).2) := by
  obtain ⟨registrar, registered, since⟩ := waiter
  cases free
  rcases registers : Pollable.register s registrar interest with ⟨error | ⟨⟩, s'⟩
  · rw [enroll, if_neg Bool.false_ne_true, registers]
    rfl
  · rw [enroll, if_neg Bool.false_ne_true, registers]
    rfl

/-- Registering is **one call** for the interest, and the waiter knows what came of it: a
registration is not lost when changing it fails. -/
theorem Minds.enroll (h : waiter.Minds s) (interest : Interest) :
    (waiter.enroll interest s).2.1.Minds (waiter.enroll interest s).2.2 ∧
      ∃ call : SourceCall, (waiter.enroll interest s).2.2.log = s.log ++ [call] ∧
        call.interest? = some interest := by
  have holder_eq := h.holder_eq
  cases held : waiter.registered with
  | true =>
    rw [held] at holder_eq
    rw [enroll_of_held held]
    refine ⟨⟨h.disciplined.concat holder_eq, ?_⟩, _, rfl, rfl⟩
    rw [held]
    exact (holder_concat ..).trans holder_eq
  | false =>
    rw [held] at holder_eq
    rw [enroll_of_free held]
    have free : (SourceCall.register waiter.registrar interest
        (Pollable.register s.channel waiter.registrar interest).1.isOk).Allowed (holder s.log) :=
      holder_eq
    refine ⟨⟨h.disciplined.concat free, (holder_concat ..).trans ?_⟩, _, rfl, rfl⟩
    rw [holder_eq]
    show _ = if (Pollable.register s.channel waiter.registrar interest).1.isOk then _ else none
    cases (Pollable.register s.channel waiter.registrar interest).1.isOk <;> rfl

/-- **A wait** makes one call to the source, for what it waits for. -/
theorem Minds.wait (h : waiter.Minds s) (readiness : Readiness) (timeout : Duration) :
    (waiter.wait readiness timeout s).2.1.Minds (waiter.wait readiness timeout s).2.2 ∧
      ∃ call : SourceCall, (waiter.wait readiness timeout s).2.2.log = s.log ++ [call] ∧
        call.interest? = some (readiness.interest?.getD .readable) := by
  have enrolls := h.enroll (readiness.interest?.getD .readable)
  have source : Pollable.hasSource s = true := rfl
  rw [Waiter.wait, if_pos source]
  split
  · rename_i enrolled
    rw [enrolled] at enrolls
    exact ⟨⟨enrolls.1.disciplined, enrolls.1.holder_eq⟩, enrolls.2⟩
  · rename_i enrolled
    rw [enrolled] at enrolls
    exact enrolls

/-- **To release the source** is at most one call, which takes the registration back. -/
theorem Minds.release (h : waiter.Minds s) :
    (waiter.release s).1.Minds (waiter.release s).2 ∧ (waiter.release s).1.registered = false ∧
      ∃ last, (waiter.release s).2.log = s.log ++ last ∧
        (last = [] ∨ ∃ registrar succeeds, last = [.deregister registrar succeeds]) := by
  have holder_eq := h.holder_eq
  unfold Waiter.release
  cases held : waiter.registered with
  | true =>
    rw [held] at holder_eq
    exact ⟨.of_free (h.disciplined.concat holder_eq) (holder_concat ..) rfl, rfl, _, rfl,
      .inr ⟨_, _, rfl⟩⟩
  | false => exact ⟨h, held, [], (List.append_nil _).symm, .inl rfl⟩

end Waiter

end DriveLink
