import DriveLink.Channel.Readiness

/-! # Waiting between two runs

A `Waiter` lets the caller sleep until a channel is ready. With a source, it registers the source at
its first wait and changes the registration at each later one, until it is released and somebody
else may register the source. Without one it sleeps for a moment and calls the channel ready, and it
keeps count of the time since it was reset, so that such waits come to an end as well.

* `Waiter` — who waits, whether the source is registered, and since when the waiter has been
  guessing;
* `Waiter.wait`, `Waiter.reset`, `Waiter.release` — its life. -/

namespace DriveLink

/-- The state of whoever **waits for a channel**. -/
structure Waiter where
  registrar : Registrar
  /-- Whether the source is registered by this waiter. -/
  registered : Bool := false
  /-- The first wait without a source since the last reset. -/
  guessingSince : Option Nat := none
  deriving DecidableEq, Repr

namespace Waiter

variable {σ : Type} [Pollable σ]

/-- How long a wait without a source sleeps at most: 1 ms. -/
def backOff : Duration := ⟨1000000⟩

/-- Forget when the waits without a source began. Each loop of waits starts with this. -/
def reset (waiter : Waiter) : Waiter := { waiter with guessingSince := none }

/-- **Register for** an interest, anew or once more. A registration that fails changes nothing. -/
def enroll (waiter : Waiter) (interest : Interest) (s : σ) : Except IoError Unit × Waiter × σ :=
  if waiter.registered then
    let (result, s) := Pollable.reregister s waiter.registrar interest
    (result, waiter, s)
  else
    match Pollable.register s waiter.registrar interest with
    | (.ok (), s) => (.ok (), { waiter with registered := true }, s)
    | (.error error, s) => (.error error, waiter, s)

/-- **Wait** until the channel is ready or the time is up, and say whether it is ready. Waiting for
nothing is waiting for bytes to read. Without a source the timeout bounds all waits since the last
reset together. -/
def wait (waiter : Waiter) (readiness : Readiness) (timeout : Duration) (s : σ) :
    Except IoError Bool × Waiter × σ :=
  if Pollable.hasSource s then
    match waiter.enroll (readiness.interest?.getD .readable) s with
    | (.ok (), waiter, s) =>
      let (result, s) := Pollable.poll s timeout
      (result, waiter, s)
    | (.error error, waiter, s) => (.error error, waiter, s)
  else
    let since := waiter.guessingSince.getD (Pollable.now s)
    let waiter := { waiter with guessingSince := some since }
    if timeout.nanoseconds ≤ Pollable.now s - since then (.ok false, waiter, s)
    else (.ok true, waiter, Pollable.sleep s ⟨min backOff.nanoseconds timeout.nanoseconds⟩)

/-- **Take the registration back**, if there is one. If that fails, the source counts as free all
the same. -/
def release (waiter : Waiter) (s : σ) : Waiter × σ :=
  if waiter.registered then
    let s := if Pollable.hasSource s then (Pollable.deregister s waiter.registrar).2 else s
    ({ waiter with registered := false }, s)
  else (waiter, s)

end Waiter

end DriveLink
