import DriveLink.Session.Connection
import DriveLink.Trust.HostName

/-! # Connecting to a drive

A connection begins with options that make sense, with a name that a certificate can be for if the
drive is to show one, and with a channel, which somebody who knows the network has to open.

* `Dialer` — opens channels; `offline` is the one without a network;
* `Connection.connect` — a connection to the drive that the options name. -/

namespace DriveLink

/-- **Opens a channel** to the drive that some options name. -/
abbrev Dialer (σ : Type) : Type := Options → Except IoError σ

/-- Where there is no network, no channel can be opened. -/
def offline {σ : Type} : Dialer σ := fun _ => .error (.system .networkUnreachable)

/-- **Refuse a name** that no certificate can be for, if the drive is to show a certificate. -/
def Options.checkName (options : Options) : Except Failure Unit :=
  if options.trust.isSome && !HostName.isCertifiable options.host then
    .error (.tls ("invalid server name " ++ options.host ++ ": invalid dns name"))
  else .ok ()

/-- **Open a channel**, for options that make sense. -/
def Options.dial {σ : Type} (options : Options) (dialer : Dialer σ) : Except Failure σ := do
  options.validate
  options.checkName
  (dialer options).mapError .io

/-- **Connect** to the drive that the options name. The answer is `none` if the greeting takes more
waits than `patience`. -/
def Connection.connect {σ τ : Type} [Channel σ] [Pollable σ] (patience : Nat) (dialer : Dialer σ)
    (options : Options) : Option (Except Failure (Connection σ τ)) :=
  match options.dial dialer with
  | .error failure => some (.error failure)
  | .ok s => Connection.start patience .hmacSha1 options s

end DriveLink
