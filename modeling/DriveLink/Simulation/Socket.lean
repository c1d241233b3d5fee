import DriveLink.Channel.Basic
import DriveLink.Channel.Readiness
import DriveLink.Simulation.Source

/-! # A socket without a peer

A socket that was never connected: the operating system fails every read and every write, and calls
the socket ready at all times, since there is nothing to wait for.

* `Socket` — such a socket, with its instances of `Channel` and `Pollable`;
* `Socket.peer` — what stands for the address of its peer. -/

namespace DriveLink.Simulation

/-- A **socket without a peer**. -/
structure Socket where
  source : Source := { behaviour := .ready }
  /-- Nanoseconds since the socket came to be. -/
  clock : Nat := 0

namespace Socket

/-- What stands for the **address of the peer** that there is none of. -/
def peer : String := "unknown"

/-- Keep what a call of the source leaves. -/
def callSource (socket : Socket) (call : Source → Except IoError Unit × Source) :
    Except IoError Unit × Socket :=
  let (result, source) := call socket.source
  (result, { socket with source })

end Socket

instance : Channel Socket where
  read socket _ := (.failed (.system .notConnected), socket)
  write socket _ := (.failed (.system .brokenPipe), socket)
  flush socket := (.progress 0, socket)
  inbound _ := 0
  read_inbound h := by simp at h

instance : Pollable Socket where
  now := Socket.clock
  sleep socket d := { socket with clock := socket.clock + d.nanoseconds }
  hasSource _ := true
  register socket registrar interest := socket.callSource fun s => s.register registrar interest
  reregister socket registrar interest :=
    socket.callSource fun s => s.reregister registrar interest
  deregister socket registrar := socket.callSource fun s => s.deregister registrar
  poll socket _ := (.ok true, socket)

end DriveLink.Simulation
