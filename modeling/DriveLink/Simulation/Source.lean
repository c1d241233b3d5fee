import DriveLink.Channel.Readiness
import DriveLink.Protocol.Names

/-! # A scripted source

The source of a simulated channel: it is always ready, or never for reading, or refuses one of the
calls. Like every source it belongs to at most one registrar, and each registrar's poll has it at
most once. Whatever is asked of it, it writes down.

* `SourceBehaviour` — what the source is scripted to do;
* `Source` — its state, with `register`, `reregister`, `deregister` and `isReady`. -/

namespace DriveLink.Simulation

/-- What a source is **scripted to do**. -/
inductive SourceBehaviour
  /-- Ready for everything at all times. -/
  | ready
  /-- Never ready for reading. -/
  | silent
  | failRegister
  | failReregister
  | failDeregister
  deriving DecidableEq, Repr

instance : Vocabulary SourceBehaviour where
  members := [.ready, .silent, .failRegister, .failReregister, .failDeregister]
  words := ["ready", "silent", "fail_register", "fail_reregister", "fail_deregister"]
  length_words := rfl

/-- The **state of a source**. -/
structure Source where
  behaviour : SourceBehaviour
  /-- Who registered it last, unless that was taken back. -/
  association : Option Registrar := none
  /-- Whose polls have it. -/
  polls : List Registrar := []
  /-- What it is registered for. -/
  interest : Option Interest := none
  /-- What was asked of it, first to last. -/
  log : Array String := #[]
  deriving Repr

namespace Source

/-- The letters of an interest. -/
def letters (interest : Interest) : String :=
  match interest with
  | .readable => "R"
  | .writable => "W"
  | .both => "RW"

/-- Write down what is asked. -/
def note (source : Source) (line : String) : Source := { source with log := source.log.push line }

/-- A call that the script refuses, or that goes on as `call` says. -/
def unlessRefused (source : Source) (refusing : SourceBehaviour) (what : String)
    (call : Source → Except IoError Unit × Source) : Except IoError Unit × Source :=
  if source.behaviour = refusing then (.error (.told (what ++ " refused")), source)
  else call source

/-- The refusal of a source that belongs to nobody, or to another. -/
def notRegistered : IoError := .told "I/O source not registered with \x60Registry\x60"

/-- **Register** the source. It then belongs to the registrar even if it belonged to another, in
which case the call fails all the same. -/
def register (source : Source) (registrar : Registrar) (interest : Interest) :
    Except IoError Unit × Source :=
  (source.note ("register " ++ letters interest)).unlessRefused .failRegister "register"
    fun source =>
      let free := source.association.isNone
      let source := { source with association := some registrar }
      if !free then
        (.error (.told "I/O source already registered with a \x60Registry\x60"), source)
      else if source.polls.contains registrar then (.error (.system .fileExists), source)
      else
        (.ok (), { source with polls := registrar :: source.polls, interest := some interest })

/-- **Change** what the source is registered for. -/
def reregister (source : Source) (registrar : Registrar) (interest : Interest) :
    Except IoError Unit × Source :=
  (source.note ("reregister " ++ letters interest)).unlessRefused .failReregister "reregister"
    fun source =>
      match source.association with
      | none => (.error notRegistered, source)
      | some other =>
        if other = registrar then
          if source.polls.contains registrar then
            (.ok (), { source with interest := some interest })
          else (.error (.system .noSuchFile), source)
        else
          (.error (.told "I/O source already registered with a different \x60Registry\x60"),
            source)

/-- **Take the registration back.** The source then belongs to nobody, even if it belonged to
another. -/
def deregister (source : Source) (registrar : Registrar) : Except IoError Unit × Source :=
  (source.note "deregister").unlessRefused .failDeregister "deregister"
    fun source =>
      let own := source.association = some registrar
      let source := { source with association := none }
      if !own then (.error notRegistered, source)
      else if source.polls.contains registrar then
        (.ok (), { source with polls := source.polls.erase registrar })
      else (.error (.system .noSuchFile), source)

/-- Whether the source is ready for what it is registered for. -/
def isReady (source : Source) : Bool :=
  match source.behaviour with
  | .silent => source.interest.any Interest.writes
  | _ => true

end Source

end DriveLink.Simulation
