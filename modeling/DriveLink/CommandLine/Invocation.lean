import DriveLink.CommandLine.Number
import DriveLink.CommandLine.Scan
import DriveLink.Session.Dial
import DriveLink.Trust.Store

/-! # What the program is asked to do

The program connects to one drive and gives it one task. Options in front of the task say which
drive and who connects; the task has words and options of its own.

* `Task` — what the drive is asked for;
* `Invocation`, `read` — a command line that can be carried out;
* `Report`, `run` — what the program leaves behind. -/

namespace DriveLink.CommandLine

/-- The **version** of the program. -/
def programVersion : String := "0.1.0"

/-- The name of the program. -/
def programName : String := "kinetic-cli"

/-- **What the drive is asked for.** -/
inductive Task
  | noOp
  | get (key : String)
  | put (key value version : String)
  | delete (key : String)
  | version (key : String)
  | range (first last : String) (most : UInt32) (reverse : Bool)
  | log
  | flush
  deriving DecidableEq, Repr

/-- A **command line that can be carried out**. -/
structure Invocation where
  host : String
  port : UInt16
  /-- The file with the certificates to be trusted; with it the connection is over TLS. -/
  trustFile : Option String
  user : Int64
  key : String
  clusterVersion : Int64
  task : Task
  deriving DecidableEq, Repr

/-! ## Options and tasks -/

/-- An option whose value may be any text. -/
def textOption (name : String) (letter : Option Char) : OptionSpec :=
  { name, letter, accepts := some fun _ => true }

/-- An option whose value is a number between two others. -/
def numberOption (name : String) (letter : Option Char) (low high : Int) : OptionSpec :=
  { name, letter, accepts := some (isBetween low high) }

/-- The option that asks for help. -/
def helpOption : OptionSpec := { name := "help", letter := some 'h' }

/-- The options **in front of the task**. -/
def options : List OptionSpec :=
  [textOption "host" none, numberOption "port" (some 'p') 0 0xFFFF, textOption "tls-ca" none,
    numberOption "user" (some 'u') Int64.minValue.toInt Int64.maxValue.toInt,
    textOption "key" (some 'k'),
    numberOption "cluster-version" none Int64.minValue.toInt Int64.maxValue.toInt, helpOption,
    { name := "version", letter := some 'V' }]

/-- How a **task** is written: its name, how many words follow it, and its own options. -/
structure TaskSpec where
  name : String
  words : Nat := 0
  options : List OptionSpec := []
  task : Given → Task

/-- The **tasks**. -/
def tasks : List TaskSpec :=
  [{ name := "noop", task := fun _ => .noOp },
    { name := "get", words := 1, task := fun given => .get (given.word 0) },
    { name := "put", words := 2, options := [textOption "version" none]
      task := fun given => .put (given.word 0) (given.word 1) ((given.value? "version").getD "") },
    { name := "delete", words := 1, task := fun given => .delete (given.word 0) },
    { name := "version", words := 1, task := fun given => .version (given.word 0) },
    { name := "range", words := 2
      options := [numberOption "max" (some 'm') 0 0xFFFFFFFF,
        { name := "reverse", letter := some 'r' }]
      task := fun given =>
        .range (given.word 0) (given.word 1)
          (UInt32.ofNat (integerD (given.value? "max") 100).toNat) (given.has "reverse") },
    { name := "log", task := fun _ => .log },
    { name := "flush", task := fun _ => .flush }]

/-- The task of a name. -/
def task? (name : String) : Option TaskSpec := tasks.find? (·.name = name)

/-- Help by its name, perhaps about one task. -/
def readHelp (arguments : List String) : Stop :=
  match arguments with
  | [] => .help
  | [name] => if name = "help" || (task? name).isSome then .help else .wrong
  | _ :: _ :: _ => .wrong

/-- The task at the first word of a command line. -/
def readTask (arguments : List String) : Except Stop Task :=
  match arguments with
  | [] => .error .wrong
  | name :: rest =>
    match task? name with
    | none => .error (if name = "help" then readHelp rest else .wrong)
    | some spec =>
      match gather spec.words {} (scan (helpOption :: spec.options) rest) with
      | .error stop => .error stop
      | .ok given =>
        if given.words.length = spec.words then .ok (spec.task given) else .error .wrong

/-- **Read a command line.** -/
def read (arguments : List String) : Except Stop Invocation := do
  let (marks, left) := scanToWord options arguments
  let given ← gather 0 {} marks
  let task ← readTask left
  return {
    host := (given.value? "host").getD "localhost"
    port := UInt16.ofNat (integerD (given.value? "port") defaultPort.toNat).toNat
    trustFile := given.value? "tls-ca"
    user := Int64.ofInt (integerD (given.value? "user") 1)
    key := (given.value? "key").getD "asdfasdf"
    clusterVersion := Int64.ofInt (integerD (given.value? "cluster-version") 0)
    task }

/-! ## Carrying it out -/

/-- **What the program leaves behind.** -/
structure Report where
  exitCode : UInt32
  output : String := ""
  complaint : String := ""
  deriving DecidableEq, Repr

/-- How the program is to be called. -/
def usage : String :=
  "Usage: " ++ programName ++ " [OPTIONS] <COMMAND>\n\nCommands: " ++
    ", ".intercalate (tasks.map (·.name)) ++ "\n"

/-- What is left behind by a command line that is not carried out. -/
def Stop.report : Stop → Report
  | .help => { exitCode := 0, output := usage }
  | .version => { exitCode := 0, output := programName ++ " " ++ programVersion ++ "\n" }
  | .wrong => { exitCode := 2, complaint := usage }

/-- Whom to trust, if a file says so. -/
def Invocation.trust (invocation : Invocation) (file : String → Except IoError Bytes) :
    Except Failure (Option (List TrustAnchor)) :=
  match invocation.trustFile with
  | none => .ok none
  | some name => (trustFromFile name (file name)).map some

/-- The options of the **connection**. -/
def Invocation.options (invocation : Invocation) (trust : Option (List TrustAnchor)) :
    DriveLink.Options :=
  { host := invocation.host
    port := invocation.port
    trust
    userId := invocation.user
    hmacKey := invocation.key.toByteArray.data.toList
    clusterVersion := invocation.clusterVersion }

/-- **Open the channel** that an invocation asks for. -/
def Invocation.dial {σ : Type} (invocation : Invocation) (file : String → Except IoError Bytes)
    (dialer : Dialer σ) : Except Failure σ := do
  let trust ← invocation.trust file
  (invocation.options trust).dial dialer

/-- **Carry out a command line** where there is no network: whatever can be carried out ends when
the channel is to be opened. `file` says what is in a file. -/
def run (file : String → Except IoError Bytes) (arguments : List String) : Report :=
  match read arguments with
  | .error stop => stop.report
  | .ok invocation =>
    match invocation.dial (σ := Empty) file offline with
    | .ok nothing => nothing.elim
    | .error failure => { exitCode := 1, complaint := failure.message ++ "\n" }

end DriveLink.CommandLine
