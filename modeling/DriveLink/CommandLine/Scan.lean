/-! # Options and words on a command line

A command line consists of words and of options, which have a long name, perhaps a letter, and
perhaps a value. A value is the next argument, unless that looks like an option, or stands in the
same argument as the option; letters may share one argument. After two dashes alone everything is a
word.

* `OptionSpec` — an option that may be given;
* `Mark` — what a command line says, piece by piece;
* `scanToWord`, `scan` — what a command line says up to its first word, or to its end;
* `Given`, `gather` — what was given altogether, or why the command line is not carried out. -/

namespace DriveLink.CommandLine

/-- An **option that may be given**. -/
structure OptionSpec where
  name : String
  letter : Option Char := none
  /-- Whether a text is a value of the option, if it has one. -/
  accepts : Option (String → Bool) := none

/-- **What a command line says**, piece by piece. -/
inductive Mark
  | switch (name : String)
  | value (name text : String)
  | word (text : String)
  /-- The command line is wrong here, and nothing is read after it. -/
  | wrong
  deriving DecidableEq, Repr

/-- Whether an argument looks like an option; a dash alone does not. -/
def looksLikeOption (argument : String) : Bool :=
  argument.toList.head? = some '-' && argument != "-"

/-- A value of an option, if it is one. -/
def valueMark (spec : OptionSpec) (accepts : String → Bool) (text : String) : Mark :=
  if accepts text then .value spec.name text else .wrong

/-- What the letters of an argument say, and the option that waits for its value in the next one. -/
def letters (specs : List OptionSpec) : List Char → List Mark × Option OptionSpec
  | [] => ([], none)
  | c :: rest =>
    match specs.find? fun spec => spec.letter = some c with
    | none => ([.wrong], none)
    | some spec =>
      match spec.accepts, rest with
      | none, _ =>
        let (marks, waiting) := letters specs rest
        (.switch spec.name :: marks, waiting)
      | some _, [] => ([], some spec)
      | some accepts, '=' :: text => ([valueMark spec accepts (String.ofList text)], none)
      | some accepts, _ => ([valueMark spec accepts (String.ofList rest)], none)

/-- What a long name says, with or without a value behind an equals sign, and the option that waits
for its value in the next argument. -/
def longName (specs : List OptionSpec) (text : List Char) : List Mark × Option OptionSpec :=
  let name := String.ofList (text.takeWhile (· != '='))
  match specs.find? fun spec => spec.name = name with
  | none => ([.wrong], none)
  | some spec =>
    match spec.accepts, text.dropWhile (· != '=') with
    | none, [] => ([.switch spec.name], none)
    | none, _ :: _ => ([.wrong], none)
    | some _, [] => ([], some spec)
    | some accepts, _ :: value => ([valueMark spec accepts (String.ofList value)], none)

/-- What an argument that looks like an option says. -/
def optionMarks (specs : List OptionSpec) (argument : String) : List Mark × Option OptionSpec :=
  match argument.toList with
  | '-' :: '-' :: text => longName specs text
  | _ :: text => letters specs text
  | [] => ([], none)

/-- **What a command line says.** If `stops`, it is read up to the first word, and the word and what
follows it are left. `waiting` is an option whose value is to come. -/
def scanFrom (specs : List OptionSpec) (stops : Bool) : (waiting : Option OptionSpec) →
    List String → List Mark × List String
  | none, [] => ([], [])
  | some _, [] => ([.wrong], [])
  | some spec, argument :: rest =>
    if looksLikeOption argument then ([.wrong], [])
    else
      let (marks, left) := scanFrom specs stops none rest
      (valueMark spec (spec.accepts.getD fun _ => true) argument :: marks, left)
  | none, argument :: rest =>
    if argument = "--" then (rest.map .word, [])
    else if looksLikeOption argument then
      let (marks, waiting) := optionMarks specs argument
      let (more, left) := scanFrom specs stops waiting rest
      (marks ++ more, left)
    else if stops then ([], argument :: rest)
    else
      let (marks, left) := scanFrom specs stops none rest
      (.word argument :: marks, left)

/-- **What a command line says before its first word**, and the rest from that word on. -/
def scanToWord (specs : List OptionSpec) (arguments : List String) : List Mark × List String :=
  scanFrom specs true none arguments

/-- **What a command line says**, options and words. -/
def scan (specs : List OptionSpec) (arguments : List String) : List Mark :=
  (scanFrom specs false none arguments).1

/-! ## Gathering -/

/-- **Why a command line is not carried out.** -/
inductive Stop
  /-- It asks for help. -/
  | help
  /-- It asks for the version of the program. -/
  | version
  /-- It is wrong. -/
  | wrong
  deriving DecidableEq, Repr

/-- **What was given** altogether. -/
structure Given where
  switches : List String := []
  values : List (String × String) := []
  words : List String := []
  deriving DecidableEq, Repr

namespace Given

/-- Whether an option was given. -/
def has (given : Given) (name : String) : Bool :=
  given.switches.contains name || (given.values.lookup name).isSome

/-- The value of an option, if it was given. -/
def value? (given : Given) (name : String) : Option String := given.values.lookup name

/-- A word by its place, empty if there is none. -/
def word (given : Given) (place : Nat) : String := given.words.getD place ""

end Given

/-- **Gather** what a command line says, in order. The first thing that stops it counts: a request
for help or for the version, an option given twice, a word too many. -/
def gather (most : Nat) : (given : Given) → List Mark → Except Stop Given
  | given, [] => .ok given
  | _, .wrong :: _ => .error .wrong
  | given, .switch name :: rest =>
    if name = "help" then .error .help
    else if name = "version" then .error .version
    else if given.has name then .error .wrong
    else gather most { given with switches := given.switches ++ [name] } rest
  | given, .value name text :: rest =>
    if given.has name then .error .wrong
    else gather most { given with values := given.values ++ [(name, text)] } rest
  | given, .word text :: rest =>
    if given.words.length < most then
      gather most { given with words := given.words ++ [text] } rest
    else .error .wrong

end DriveLink.CommandLine
