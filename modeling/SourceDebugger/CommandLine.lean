/-
  Reading the command line.  Options stand in front of the program's arguments;
  those begin with the first word that is neither an option nor the value of
  one, or behind `--`.  Words that only look like options count as values.

  * `CommandLine.parse` gives the settings of a run, or says what to do
    instead: show the help or the version, or refuse the command line;
  * `Refusal.message` words a refusal; a value is quoted without what a terminal
    would act on.

  A value that stands in a word of its own is read when the next option follows
  or the words end, so what is wrong with it is found no earlier.
-/
import SourceDebugger.CommandLine.Parameter
import SourceDebugger.Event
import SourceDebugger.Session
import SourceDebugger.Text.Visible

namespace SourceDebugger

/-- What a run is to do. -/
structure Settings where
  program : String
  arguments : List String := []
  config : Config := {}
  logLevel : LogLevel := .info

/-- Why a command line is refused. -/
inductive Refusal where
  | missingValue (p : Parameter)
  | invalidValue (p : Parameter) (value reason : String)
  | repeated (p : Parameter)
  /-- A value of an option that has none; `isFirst` if no option came before. -/
  | unexpectedValue (p : Parameter) (value : String) (isFirst : Bool)
  /-- There is no program; the options given, and whether it has arguments. -/
  | missingProgram (used : List Parameter) (hasArguments : Bool)
  deriving DecidableEq

/-- What a command line leads to that starts no run. -/
inductive Instead where
  | showHelp
  | showVersion
  | refuse (why : Refusal)
  deriving DecidableEq

namespace Refusal

/-- The usage that a refusal shows. -/
def usage? : Refusal → Option String
  | missingValue _ | invalidValue .. => none
  | repeated _ => some CommandLine.fullUsage
  | unexpectedValue p _ true => some (CommandLine.usage [Parameter.run.text, p.text] false)
  | unexpectedValue p _ false =>
    let own := if p = .help ∨ p = .version then [p.text] else []
    some ("Usage: " ++ " ".intercalate
      (CommandLine.programName :: own ++ [CommandLine.alternatives]))
  | missingProgram used hasArguments =>
    some (CommandLine.usage (Parameter.run.text :: used.map (·.text)) hasArguments)

def reason : Refusal → String
  | missingValue p => "a value is required for '" ++ p.text ++ "' but none was supplied"
  | invalidValue p value reason =>
    "invalid value '" ++ Visible.text value ++ "' for '" ++ p.text ++ "': " ++ reason
  | repeated p => "the argument '" ++ p.text ++ "' cannot be used multiple times"
  | unexpectedValue p value _ =>
    "unexpected value '" ++ Visible.text value ++ "' for '" ++ p.text ++ "' found; no more were expected"
  | missingProgram .. =>
    "the following required arguments were not provided:\n  " ++ Parameter.run.text

def message (r : Refusal) : String :=
  "error: " ++ r.reason ++ "\n\n" ++
    (match r.usage? with
    | some usage => usage ++ "\n\n"
    | none => "") ++ "For more information, try '--help'.\n"

end Refusal

/-! ## Values -/

/-- Reads the digits of a number below `2 ^ 64` behind the number `n`. -/
def CommandLine.digits (n : Nat) : List Char → Except String Nat
  | [] => .ok n
  | c :: cs =>
    match Numeral.digit? 10 c with
    | none => .error "invalid digit found in string"
    | some d =>
      if UInt64.size ≤ n * 10 + d then .error "number too large to fit in target type"
      else digits (n * 10 + d) cs

/-- Reads a number, which may have a `+` in front. -/
def CommandLine.number (text : String) : Except String UInt64 :=
  if text.isEmpty then .error "cannot parse integer from empty string"
  else
    match Numeral.dropPlus text.toList with
    | [] => .error "invalid digit found in string"
    | cs => (digits 0 cs).map UInt64.ofNat

namespace LogLevel

def all : List LogLevel := [error, warn, info, debug, trace]

/-- The level with a name, in letters of either case, or with a number from 1
    on. -/
def ofText? (text : String) : Option LogLevel :=
  match CommandLine.number text with
  | .ok n => if n = 0 then none else all[n.toNat - 1]?
  | .error _ =>
    all.find? fun level => level.name.toList.map Char.toLower == text.toList.map Char.toLower

end LogLevel

namespace CommandLine

/-! ## Options -/

/-- What has been read of a command line. -/
structure Progress where
  program : Option String := none
  config : Config := {}
  logLevel : LogLevel := .info
  /-- The options that have been read, in order. -/
  used : List Parameter := []
  /-- An option whose value is not read yet, and the value if there is one. -/
  pending : Option (Parameter × Option String) := none

/-- Marks an option as read. -/
def Progress.use (p : Parameter) (s : Progress) : Except Instead Progress :=
  if s.used.contains p then .error (.refuse (.repeated p))
  else .ok { s with used := s.used ++ [p] }

/-- Reads the value of an option. -/
def Progress.setValue (p : Parameter) (value : String) (s : Progress) :
    Except Instead Progress := do
  let s ← s.use p
  let invalid (reason : String) : Instead := .refuse (.invalidValue p value reason)
  match p with
  | .run =>
    if value.isEmpty then .error (.refuse (.missingValue p))
    return { s with program := some value }
  | .context =>
    let contextLines ← (number value).mapError invalid
    return { s with config := { s.config with contextLines } }
  | .logLevel =>
    match LogLevel.ofText? value with
    | some logLevel => return { s with logLevel }
    | none =>
      .error (invalid ("error parsing level: expected one of \"error\", \"warn\", \"info\", " ++
        "\"debug\", \"trace\", or a number 1-5"))
  | _ => return s

/-- Reads the value that is pending. -/
def Progress.settle (s : Progress) : Except Instead Progress :=
  match s.pending with
  | none => .ok s
  | some (p, none) => .error (.refuse (.missingValue p))
  | some (p, some value) => { s with pending := none }.setValue p value

/-- Reads an option, with the value that is attached to it. -/
def Progress.option (p : Parameter) (attached : Option String) (s : Progress) :
    Except Instead Progress := do
  match p.takesValue, attached with
  | true, some value => (← s.settle).setValue p value
  | true, none => return { (← s.settle) with pending := some (p, none) }
  | false, some value => .error (.refuse (.unexpectedValue p value s.used.isEmpty))
  | false, none =>
    let s ← s.settle
    match p with
    | .help => .error .showHelp
    | .version => .error .showVersion
    | _ => return { (← s.use p) with config := { s.config with onExit := .detach } }

/-- Reads letters that each are an option; what follows an option with a value
    is that value. -/
def Progress.letters (s : Progress) : List Char → Except Instead Progress
  | [] => .ok s
  | c :: cs =>
    match Parameter.ofShort? c with
    | none => .ok s
    | some p =>
      if p.takesValue then s.option p (if cs.isEmpty then none else some (String.ofList cs))
      else do (← s.option p none).letters cs

/-- The option that a word is, with the value attached to it. -/
def longOption? (word : List Char) : Option (Parameter × Option String) :=
  match word with
  | '-' :: '-' :: cs =>
    (Parameter.ofLong? (String.ofList (cs.takeWhile (· ≠ '=')))).map fun p =>
      (p, match cs.dropWhile (· ≠ '=') with
        | [] => none
        | _ :: value => some (String.ofList value))
  | _ => none

/-- The letters of a word that are all options. -/
def shortOptions? (word : List Char) : Option (List Char) :=
  match word with
  | '-' :: c :: cs =>
    if (c :: cs).all fun c => (Parameter.ofShort? c).isSome then some (c :: cs) else none
  | _ => none

/-! ## The whole line -/

/-- The settings, once all options are read. -/
def Progress.finish (s : Progress) (arguments : List String) : Except Instead Settings := do
  let s ← s.settle
  match s.program with
  | some program => return { program, arguments, config := s.config, logLevel := s.logLevel }
  | none => .error (.refuse (.missingProgram s.used (!arguments.isEmpty)))

/-- Reads the words of a command line. -/
def Progress.words (s : Progress) : List String → Except Instead Settings
  | [] => s.finish []
  | word :: rest =>
    if word = "--" then s.finish rest
    else
      match longOption? word.toList with
      | some (p, attached) => do (← s.option p attached).words rest
      | none =>
        match shortOptions? word.toList with
        | some cs => do (← s.letters cs).words rest
        | none =>
          match s.pending with
          | some (p, none) => { s with pending := some (p, some word) }.words rest
          | _ => s.finish (word :: rest)

/-- Reads a command line, without the name of the program. -/
def parse (arguments : List String) : Except Instead Settings :=
  ({} : Progress).words arguments

end CommandLine

end SourceDebugger
