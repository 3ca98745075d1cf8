/-
  The parameters of the command line: what they are called, how they are
  described, and the texts that explain how the program is used.

  * `Parameter` are the options; behind them stand the arguments of the
    debuggee;
  * `CommandLine.help` lists them, `CommandLine.usage` is the line that error
    messages show.
-/
import SourceDebugger.Text.Numeral

namespace SourceDebugger

/-- An option of the command line. -/
inductive Parameter where
  | run
  | context
  | detachOnExit
  | logLevel
  | help
  | version
  deriving DecidableEq

namespace Parameter

/-- All options, in the order in which they are listed. -/
def all : List Parameter := [run, context, detachOnExit, logLevel, help, version]

/-- The name behind two dashes. -/
def long : Parameter → String
  | run => "run"
  | context => "context"
  | detachOnExit => "detach-on-exit"
  | logLevel => "log-level"
  | help => "help"
  | version => "version"

/-- The letter behind one dash. -/
def short? : Parameter → Option Char
  | run => some 'r'
  | context => some 'c'
  | help => some 'h'
  | version => some 'V'
  | _ => none

/-- What stands for the value of an option that has one. -/
def valueName? : Parameter → Option String
  | run => some "RUN"
  | context => some "CONTEXT"
  | logLevel => some "LOG_LEVEL"
  | _ => none

def takesValue (p : Parameter) : Bool := p.valueName?.isSome

def description : Parameter → String
  | run => "The program to launch as debuggee"
  | context => "Lines of source shown above and below the current line [default: 2]"
  | detachOnExit => "Detach from the debuggee on exit instead of killing it"
  | logLevel => "Maximum level of log messages [default: info]"
  | help => "Print help"
  | version => "Print version"

/-- An option as messages show it. -/
def text (p : Parameter) : String :=
  "--" ++ p.long ++
    match p.valueName? with
    | some name => " <" ++ name ++ ">"
    | none => ""

def ofLong? (name : String) : Option Parameter := all.find? (·.long == name)

def ofShort? (c : Char) : Option Parameter := all.find? (·.short? == some c)

/-- An option in the list of options. -/
def listed (p : Parameter) : String :=
  match p.short? with
  | some c => String.ofList ['-', c] ++ ", " ++ p.text
  | none => "    " ++ p.text

end Parameter

namespace CommandLine

/-- The name of the program. -/
def programName : String := "ptdbg"

def versionText : String := programName ++ " 0.1.0\n"

/-! ## Usage -/

/-- The usage that names the options given, and the arguments if there are
    any. -/
def usage (options : List String) (hasArguments : Bool) : String :=
  "Usage: " ++ " ".intercalate (programName :: options ++
    [if hasArguments then "<ARGS>..." else "[ARGS]..."])

def fullUsage : String := usage ["[OPTIONS]", Parameter.run.text] false

/-- All that belongs to a run, as alternatives. -/
def alternatives : String :=
  "<" ++ "|".intercalate [Parameter.run.text, "ARGS", Parameter.context.text,
    Parameter.detachOnExit.text, Parameter.logLevel.text] ++ ">"

/-- The width of the column of options. -/
def listWidth : Nat := (Parameter.all.map fun p => p.listed.length).foldl max 0

def help : String :=
  "A source-level ptrace debugger for native Linux x86_64 programs\n\n" ++ fullUsage ++
    "\n\nArguments:\n  [ARGS]...  Arguments passed to the debuggee\n\nOptions:\n" ++
    String.join (Parameter.all.map fun p =>
      "  " ++ Numeral.padRight listWidth p.listed ++ "  " ++ p.description ++ "\n")

end CommandLine

end SourceDebugger
