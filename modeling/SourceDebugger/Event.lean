/-
  What can be observed of a session while it runs, in the order in which it
  happens: log lines, source windows that are to be shown, feedback that is
  reported, and what the debuggee writes.
-/
import SourceDebugger.Feedback

namespace SourceDebugger

/-- How important a log line is. -/
inductive LogLevel where
  | trace
  | debug
  | info
  | warn
  | error
  deriving DecidableEq

namespace LogLevel

def name : LogLevel → String
  | trace => "TRACE"
  | debug => "DEBUG"
  | info => "INFO"
  | warn => "WARN"
  | error => "ERROR"

/-- Higher levels are more important. -/
def rank : LogLevel → Nat
  | trace => 0
  | debug => 1
  | info => 2
  | warn => 3
  | error => 4

end LogLevel

/-- The part of the debugger that writes a log line. -/
inductive LogSource where
  | program
  | breakpoint
  | debugInfo
  | debuggee
  | engine
  | expression
  | resolver
  | target
  | terminal
  deriving DecidableEq

/-- The name under which a part appears in the log. -/
def LogSource.name : LogSource → String
  | program => "ptdbg"
  | breakpoint => "ptdbg::breakpoint"
  | debugInfo => "ptdbg::dbginfo"
  | debuggee => "ptdbg::debuggee"
  | engine => "ptdbg::debugger"
  | expression => "ptdbg::expr"
  | resolver => "ptdbg::resolver"
  | target => "ptdbg::target"
  | terminal => "ptdbg::ui::cli"

structure LogLine where
  level : LogLevel
  source : LogSource
  message : String
  deriving DecidableEq

/-- A place in a source file that is to be shown with lines around it. -/
structure ShownLine where
  file : String
  line : UInt64
  context : UInt64
  deriving DecidableEq

inductive Event where
  | log (line : LogLine)
  | window (shown : ShownLine)
  | report (feedback : Feedback)
  /-- Bytes that the debuggee writes to its standard output (1) or error (2). -/
  | output (stream : Nat) (bytes : List UInt8)
  deriving DecidableEq

namespace Event

def logLine? : Event → Option LogLine
  | log line => some line
  | _ => none

def window? : Event → Option ShownLine
  | window shown => some shown
  | _ => none

def report? : Event → Option Feedback
  | report feedback => some feedback
  | _ => none

end Event

end SourceDebugger
