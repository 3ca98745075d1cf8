/-
  What a command gives back, and how it is worded: nothing, a text, a word,
  registers one in a line, a stop, the address of a breakpoint, symbols one in
  a line with readable names, or a failure.
-/
import SourceDebugger.DebugInfo
import SourceDebugger.Failure
import SourceDebugger.Register
import SourceDebugger.StopEvent
import SourceDebugger.Text.Demangle

namespace SourceDebugger

/-- The result of a command. -/
inductive Feedback where
  | ok
  | text (text : String)
  | word (word : Word)
  | registers (values : List (Register × UInt64))
  | stopped (event : StopEvent)
  | breakpointSet (addr : Addr)
  | symbols (found : List Symbol)
  | failed (failure : Failure)
  deriving DecidableEq

namespace Feedback

/-- A register in eight columns and its value. -/
def renderRegister (r : Register × UInt64) : String :=
  Numeral.padRight 8 r.1.name ++ " " ++ Word.padded r.2

/-- A symbol: readable name, kind, address. -/
def renderSymbol (s : Symbol) : String :=
  Demangle.readable s.name ++ " " ++ s.kind.name ++ " " ++ s.addr.brief

def message : Feedback → String
  | ok => "Ok"
  | text t => t
  | word w => w.padded
  | registers values => "\n".intercalate (values.map renderRegister)
  | stopped event => event.message
  | breakpointSet a => "Set breakpoint at address " ++ a.brief
  | symbols [] => "No symbols found"
  | symbols found => "\n".intercalate (found.map renderSymbol)
  | failed e => "Error: " ++ e.message

/-- The feedback of a command that may have failed. -/
def ofResult : Except Failure Feedback → Feedback
  | .ok f => f
  | .error e => failed e

end Feedback

end SourceDebugger
