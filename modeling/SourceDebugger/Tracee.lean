/-
  The requests a debugger can make of a process it traces.  Each may fail and
  leaves a tracee either way; only the process id and the path of the
  executable can always be asked for.  All but `wait` need the process to be
  stopped, which the debugger sees to.
-/
import SourceDebugger.Action
import SourceDebugger.MemoryMap

namespace SourceDebugger

/-- A traced process. -/
class Tracee (τ : Type) where
  pid : τ → Nat
  /-- The executable the process was started from. -/
  executable? : τ → Option String
  readWord (addr : Addr) : Action τ Word
  writeWord (addr : Addr) (value : Word) : Action τ Unit
  readRegister (reg : Register) : Action τ UInt64
  writeRegister (reg : Register) (value : UInt64) : Action τ Unit
  /-- Lets the process run until its next stop, without waiting for it. -/
  resume : Action τ Unit
  /-- Lets the process execute one instruction, without waiting for it. -/
  step : Action τ Unit
  /-- Waits until the process changes state. -/
  wait : Action τ Report
  memoryMap : Action τ MemoryMap
  kill : Action τ Unit
  detach : Action τ Unit

end SourceDebugger
