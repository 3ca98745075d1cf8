/-
  What happens to a running process.

  * `Report` is what the kernel says when the process changes state;
  * `StopEvent` is what the debugger makes of it: one of its breakpoints fired,
    a step is finished, the process got a signal or is gone.
-/
import SourceDebugger.Address
import SourceDebugger.Errno

namespace SourceDebugger

/-- How the kernel reports that a process changed state. -/
inductive Report where
  /-- Stopped by a signal, with the code of its siginfo. -/
  | signal (signal : Signal) (code : Int)
  | exited (code : Int)
  | killed (signal : Signal)
  deriving DecidableEq

/-! ## Codes of signals -/

/-- Sent by a process. -/
def Report.sentCode : Int := 0

/-- Sent by the kernel. -/
def kernelCode : Int := 0x80

/-- A trap instruction was executed. -/
def breakpointCode : Int := 1

/-- A single step is finished. -/
def traceCode : Int := 2

/-- The address of a faulting access is not mapped. -/
def unmappedCode : Int := 1

/-! ## Events -/

/-- Why the debuggee stopped. -/
inductive StopEvent where
  /-- A breakpoint fired, and the program counter was moved back onto it. -/
  | hitBreakpoint (addr : Addr)
  | stepped
  /-- A segmentation fault.  The process stays attached. -/
  | crashed (code : Int)
  /-- A trap that is neither a finished step nor one of the breakpoints. -/
  | otherTrap (code : Int)
  | otherSignal (signal : Signal)
  | exited (code : Int)
  | killed (signal : Signal)
  deriving DecidableEq

namespace StopEvent

def message : StopEvent → String
  | hitBreakpoint a => "Hit breakpoint at address " ++ a.brief
  | stepped => "Stepped"
  | crashed code => "Segmentation fault, reason: " ++ toString code
  | otherTrap code => "Trapped with SIGTRAP code " ++ toString code
  | otherSignal s => "Got signal " ++ s.name
  | exited code => "Debuggee exited with code " ++ toString code
  | killed s => "Debuggee was killed by " ++ s.name

/-- The process is gone. -/
def isTerminal : StopEvent → Bool
  | exited _ | killed _ => true
  | _ => false

end StopEvent

end SourceDebugger
