/-
  What keeps an instruction from being executed, and the signal that the kernel
  makes of it.
-/
import SourceDebugger.StopEvent

namespace SourceDebugger.Machine

inductive Fault where
  /-- An access to an address without memory. -/
  | unmapped
  /-- An access that the memory does not permit. -/
  | forbidden
  /-- An access to a page that lies behind the end of its file. -/
  | beyondFile
  /-- A privileged instruction, or an address that is not canonical. -/
  | protection
  /-- An address of the stack that is not canonical. -/
  | stack
  /-- An access that has to be aligned, and is not. -/
  | misaligned
  /-- A division by zero, or a quotient that is too large. -/
  | division
  /-- An event in a computation with floating-point numbers that is to stop the
      program, by the code of the signal. -/
  | floating (code : Int)
  /-- Bytes that are no instruction. -/
  | undefined
  deriving DecidableEq

namespace Fault

/-- The signal of a fault, and its code. -/
def report : Fault → Report
  | unmapped => .signal .sigsegv unmappedCode
  | forbidden => .signal .sigsegv 2
  | beyondFile => .signal .sigbus 2
  | protection => .signal .sigsegv kernelCode
  | stack => .signal .sigbus kernelCode
  | misaligned => .signal .sigbus 1
  | division => .signal .sigfpe 1
  | floating code => .signal .sigfpe code
  | undefined => .signal .sigill 2

end Fault

end SourceDebugger.Machine
