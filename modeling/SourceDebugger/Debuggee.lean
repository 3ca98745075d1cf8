/-
  The traced process with its breakpoints.  The debuggee knows whether the
  process is stopped, running or gone, runs and steps it, and makes a
  `StopEvent` of what the kernel reports.

  * `setBreakpoint`, `removeBreakpoint` keep the table and the memory together;
  * `waitForStop` classifies a report; behind a trap of a breakpoint the
    program counter is moved back onto it;
  * `stepOverBreakpoint` executes the instruction under a breakpoint: the
    breakpoint is disabled for one step and enabled again, unless the process
    did not survive;
  * `continueExecution` runs to the next stop, `detachIn` restores all
    saved bytes and lets go of the process.
-/
import SourceDebugger.Breakpoint

namespace SourceDebugger

/-- Whether a process can be controlled. -/
inductive ProcessState where
  | stopped
  | running
  /-- Exited, killed or detached. -/
  | exited
  deriving DecidableEq

def ProcessState.name : ProcessState → String
  | stopped => "Stopped"
  | running => "Running"
  | exited => "Exited"

/-- A tracee, its breakpoints, and the state it is in. -/
structure Debuggee (τ : Type) where
  tracee : τ
  breakpoints : BreakpointTable := {}
  state : ProcessState := .stopped

namespace Debuggee

variable {τ : Type} [Tracee τ] {α : Type}

def isAlive (d : Debuggee τ) : Bool := d.state ≠ .exited

/-- Makes a request of the tracee. -/
def request (act : Action τ α) : Action (Debuggee τ) α :=
  act.within (·.tracee) fun t d => { d with tracee := t }

def ensureAlive : Action (Debuggee τ) Unit := fun d =>
  ⟨if d.isAlive then .ok () else .error .processExited, d, []⟩

/-- Makes a request of a process that is not gone. -/
def requestAlive (act : Action τ α) : Action (Debuggee τ) α := do
  ensureAlive
  request act

def setState (state : ProcessState) : Action (Debuggee τ) Unit :=
  .modify fun d => { d with state }

/-- The process is gone, and with it the memory that held the traps. -/
def markExited : Action (Debuggee τ) Unit :=
  .modify fun d => { d with state := .exited, breakpoints := .empty }

/-! ## Registers and memory -/

def readRegister (reg : Register) : Action (Debuggee τ) UInt64 :=
  requestAlive (Tracee.readRegister reg)

def writeRegister (reg : Register) (value : UInt64) : Action (Debuggee τ) Unit :=
  requestAlive (Tracee.writeRegister reg value)

/-- The program counter. -/
def pc : Action (Debuggee τ) Addr := readRegister .rip

def setPc (a : Addr) : Action (Debuggee τ) Unit := writeRegister .rip a

/-- The values of `regs`, up to the first that cannot be read. -/
def readRegisters : List Register → Action (Debuggee τ) (List (Register × UInt64))
  | [] => pure []
  | r :: regs => do
    let value ← readRegister r
    return (r, value) :: (← readRegisters regs)

/-- The register with a number of the debug information. -/
def readDwarfRegister (number : Nat) : Action (Debuggee τ) UInt64 :=
  match Register.ofDwarf? number with
  | some reg => readRegister reg
  | none => .fail (.unknownDwarfRegister number)

def readMemory (a : Addr) : Action (Debuggee τ) Word := requestAlive (Tracee.readWord a)

def writeMemory (a : Addr) (value : Word) : Action (Debuggee τ) Unit :=
  requestAlive (Tracee.writeWord a value)

/-- The bits that belong to a value of one, two, four or eight bytes. -/
def sizeMask? (size : UInt64) : Option UInt64 :=
  if size = 1 then some 0xff
  else if size = 2 then some 0xffff
  else if size = 4 then some 0xffffffff
  else if size = 8 then some 0xffffffffffffffff
  else none

/-- Reads `size` bytes at `a` as a little-endian number. -/
def readSized (a : Addr) (size : UInt64) : Action (Debuggee τ) UInt64 := do
  match sizeMask? size with
  | none => .fail (.unsupportedSize size)
  | some mask =>
    let value := (← readMemory a) &&& mask
    .log .trace .expression
      ("deref " ++ Numeral.decimal size.toNat ++ " bytes at " ++ a.brief ++ ": " ++
        Addr.brief value)
    return value

/-! ## Breakpoints -/

/-- Enables the breakpoint at `a`, if there is one. -/
def enableAt (a : Addr) : Action (Debuggee τ) Unit := do
  match ← .inspect (·.breakpoints.get? a) with
  | none => pure ()
  | some b =>
    let b ← request b.enable
    .modify fun d => { d with breakpoints := d.breakpoints.put b }

/-- Disables the breakpoint at `a`, if there is one. -/
def disableAt (a : Addr) : Action (Debuggee τ) Unit := do
  match ← .inspect (·.breakpoints.get? a) with
  | none => pure ()
  | some b =>
    let b ← request b.disable
    .modify fun d => { d with breakpoints := d.breakpoints.put b }

/-- Installs an enabled breakpoint at `a`.  The result is false, and the memory
    untouched, if there is an enabled one; a disabled one is enabled again. -/
def insertBreakpoint (a : Addr) : Action (Debuggee τ) Bool := do
  match ← .inspect (·.breakpoints.get? a) with
  | some b =>
    if !b.isEnabled then enableAt a
    .log .debug .breakpoint ("breakpoint at " ++ a.padded ++ " already exists")
    return false
  | none =>
    let b ← request (Breakpoint.enable ⟨a, none⟩)
    .modify fun d => { d with breakpoints := d.breakpoints.put b }
    return true

/-- Disables the breakpoint at `a` and forgets it.  An address without a
    breakpoint is passed over; a breakpoint whose byte cannot be restored
    stays. -/
def eraseBreakpoint (a : Addr) : Action (Debuggee τ) Unit := do
  match ← .inspect (·.breakpoints.get? a) with
  | none =>
    .log .warn .breakpoint
      ("removed a breakpoint at " ++ a.padded ++ " that did not exist")
  | some b =>
    if b.isEnabled then disableAt a
    .modify fun d => { d with breakpoints := d.breakpoints.erase a }

/-- Restores the saved bytes at those of `addrs` that have an enabled
    breakpoint, up to the first that cannot be restored. -/
def disableEach : List Addr → Action (Debuggee τ) Unit
  | [] => pure ()
  | a :: addrs => do
    if (← .inspect (·.breakpoints.isEnabledAt a)) then disableAt a
    disableEach addrs

/-- Restores all saved bytes. -/
def disableAll : Action (Debuggee τ) Unit := do
  disableEach (← .inspect (·.breakpoints.addresses))

/-- Installs a breakpoint, false if there already was one. -/
def setBreakpoint (a : Addr) : Action (Debuggee τ) Bool := do
  ensureAlive
  let added ← insertBreakpoint a
  if added then .log .info .debuggee ("set breakpoint at address " ++ a.brief)
  return added

def removeBreakpoint (a : Addr) : Action (Debuggee τ) Unit := do
  ensureAlive
  eraseBreakpoint a

/-! ## Stops -/

/-- What a trap means, by the code of its siginfo. -/
def classifyTrap (code : Int) : Action (Debuggee τ) StopEvent := do
  if code = kernelCode ∨ code = breakpointCode then
    let here := (← pc) - trapWidth
    if (← .inspect (·.breakpoints.contains here)) then
      setPc here
      return .hitBreakpoint here
    else
      .log .warn .debuggee
        ("the debuggee trapped at " ++ here.brief ++ ", but there is no breakpoint there")
      return .otherTrap code
  else if code = traceCode then
    return .stepped
  else
    .log .debug .debuggee ("unknown SIGTRAP code " ++ toString code)
    return .otherTrap code

/-- The event a report stands for. -/
def classify : Report → Action (Debuggee τ) StopEvent
  | .exited code => do
    markExited
    return .exited code
  | .killed signal => do
    markExited
    return .killed signal
  | .signal signal code => do
    setState .stopped
    if signal = .sigtrap then classifyTrap code
    else if signal = .sigsegv then return .crashed code
    else return .otherSignal signal

/-- Waits for the next change of state. -/
def waitForStop : Action (Debuggee τ) StopEvent := do
  let event ← classify (← request Tracee.wait)
  .log .debug .debuggee ("debuggee stopped: " ++ event.message)
  return event

/-! ## Execution -/

/-- Executes exactly one instruction, whatever breakpoints there are. -/
def singleStep : Action (Debuggee τ) StopEvent := do
  requestAlive Tracee.step
  setState .running
  waitForStop

/-- Executes the instruction under an enabled breakpoint at the program
    counter; without one there is nothing to step over. -/
def stepOverBreakpoint : Action (Debuggee τ) (Option StopEvent) := do
  let here ← pc
  if (← .inspect (·.breakpoints.isEnabledAt here)) then
    .log .trace .debuggee ("stepping over the breakpoint at " ++ here.brief)
    disableAt here
    let event ← singleStep.attempt
    if (← .inspect (·.isAlive)) then enableAt here
    return some (← .ofExcept event)
  else
    return none

/-- Executes one instruction, even if a breakpoint sits on it. -/
def stepInstruction : Action (Debuggee τ) StopEvent := do
  match ← stepOverBreakpoint with
  | some event => return event
  | none => singleStep

/-- Runs until the next breakpoint, signal or exit. -/
def continueExecution : Action (Debuggee τ) StopEvent := do
  ensureAlive
  match ← stepOverBreakpoint with
  | some .stepped | none =>
    request Tracee.resume
    setState .running
    waitForStop
  | some event => return event

def kill : Action (Debuggee τ) Unit := do
  requestAlive Tracee.kill
  .log .info .debuggee "killed the debuggee"
  markExited

/-- Restores the saved bytes in the order given and lets the process run on
    untraced. -/
def detachIn (order : List Addr) : Action (Debuggee τ) Unit := do
  ensureAlive
  disableEach order
  request Tracee.detach
  markExited

def detach : Action (Debuggee τ) Unit := do
  detachIn (← .inspect (·.breakpoints.addresses))

end Debuggee

end SourceDebugger
