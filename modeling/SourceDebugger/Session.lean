/-
  A debugging session: the debuggee, what is known about its program, and the
  settings.  Operations on source lines are built from the instruction level
  control of the debuggee, and every operation that moves it shows where it
  is.

  * `attach` begins a session with a stopped tracee;
  * `stepIn` steps to another source line, `stepOver` to the next line of the
    function or its caller, `stepOut` to the caller;
  * `execute` runs a command, `handle` reads and runs one, `run` serves
    replies until one is `quit`;
  * `cleanup` kills or detaches a debuggee that is still there, `cleanupIn` does so
    with the breakpoints in any order.
-/
import SourceDebugger.Command
import SourceDebugger.Debuggee
import SourceDebugger.Resolver.Queries

namespace SourceDebugger

/-- What to do with a debuggee that is still alive at the end. -/
inductive ShutdownPolicy where
  | kill
  /-- Removes all breakpoints and lets the debuggee run on. -/
  | detach
  deriving DecidableEq

structure Config where
  /-- Lines of source shown above and below the current line. -/
  contextLines : UInt64 := 2
  onExit : ShutdownPolicy := .kill
  deriving DecidableEq

structure Session (τ : Type) where
  debuggee : Debuggee τ
  resolver : Resolver
  config : Config

namespace Session

variable {τ : Type} [Tracee τ] {α : Type}

/-! ## Beginning a session -/

/-- Lets go of a tracee that never became a session. -/
def release (policy : ShutdownPolicy) : Action τ Unit := do
  let letGo := match policy with
    | .kill => Tracee.kill
    | .detach => Tracee.detach
  match ← letGo.attempt with
  | .ok () => pure ()
  | .error e => .log .warn .engine ("could not release the debuggee: " ++ e.message)

/-- The address at which the program of a tracee was loaded. -/
def findLoadAddress (info : DebugInfo) (config : Config) : Action τ Addr := do
  if info.positionIndependent then
    match ← Tracee.memoryMap.attempt with
    | .error e =>
      .log .error .engine ("could not read the memory map of the debuggee: " ++ e.message)
      release config.onExit
      .fail e
    | .ok map =>
      match map.loadAddress? (← .inspect Tracee.executable?) with
      | some a => return a
      | none =>
        .log .warn .engine
          "the memory map of the debuggee is empty, assuming it is not relocated"
        return 0
  else
    return 0

/-- Begins a session with a stopped tracee.  If the load address of a program
    that the loader moves cannot be found, the tracee is let go. -/
def attach (info : DebugInfo) (config : Config) : Action τ (Session τ) := do
  let loadAddress ← findLoadAddress info config
  let pid ← .inspect Tracee.pid
  .log .info .engine
    ("attached to process " ++ Numeral.decimal pid ++ ", load address is " ++
      loadAddress.padded)
  .inspect fun tracee => ⟨{ tracee }, ⟨info, loadAddress⟩, config⟩

/-! ## Parts of a session -/

/-- Acts on the debuggee. -/
def onDebuggee (act : Action (Debuggee τ) α) : Action (Session τ) α :=
  act.within (·.debuggee) fun d s => { s with debuggee := d }

/-- Asks the resolver. -/
def ask (query : Resolver → Action (Session τ) α) : Action (Session τ) α := fun s =>
  query s.resolver s

/-- The line entry for the program counter, if there is one. -/
def currentLine : Action (Session τ) (Option LineEntry) := do
  let here ← onDebuggee Debuggee.pc
  match ← (ask fun r => r.lineEntry (r.toStatic here)).attempt with
  | .ok entry => return some entry
  | .error _ => return none

/-- Shows the source around the place where the debuggee is stopped. -/
def presentLocation : Action (Session τ) Unit := do
  if (← .inspect (·.debuggee.isAlive)) then
    match ← currentLine with
    | some entry =>
      let context ← .inspect (·.config.contextLines)
      .tell (.window ⟨entry.location.file, entry.location.line, context⟩)
    | none => .log .debug .engine "no source information for the current location"

/-! ## Breakpoints, memory, registers -/

/-- The runtime address of a place. -/
def locate : Place → Action (Session τ) Addr
  | .address a => pure a
  | .line file line => ask fun r => r.addressForLine file line
  | .function name => ask fun r => r.addressForFunction name

/-- Installs a breakpoint and gives its address. -/
def setBreakpoint (place : Place) : Action (Session τ) Addr := do
  let a ← locate place
  let _ ← onDebuggee (Debuggee.setBreakpoint a)
  return a

def removeBreakpoint (a : Addr) : Action (Session τ) Unit :=
  onDebuggee (Debuggee.removeBreakpoint a)

/-- Reads a word, or some bytes of it. -/
def readMemory (a : Addr) (size : Option UInt64) : Action (Session τ) Word :=
  match size with
  | none => onDebuggee (Debuggee.readMemory a)
  | some n => onDebuggee (Debuggee.readSized a n)

def writeMemory (a : Addr) (value : Word) : Action (Session τ) Unit :=
  onDebuggee (Debuggee.writeMemory a value)

def writeRegister (reg : Register) (value : UInt64) : Action (Session τ) Unit := do
  onDebuggee (Debuggee.writeRegister reg value)
  if reg = .rip then presentLocation

def symbols (name : String) : Action (Session τ) (List Symbol) :=
  .inspect fun s => s.resolver.symbolsNamed name

def maps : Action (Session τ) MemoryMap := onDebuggee (Debuggee.requestAlive Tracee.memoryMap)

def kill : Action (Session τ) Unit := onDebuggee Debuggee.kill

/-! ## Moving the debuggee -/

/-- Runs until the next breakpoint, signal or exit. -/
def continueExecution : Action (Session τ) StopEvent := do
  let event ← onDebuggee Debuggee.continueExecution
  presentLocation
  return event

/-- Executes one instruction. -/
def stepInstruction : Action (Session τ) StopEvent := do
  let event ← onDebuggee Debuggee.stepInstruction
  presentLocation
  return event

/-- Steps until the source location differs from `start`, at most `limit`
    instructions. -/
def stepFrom (start : Option SourceLocation) : Nat → Action (Session τ) StopEvent
  | 0 => do
    presentLocation
    return .stepped
  | limit + 1 => do
    let event ← onDebuggee Debuggee.stepInstruction
    if event ≠ .stepped then
      presentLocation
      return event
    else
      match ← currentLine with
      | some here =>
        if start.any (·.same here.location) then stepFrom start limit
        else
          presentLocation
          return .stepped
      | none => stepFrom start limit

/-- The number of addresses.  Where the next instruction depends on the address
    alone, a step that does not end within so many instructions goes round in
    circles. -/
def stepLimit : Nat := UInt64.size

/-- Steps instructions until the debuggee is on another source line.  Code
    without line information is stepped through, and any stop other than a
    finished step ends the operation. -/
def stepIn : Action (Session τ) StopEvent := do
  let start := (← currentLine).map (·.location)
  let shown := match start with
    | some location => "Some(" ++ location.describe ++ ")"
    | none => "None"
  .log .debug .engine ("step in from " ++ shown)
  stepFrom start stepLimit

/-- The distance between the saved frame pointer and the return address. -/
def returnAddressOffset : UInt64 := 8

/-- The return address of the current frame, above the saved frame pointer. -/
def returnAddress : Action (Session τ) Addr := do
  let frame ← onDebuggee (Debuggee.readDwarfRegister Register.framePointerNumber)
  match Addr.checkedAdd frame returnAddressOffset with
  | none => .fail (.memoryAccess frame .efault)
  | some slot =>
    let a ← onDebuggee (Debuggee.readSized slot 8)
    .log .trace .engine
      ("return address of the frame at " ++ Addr.padded frame ++ ": " ++ Addr.brief a)
    return a

/-- Sets breakpoints where there are none; the result adds their addresses to
    `added`, also if one cannot be set. -/
def addTemporary (added : List Addr) :
    List Addr → Action (Session τ) (List Addr × Except Failure Unit)
  | [] => pure (added, .ok ())
  | a :: stops => do
    if (← .inspect (·.debuggee.breakpoints.contains a)) then
      addTemporary added stops
    else
      match ← (onDebuggee (Debuggee.setBreakpoint a)).attempt with
      | .ok true => addTemporary (added ++ [a]) stops
      | .ok false => addTemporary added stops
      | .error e => return (added, .error e)

/-- Removes breakpoints, up to the first that cannot be removed. -/
def removeEach : List Addr → Action (Session τ) Unit
  | [] => pure ()
  | a :: addrs => do
    onDebuggee (Debuggee.removeBreakpoint a)
    removeEach addrs

/-- Removes the breakpoints of `addTemporary`, if the debuggee is there. -/
def removeTemporary (added : List Addr) : Action (Session τ) Unit := do
  if (← .inspect (·.debuggee.isAlive)) then
    removeEach added
    .log .trace .engine
      ("removed " ++ Numeral.decimal added.length ++ " temporary breakpoints")

/-- Runs to one of `stops` or to any other stop before.  Only the breakpoints
    set for it are removed again, also if running fails. -/
def runTo (stops : List Addr) : Action (Session τ) StopEvent := do
  let (added, ready) ← addTemporary [] stops
  let result ← match ready with
    | .ok () => (onDebuggee Debuggee.continueExecution).attempt
    | .error e => pure (.error e)
  let removed ← (removeTemporary added).attempt
  let event ← .ofExcept result
  .ofExcept removed
  presentLocation
  match event with
  | .hitBreakpoint a => return if a ∈ added then .stepped else event
  | _ => return event

/-- Runs to the next line of the current function, or to the caller if it
    returns first: to any row of the function but the current one, or to the
    return address. -/
def stepOver : Action (Session τ) StopEvent := do
  let here ← onDebuggee Debuggee.pc
  let static ← .inspect fun s => s.resolver.toStatic here
  let f ← ask (·.functionContaining static)
  let start ← ask (·.lineEntry static)
  let rows ← ask (·.functionLines f)
  let others := rows.filter fun e => e.address != start.address
  let targets ← .inspect fun s => others.map fun e => s.resolver.toRuntime e.address
  let stops := targets ++ [← returnAddress]
  .log .debug .engine
    ("step over from " ++ here.padded ++ ", " ++ Numeral.decimal stops.length ++
      " candidate stops")
  runTo stops

/-- Runs until the current function returns. -/
def stepOut : Action (Session τ) StopEvent := do
  let a ← returnAddress
  .log .debug .engine ("step out to " ++ a.padded)
  runTo [a]

/-! ## Summary -/

/-- Where the program counter is: source location or mapped file. -/
def describePlace : Action (Session τ) String := do
  let here ← onDebuggee Debuggee.pc
  match ← currentLine with
  | some entry => return here.padded ++ " at " ++ entry.location.render
  | none =>
    match (← maps).regionOf? here |>.bind (·.path) with
    | some path => return here.padded ++ " in " ++ path
    | none => return here.padded

def describeBreakpoint (b : Breakpoint) : String :=
  "\n  " ++ b.addr.padded ++ (if b.isEnabled then " enabled" else " disabled")

/-- Process, state, load address, location and breakpoints. -/
def info : Action (Session τ) String := do
  let s ← .inspect id
  let t := s.debuggee.tracee
  let front :=
    "process:      " ++ Numeral.decimal (Tracee.pid t) ++ " (" ++
      (Tracee.executable? t).getD "<unknown>" ++ ")\nstate:        " ++
      s.debuggee.state.name ++ "\nload address: " ++ s.resolver.loadAddress.padded ++ "\n"
  let place ←
    if s.debuggee.isAlive then
      pure ("pc:           " ++ (← describePlace) ++ "\n")
    else pure ""
  let bps := s.debuggee.breakpoints.toList
  return front ++ place ++ "breakpoints:  " ++ Numeral.decimal bps.length ++
    String.join (bps.map describeBreakpoint)

/-! ## Commands -/

/-- Runs a command. -/
def execute (command : Command) : Action (Session τ) Feedback := do
  .log .trace .engine ("executing " ++ command.describe)
  match command with
  | .continue => return .stopped (← continueExecution)
  | .setBreakpoint place => return .breakpointSet (← setBreakpoint place)
  | .deleteBreakpoint a => do
    removeBreakpoint a
    return .ok
  | .dumpRegisters => return .registers (← onDebuggee (Debuggee.readRegisters Register.all))
  | .readRegister reg => return .word (← onDebuggee (Debuggee.readRegister reg))
  | .writeRegister reg value => do
    writeRegister reg value
    return .ok
  | .readMemory a size => return .word (← readMemory a size)
  | .writeMemory a value => do
    writeMemory a value
    return .ok
  | .stepIn => return .stopped (← stepIn)
  | .stepInstruction => return .stopped (← stepInstruction)
  | .stepOver => return .stopped (← stepOver)
  | .stepOut => return .stopped (← stepOut)
  | .findSymbols name => return .symbols (← symbols name)
  | .info => return .text (← info)
  | .maps => return .text (← maps).render
  | .kill => do
    kill
    return .ok
  | .quit => return .ok

/-- Reads and runs a command; what goes wrong becomes feedback. -/
def handle (words : List String) : Action (Session τ) Feedback := do
  let served : Action (Session τ) Feedback := do
    execute (← .ofExcept (Command.ofWords words))
  return Feedback.ofResult (← served.attempt)

/-- Kills or detaches a debuggee that is still alive.  Before it is detached, its
    breakpoints are disabled in the given order. -/
def cleanupIn (order : List Addr) : Action (Session τ) Unit := do
  if (← .inspect (·.debuggee.isAlive)) then
    match ← .inspect (·.config.onExit) with
    | .kill => onDebuggee Debuggee.kill
    | .detach => do
      .log .info .engine "detaching from the debuggee"
      onDebuggee (Debuggee.detachIn order)

/-- Kills or detaches a debuggee that is still alive. -/
def cleanup : Action (Session τ) Unit := do
  cleanupIn (← .inspect (·.debuggee.breakpoints.addresses))

/-! ## The command loop -/

/-- What the user gives when asked for a command. -/
inductive Reply where
  | words (words : List String)
  | failed (failure : Failure)

/-- The end of a command loop: how it ended, and what was not read. -/
structure Hearing where
  result : Except Failure Unit
  unread : List Reply

/-- The user has nothing more to say. -/
def leave : Action (Session τ) Unit := .log .info .engine "leaving the command loop"

/-- Serves a reply.  The command loop ends with the result, if there is one:
    neither a malformed nor a failing command ends it. -/
def serve : Reply → Action (Session τ) (Option (Except Failure Unit))
  | .failed e => return some (.error e)
  | .words words => do
    match Command.ofWords words with
    | .ok .quit => do
      leave
      return some (.ok ())
    | .ok command => do
      let feedback := Feedback.ofResult (← (execute command).attempt)
      .tell (.report feedback)
      return none
    | .error e => do
      .tell (.report (.failed e))
      return none

/-- Serves replies in turn until one ends the loop or there are no more. -/
def run : List Reply → Action (Session τ) Hearing
  | [] => do
    leave
    return ⟨.ok (), []⟩
  | reply :: replies => do
    match ← serve reply with
    | some result => return ⟨result, replies⟩
    | none => run replies

end Session

end SourceDebugger
