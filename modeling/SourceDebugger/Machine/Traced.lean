/-
  Tracing a process: the requests that a debugger makes of the kernel.

  * `Child.launch` starts a program as a traced process, stopped at its first
    instruction;
  * the instance of `Tracee` answers requests.  A process that is gone refuses
    them all.
-/
import SourceDebugger.Launch
import SourceDebugger.Machine.Running
import SourceDebugger.Tracee

namespace SourceDebugger.Machine.Child

variable {σ α : Type}

/-! ## Launching -/

/-- The process of a program that has just been started, if its segments have a
    place. -/
def ofImage? (files : FileTree) (pid : Nat) (image : Image) (arguments : List String) :
    Option Child := do
  let thread ← image.start? (image.path.toUTF8.toList :: arguments.map (·.toUTF8.toList))
  return .ofProgram pid files image (thread.set .orig_rax 59)

/-- Starts a program.  It says itself why it cannot be executed. -/
def launch (files : FileTree) (pid : Nat) (program : String) (arguments : List String) :
    Action σ Child := do
  let path ← Launch.locate files program
  .log .info .target ("started debuggee " ++ path ++ " as pid " ++ Numeral.decimal pid)
  match Image.load files path with
  | .ok image =>
    match ofImage? files pid image arguments with
    | some p => do
      .log .debug .target "debuggee is stopped at its first instruction"
      return p
    | none =>
      .fail (.unexpectedWaitStatus
        ("Stopped(Pid(" ++ Numeral.decimal pid ++ "), " ++ Signal.sigsegv.name ++ ")"))
  | .error e => do
    let reason := "could not exec the debuggee: " ++ (Failure.processAccess e).message ++ "\n"
    .tell (.output 2 reason.toUTF8.toList)
    .log .error .target "debuggee ended before it could be traced"
    .fail .processExited

/-! ## Requests -/

/-- What the process has written is read. -/
def deliver : Action Child Unit := fun p =>
  ⟨.ok (), { p with output := [] }, p.output.map fun (stream, bs) => .output stream bs⟩

/-- A request to a process that is gone fails. -/
def ensureAlive (e : Failure) : Action Child Unit := fun p =>
  ⟨if p.isAlive then .ok () else .error e, p, []⟩

def requestAlive (act : Action Child α) : Action Child α := do
  ensureAlive (.processAccess .esrch)
  act

/-- The word at an address, whatever the process itself may do there. -/
def readWord (a : Addr) : Action Child Word := do
  ensureAlive (.memoryAccess a .esrch)
  match ← .inspect (·.thread.memory.word? a) with
  | none => .fail (.memoryAccess a .eio)
  | some w => do
    .log .trace .target ("read " ++ w.padded ++ " at " ++ a.padded)
    return w

def writeWord (a : Addr) (w : Word) : Action Child Unit := do
  .log .trace .target ("write " ++ w.padded ++ " at " ++ a.padded)
  ensureAlive (.memoryAccess a .esrch)
  match ← .inspect (·.thread.memory.word? a) with
  | none => .fail (.memoryAccess a .eio)
  | some _ =>
    .modify fun p =>
      { p with thread := { p.thread with memory := p.thread.memory.put a w.bytes } }

/-- The flags that may be changed. -/
def changeableFlags : UInt64 := 0x54dd5

/-- Sets the flags.  A trap flag that is set by hand is not hidden any more; a
    hidden one stays set. -/
def setFlags (p : Child) (value : UInt64) : Child :=
  let setsTrap := value &&& Flag.trap.mask ≠ 0
  let hidesTrap := p.hidesTrap && !setsTrap
  let value := if hidesTrap then value ||| Flag.trap.mask else value
  let old := p.get .eflags
  { p.setRegister .eflags ((old &&& ~~~ changeableFlags) ||| (value &&& changeableFlags)) with
    hidesTrap }

/-- A register as a debugger sees it. -/
def register (p : Child) (r : Register) : UInt64 :=
  if r = .eflags ∧ p.hidesTrap then p.get r &&& ~~~ Flag.trap.mask else p.get r

/-- The value a register gets that is to be set, if it may have that value.
    The code and stack segments cannot be empty, and segments are those of user
    programs. -/
def settable? (r : Register) (value : UInt64) : Option UInt64 :=
  match r with
  | .cs | .ss =>
    let value := value &&& 0xffff
    if value &&& 3 = 3 then some value else none
  | .ds | .es | .fs | .gs =>
    let value := value &&& 0xffff
    if value = 0 ∨ value &&& 3 = 3 then some value else none
  | .fs_base | .gs_base => if value.toNat < userTop then some value else none
  | _ => some value

def writeRegister (r : Register) (value : UInt64) : Action Child Unit :=
  requestAlive do
    if r = .eflags then .modify (·.setFlags value)
    else match settable? r value with
      | some value => .modify (·.setRegister r value)
      | none => .fail (.processAccess .eio)

/-- Runs the process in some way, and reads what it writes. -/
def running (f : Child → Child) : Action Child Unit :=
  requestAlive do
    .modify f
    deliver

/-- Takes the report that is waited for. -/
def takeReport : Action Child Report := do
  match ← .inspect (·.report) with
  | none => .fail (.processAccess .echild)
  | some report => do
    .modify ({ · with report := none })
    match report with
    | .signal signal _ =>
      if Signal.names.length < signal.number then .fail (.processAccess .einval)
      return report
    | _ => return report

/-- The regions of the process that a file backs, by address. -/
def memoryMap (p : Child) : MemoryMap :=
  ⟨(p.thread.memory.areas.map (·.region)).filter (·.path.isSome)⟩

def kill : Action Child Unit :=
  requestAlive do
    .modify finish
    .log .debug .target
      ("debuggee was killed: Signaled(Pid(" ++ Numeral.decimal (← .inspect (·.pid)) ++
        "), SIGKILL, false)")

def detach : Action Child Unit := do
  running fun p => { p.release with isAlive := false }
  .log .info .target ("detached from " ++ Numeral.decimal (← .inspect (·.pid)))

instance : Tracee Child where
  pid := Child.pid
  executable? p := some p.executable
  readWord
  writeWord
  readRegister r := requestAlive (.inspect (·.register r))
  writeRegister
  resume := running proceed
  step := running stepOnce
  wait := takeReport
  memoryMap := do
    ensureAlive (.io (.system .enoent))
    .inspect memoryMap
  kill
  detach

end SourceDebugger.Machine.Child
