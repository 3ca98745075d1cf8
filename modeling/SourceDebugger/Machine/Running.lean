/-
  How processes run, traced or not.

  * `Child.advance` executes one instruction and answers system calls; what
    changes the state of the process is a `Report`;
  * `Child.proceed` runs a traced process to its next report,
    `Child.stepOnce` for one instruction;
  * `Child.release` lets a process run untraced to its end: signals now have
    their default effect.

  A signal that a traced process gets stops it, and is gone when the process is
  resumed.  The time a process may run is limited: when its `budget` of
  instructions is used up, it gets `SIGXCPU`.
-/
import SourceDebugger.Machine.Execute
import SourceDebugger.Machine.SystemCall

namespace SourceDebugger.Machine.Child

def sigxcpu : Signal := ⟨24⟩

/-! ## Instructions -/

/-- The process stops because of something else than a system call. -/
def stopped (p : Child) (report : Report) : Option Report × Child :=
  let signals := match report with
    | .signal signal _ => p.signals.force signal
    | _ => p.signals
  (some report, { p.setRegister .orig_rax (-1) with signals })

/-- What comes behind a system call: a step ends there. -/
def afterCall : Option Report × Child → Option Report × Child
  | (none, p) =>
    (if p.isStepping then some (.signal .sigtrap breakpointCode) else none, p)
  | reported => reported

/-- Executes an instruction.  If the trap flag is set before it, the process
    stops behind it. -/
def advance (run : Child → Child) (p : Child) : Option Report × Child :=
  let traps := p.thread.flag .trap
  let p := { p with budget := p.budget - 1 }
  match p.thread.step with
  | .error fault => { p with thread := p.thread.faulted }.stopped fault.report
  | .ok (completion, thread) =>
    let p := { p with thread }
    match completion with
    | .done => if traps then p.stopped (.signal .sigtrap traceCode) else (none, p)
    | .joined => (none, p)
    | .trapped report => p.stopped report
    | .systemCall => afterCall (p.systemCall run)
    | .systemCall32 => afterCall (p.systemCall32 run)

/-- Gives a process a signal that was sent, or lets it execute an
    instruction. -/
def act (run : Child → Child) (p : Child) : Option Report × Child :=
  match p.signals.take? with
  | some (sent, signals) =>
    let p := { p with signals }
    if sent.signal = .sigkill then (some (.killed .sigkill), p.finish)
    else (some (.signal sent.signal sent.code), p)
  | none => p.advance run

/-! ## Without a debugger -/

/-- Runs an untraced process to its end.  A suspended one never ends. -/
def releaseFor : Nat → Child → Child
  | 0, p => p
  | n + 1, p =>
    let waits := !p.signals.sent.isEmpty
    match p.act (releaseFor n) with
    | (none, p) => releaseFor n p
    | (some (.signal signal _), p) =>
      if waits && p.signals.ignores signal then releaseFor n p
      else
        match SignalEffect.of signal with
        | .nothing => releaseFor n p
        | .suspend => p
        | .terminate => { p.finish with ending := some (.killed signal) }
    | (some report, p) => { p.finish with ending := some report }

/-- Runs a process that another one has started. -/
def runChild (p : Child) : Child := releaseFor p.budget p

/-! ## With a debugger -/

/-- The timer of a process that does not wait has its time.  It is the end of
    those that compute without an end. -/
def outOfTime (p : Child) : Child :=
  match p.alarm with
  | some _ => { p with alarm := none, report := some (.signal ⟨14⟩ kernelCode) }
  | none => { p with report := some (.signal sigxcpu kernelCode) }

/-- Runs a traced process until its state changes. -/
def runFor : Nat → Child → Child
  | 0, p => p.outOfTime
  | n + 1, p =>
    let before := p.get .rip
    match p.act runChild with
    | (some report, p) => { p with report := some report }
    | (none, p) => if p.get .rip = before && p.alarm.isSome then p.outOfTime else runFor n p

/-! ## Going on -/

/-- The results of system calls that are to be made again. -/
def restarted : List UInt64 := [-512, -513, -514, -516]

/-- Makes a system call again that asks for it: goes back to the instruction. -/
def restart (p : Child) : Child :=
  let result := p.get .rax
  if p.get .orig_rax % 2 ^ (32 : Nat) ≠ 2 ^ (32 : Nat) - 1 ∧ result ∈ restarted then
    let number := if result = -516 then 219 else p.get .orig_rax
    (p.setRegister .rax number).setRegister .rip (p.get .rip - 2)
  else p

/-- Segments that cannot be loaded are empty when the process goes on. -/
def reloadSegments (p : Child) : Child :=
  ([Register.ds, .es, .fs, .gs]).foldl (fun p r =>
    if Thread.isDataSegment (p.get r) then p else p.setRegister r 0) p

/-- Lets a process go on that has stopped.  Its code and its stack have to be in
    the segments of programs. -/
def goOn (p : Child) : Child :=
  let p := p.restart.reloadSegments
  if p.get .cs = Thread.codeSegment ∧ p.get .ss = Thread.stackSegment then p.runFor p.budget
  else
    let (report, p) := p.stopped (.signal .sigsegv kernelCode)
    { p with report }

/-- Leaves steps, and the flag that was set for them. -/
def endSteps (p : Child) : Child :=
  let p := if p.hidesTrap then { p with thread := p.thread.setFlag .trap false } else p
  { p with isStepping := false, hidesTrap := false }

/-- The bytes that may stand in front of an operation. -/
def modifierBytes : List UInt8 :=
  [0x66, 0x67, 0x26, 0x2e, 0x36, 0x3e, 0x64, 0x65, 0xf0, 0xf2, 0xf3,
   0x40, 0x41, 0x42, 0x43, 0x44, 0x45, 0x46, 0x47, 0x48, 0x49, 0x4a, 0x4b, 0x4c, 0x4d, 0x4e,
   0x4f]

/-- The next instruction loads the flags as a whole. -/
def loadsFlags (p : Child) : Bool :=
  let bytes := (List.range longestInstruction).filterMap fun i =>
    p.thread.memory.byte? (p.thread.pc + UInt64.ofNat i)
  match bytes.dropWhile (· ∈ modifierBytes) with
  | op :: _ => op = 0x9d || op = 0xcf
  | [] => false

/-- Sets the trap flag for a step.  It is hidden, unless the program has set it
    itself or is about to load the flags. -/
def beginStep (p : Child) : Child :=
  let p := if p.isStepping then { p with thread := p.thread.setFlag .trap true } else p
  let wasSet := p.thread.flag .trap
  let hidesTrap := !p.loadsFlags && (!wasSet || p.hidesTrap)
  { p with isStepping := true, hidesTrap, thread := p.thread.setFlag .trap true }

/-- Runs a traced process until its state changes. -/
def proceed (p : Child) : Child := p.endSteps.goOn

/-- Executes one instruction of a traced process. -/
def stepOnce (p : Child) : Child := p.beginStep.goOn

/-- Lets a process run untraced. -/
def release (p : Child) : Child :=
  runChild { p.endSteps.restart.reloadSegments with isTraced := false }

end SourceDebugger.Machine.Child
