/-
  Requests of a process that concern processes that it starts.  Such a process
  runs to its end when it is started; its parent gets to know of that when it
  waits.

  * `Child.fork` starts a process;
  * `Call.waitForChild` waits for the end of one.
-/
import SourceDebugger.Machine.Fault
import SourceDebugger.Machine.SystemCall.Time

namespace SourceDebugger.Machine

/-! ## Starting -/

namespace Child

/-- The process that a process starts: a copy of it, with a stack of its own if
    there is an address for it. -/
def copy (p : Child) (stack : Addr) (sharesMemory : Bool) : Child :=
  let thread := p.thread.set .rax 0
  let thread := if stack = 0 then thread else thread.set .rsp stack
  { p with
    pid := p.nextPid, nextPid := p.nextPid + 1, parent := some p.pid, toParent := []
    thread := if p.isStepping then thread.setFlag .trap false else thread
    isTraced := false, isStepping := false, hidesTrap := false
    signals := { p.signals with sent := [] }
    alarm := none, sleep := none, ended := [], output := [], report := none, ending := none
    sharesMemory, leftMemory := none
    traits := { p.traits with leadsGroup := false, leadsSession := false } }

/-- How a process has ended, as it is told to its parent. -/
def statusOf : Report → Nat
  | .exited code => code.toNat * 256
  | .killed signal => signal.number
  | .signal .. => 0

/-- Starts a process, which `run` runs to its end.  The parent gets its number. -/
def fork (run : Child → Child) (p : Child) (stack : Addr) (sharesMemory : Bool) : Child :=
  let child := run (p.copy stack sharesMemory)
  let memory := child.leftMemory.getD child.thread.memory
  let ended := child.ending.map fun report => Ended.mk p.nextPid (statusOf report) false
  let p := { p with
    nextPid := child.nextPid, files := { child.files with working := p.files.working }
    budget := child.budget, output := p.output ++ child.output
    descriptors := { p.descriptors with pipes := child.descriptors.pipes }
    ended := p.ended ++ ended.toList
    signals := child.toParent.foldl (·.send ·) p.signals
    thread := if sharesMemory then { p.thread with memory } else p.thread }
  p.setRegister .rax (UInt64.ofNat child.pid)

end Child

/-! ## Waiting -/

namespace Call

/-- Whether a process is one of those that are waited for. -/
def isAwaited (pid : Int) (e : Ended) : Bool := pid = -1 || pid = 0 || pid = e.pid

/-- The end of a process that has been waited for is forgotten. -/
def forget (e : Ended) : Call Unit := modify fun p => { p with ended := p.ended.erase e }

/-- The end of a process that is waited for.  Without waiting only those are known
    that have been told. -/
def awaitEnd (isChosen : Ended → Bool) (waits : Bool) : Call (Option Ended) := do
  let ended := (← inspect (·.ended)).filter isChosen
  ensure (!ended.isEmpty) .echild
  match if waits then ended.head? else ended.find? (·.isNoticed) with
  | some e =>
    if !e.isNoticed then notice
    return some { e with isNoticed := true }
  | none => return none

/-- Waits for the end of a process, and tells how it has ended. -/
def waitForChild (pid : Int) (status : Addr) (options : Int) (usage : Addr) : Call Int := do
  ensure ((Width.long.ofInt options) &&& 0x1ffffff4 = 0) .einval
  ensure (pid ≠ -(2 ^ 31)) .esrch
  match ← awaitEnd (isAwaited pid) (options % 2 = 0) with
  | none => return 0
  | some e =>
    forget e
    tell status 4 e.status
    if usage ≠ 0 then tellZeros usage 144
    return e.pid

/-- The bytes of what is told with the signal about the end of a process. -/
def endBytes (e : Ended) : List UInt8 :=
  let value := if e.status % 128 = 0 then e.status / 256 else e.status % 128
  let head := littleBytes 4 Signal.sigchld.number ++ littleBytes 4 0 ++
    littleBytes 4 (endCode e.status).toNat ++ littleBytes 4 0 ++ littleBytes 4 e.pid ++
    littleBytes 4 0 ++ littleBytes 4 value
  head ++ List.replicate (128 - head.length) 0

/-- Waits for the end of a process, which may be kept for further questions. -/
def waitForEnd (kind pid : Int) (information : Addr) (options : Int) (usage : Addr) :
    Call Int := do
  let options := Width.long.ofInt options
  ensure (options &&& 0x1efffff0 = 0 && options &&& 0xe ≠ 0) .einval
  ensure (kind = 0 || ((kind = 1 || kind = 2) && 0 ≤ pid)) .einval
  ensure (kind ≠ 1 || 0 < pid) .einval
  match ← awaitEnd (isAwaited (if kind = 1 then pid else -1)) (!options.testBit 0) with
  | none =>
    if information ≠ 0 then tellZeros information 28
    return 0
  | some e =>
    if !options.testBit 24 then forget e
    if usage ≠ 0 then tellZeros usage 144
    if information ≠ 0 then store information (endBytes e)
    return 0

/-- The request about such processes with a number. -/
def onChildren? (number : Nat) (x : Arguments) : Option (Call Int) :=
  match number with
  | 61 => some (waitForChild x.a32 x.b x.c32 x.d)
  | 247 => some (waitForEnd x.a32 x.b32 x.c x.d32 x.e)
  | _ => none

end Call

end SourceDebugger.Machine
