/-
  A small simulated process.  Instructions have no meaning of their own:
  execution follows `successors`, the instruction at an address being followed
  by the one at its successor.

  * an instruction whose first byte is the trap traps, an address in `faults`
    raises its signal instead of executing, an instruction without successor
    ends the process (`execute`);
  * `resume` runs to the next stop, at most `runLimit` instructions, `step`
    executes one;
  * writes and the memory map can be made to fail.
-/
import Std.Data.ExtTreeMap
import SourceDebugger.Breakpoint
import SourceDebugger.Simulation.Memory

namespace SourceDebugger

structure Simulated where
  memory : Memory := {}
  registers : RegisterFile := .zero
  successors : Std.ExtTreeMap Addr Addr := ∅
  faults : Std.ExtTreeMap Addr (Signal × Int) := ∅
  map : MemoryMap := {}
  exitCode : Int := 0
  /-- The code that is reported when a trap is executed. -/
  trapCode : Int := kernelCode
  failWrites : Bool := false
  failMaps : Bool := false
  /-- The number of words written. -/
  writes : Nat := 0
  isAlive : Bool := true
  isDetached : Bool := false
  pending : Option Report := none

namespace Simulated

def pc (p : Simulated) : Addr := p.registers.get .rip

def setPc (p : Simulated) (a : Addr) : Simulated :=
  { p with registers := p.registers.set .rip a }

/-- Chains addresses, so that each is followed by the next. -/
def flow (p : Simulated) : List Addr → Simulated
  | a :: b :: rest => { p with successors := p.successors.insert a b }.flow (b :: rest)
  | _ => p

/-- Executes the instruction at the program counter; gives the stop it
    causes. -/
def execute (p : Simulated) : Option Report × Simulated :=
  if p.memory.get? p.pc = some trapByte then
    (some (.signal .sigtrap p.trapCode), p.setPc (p.pc + 1))
  else match p.faults[p.pc]? with
    | some (signal, code) => (some (.signal signal code), p)
    | none =>
      match p.successors[p.pc]? with
      | some next => (none, p.setPc next)
      | none => (some (.exited p.exitCode), { p with isAlive := false })

/-- Executes until a stop, which becomes pending, at most `limit`
    instructions. -/
def run (p : Simulated) : Nat → Simulated
  | 0 => p
  | limit + 1 =>
    match p.execute with
    | (some stop, p) => { p with pending := some stop }
    | (none, p) => p.run limit

/-- The number of instructions after which a process counts as run away. -/
def runLimit : Nat := 100000

/-- Executes one instruction; its stop, or the end of the step, becomes
    pending. -/
def stepOnce (p : Simulated) : Simulated :=
  match p.execute with
  | (some stop, p) => { p with pending := some stop }
  | (none, p) => { p with pending := some (.signal .sigtrap traceCode) }

/-! ## As a tracee -/

variable {α : Type}

/-- A request to a process that is gone fails. -/
def whileAlive (f : Simulated → α × Simulated) : Action Simulated α := fun p =>
  if p.isAlive then
    let (a, p) := f p
    ⟨.ok a, p, []⟩
  else ⟨.error (.processAccess .esrch), p, []⟩

def readWord (a : Addr) : Action Simulated Word := fun p =>
  if !p.isAlive then ⟨.error (.memoryAccess a .esrch), p, []⟩
  else match p.memory.getWord? a with
    | some w => ⟨.ok w, p, []⟩
    | none => ⟨.error (.memoryAccess a .eio), p, []⟩

def writeWord (a : Addr) (w : Word) : Action Simulated Unit := fun p =>
  if !p.isAlive || p.failWrites then ⟨.error (.memoryAccess a .eio), p, []⟩
  else match p.memory.putWord? a w with
    | some memory => ⟨.ok (), { p with memory, writes := p.writes + 1 }, []⟩
    | none => ⟨.error (.memoryAccess a .eio), p, []⟩

def takePending : Action Simulated Report := fun p =>
  match p.pending with
  | some stop => ⟨.ok stop, { p with pending := none }, []⟩
  | none => ⟨.error (.processAccess .echild), p, []⟩

def readMap : Action Simulated MemoryMap := fun p =>
  if !p.isAlive then ⟨.error (.processAccess .esrch), p, []⟩
  else if p.failMaps then ⟨.error (.io .permissionDenied), p, []⟩
  else ⟨.ok p.map, p, []⟩

instance : Tracee Simulated where
  pid _ := 4242
  executable? _ := some "/tmp/prog"
  readWord := readWord
  writeWord := writeWord
  readRegister reg := whileAlive fun p => (p.registers.get reg, p)
  writeRegister reg value :=
    whileAlive fun p => ((), { p with registers := p.registers.set reg value })
  resume := whileAlive fun p => ((), p.run runLimit)
  step := whileAlive fun p => ((), p.stepOnce)
  wait := takePending
  memoryMap := readMap
  kill := whileAlive fun p => ((), { p with isAlive := false })
  detach := whileAlive fun p => ((), { p with isDetached := true })

end Simulated

end SourceDebugger
