/-
  A simulated process that follows a script.  Beside successors it has branches
  that go elsewhere each time, effects of instructions on registers and
  memory, stops that wear off, a limited number of instructions, and rules by
  which requests fail.

  * `execute` is one instruction: fuel, trap, stop, successor, effects, in this
    order;
  * `guarded` lets the first rule that applies make a request fail: a used up
    rule is passed over, and so is one that is to skip this time.
-/
import Std.Data.ExtTreeMap
import SourceDebugger.Breakpoint
import SourceDebugger.Simulation.Memory

namespace SourceDebugger

/-- The requests that a rule can make fail. -/
inductive Primitive where
  | readWord
  | writeWord
  | readRegister
  | writeRegister
  | memoryMap
  | kill
  | detach
  | step
  | resume
  | wait
  deriving DecidableEq

/-- A request with what it is about. -/
structure Request where
  primitive : Primitive
  addr : Option Addr := none
  register : Option Register := none

/-- When a request fails, and how. -/
structure FailRule where
  on : Primitive
  /-- Only for this address. -/
  addr : Option Addr := none
  /-- Only for this register. -/
  register : Option Register := none
  /-- So many requests are let through first. -/
  skip : Nat := 0
  /-- So many requests fail, `none` for all. -/
  times : Option Nat := none
  errno : Errno := .eio
  /-- Fails with this wait status instead of the error number. -/
  status : Option String := none

/-- The targets of an instruction that goes elsewhere each time. -/
structure Branch where
  targets : List Addr
  taken : Nat := 0

/-- What an instruction does beside going on. -/
structure Effect where
  registers : List (Register × UInt64) := []
  words : List (Addr × Word) := []

/-- A stop at an instruction, so many times or always. -/
structure ScriptedStop where
  report : Report
  times : Option Nat := none

structure Scripted where
  memory : Memory := {}
  registers : RegisterFile := .zero
  successors : Std.ExtTreeMap Addr Addr := ∅
  branches : Std.ExtTreeMap Addr Branch := ∅
  effects : Std.ExtTreeMap Addr Effect := ∅
  stops : Std.ExtTreeMap Addr ScriptedStop := ∅
  exitCode : Int := 0
  trapCode : Int := kernelCode
  fuel : Nat := 5000
  pid : Nat := 4242
  executable : Option String := some "/tmp/prog"
  map : MemoryMap := {}
  rules : List FailRule := []
  /-- The number of words written. -/
  writes : Nat := 0
  isAlive : Bool := true
  isDetached : Bool := false
  pending : Option Report := none

/-! ## Rules -/

namespace FailRule

def isUsedUp (r : FailRule) : Bool := r.times == some 0

/-- Whether the rule is about a request; `none` in the rule stands for all. -/
def concerns (r : FailRule) (q : Request) : Bool :=
  r.on == q.primitive && (r.addr.isNone || r.addr == q.addr) &&
    (r.register.isNone || r.register == q.register)

/-- The failure a rule makes of a request. -/
def failure (r : FailRule) (q : Request) : Failure :=
  match r.status with
  | some status => .unexpectedWaitStatus status
  | none =>
    match q.primitive, q.addr with
    | .readWord, some a | .writeWord, some a => .memoryAccess a r.errno
    | .memoryMap, _ => .io (.system r.errno)
    | _, _ => .processAccess r.errno

/-- Applies the first rule that makes a request fail, and counts. -/
def apply (q : Request) : List FailRule → Option Failure × List FailRule
  | [] => (none, [])
  | r :: rules =>
    if !r.concerns q || r.isUsedUp then
      let (e, rules) := apply q rules
      (e, r :: rules)
    else if r.skip > 0 then
      let (e, rules) := apply q rules
      (e, { r with skip := r.skip - 1 } :: rules)
    else (some (r.failure q), { r with times := r.times.map (· - 1) } :: rules)

end FailRule

/-! ## Execution -/

namespace Branch

/-- The target of this execution: the last one stays. -/
def target? (b : Branch) : Option Addr := b.targets[min b.taken (b.targets.length - 1)]?

end Branch

namespace Scripted

def pc (p : Scripted) : Addr := p.registers.get .rip

def setPc (p : Scripted) (a : Addr) : Scripted :=
  { p with registers := p.registers.set .rip a }

/-- Chains addresses, so that each is followed by the next. -/
def flow (p : Scripted) : List Addr → Scripted
  | a :: b :: rest => { p with successors := p.successors.insert a b }.flow (b :: rest)
  | _ => p

/-- The successor of an instruction: its branch, counted on, or its flow. -/
def successor (p : Scripted) (a : Addr) : Option Addr × Scripted :=
  match p.branches[a]? with
  | some b =>
    match b.target? with
    | some next =>
      (some next, { p with branches := p.branches.insert a { b with taken := b.taken + 1 } })
    | none => (p.successors[a]?, p)
  | none => (p.successors[a]?, p)

def applyEffect (p : Scripted) (e : Effect) : Scripted :=
  { p with
    registers := e.registers.foldl (fun f (r, v) => f.set r v) p.registers
    memory := e.words.foldl (fun m (a, w) => m.setWord a w) p.memory }

/-- The stop that is due at an instruction, counted down. -/
def stopAt (p : Scripted) (a : Addr) : Option (Report × Scripted) :=
  match p.stops[a]? with
  | none => none
  | some s =>
    if s.times = some 0 then none
    else some (s.report,
      { p with stops := p.stops.insert a { s with times := s.times.map (· - 1) } })

/-- Executes the instruction at the program counter; gives the stop it
    causes. -/
def execute (p : Scripted) : Option Report × Scripted :=
  if p.fuel = 0 then (some (.signal .sigint 0), p)
  else
    let here := p.pc
    let p := { p with fuel := p.fuel - 1 }
    if p.memory.get? here = some trapByte then
      (some (.signal .sigtrap p.trapCode), p.setPc (here + 1))
    else match p.stopAt here with
      | some (.killed signal, p) => (some (.killed signal), { p with isAlive := false })
      | some (report, p) => (some report, p)
      | none =>
        match p.successor here with
        | (none, p) => (some (.exited p.exitCode), { p with isAlive := false })
        | (some next, p) =>
          match p.effects[here]? with
          | some e => (none, (p.applyEffect e).setPc next)
          | none => (none, p.setPc next)

/-- Executes until a stop, which becomes pending, at most `limit`
    instructions. -/
def run (p : Scripted) : Nat → Scripted
  | 0 => p
  | limit + 1 =>
    match p.execute with
    | (some stop, p) => { p with pending := some stop }
    | (none, p) => p.run limit

/-- Executes one instruction; its stop, or the end of the step, becomes
    pending. -/
def stepOnce (p : Scripted) : Scripted :=
  match p.execute with
  | (some stop, p) => { p with pending := some stop }
  | (none, p) => { p with pending := some (.signal .sigtrap traceCode) }

/-! ## As a tracee -/

variable {α : Type}

/-- Lets the rules make a request fail, and runs it otherwise. -/
def guarded (q : Request) (act : Action Scripted α) : Action Scripted α := fun p =>
  match FailRule.apply q p.rules with
  | (some e, rules) => ⟨.error e, { p with rules }, []⟩
  | (none, rules) => act { p with rules }

/-- A request to a process that is gone fails. -/
def whileAlive (f : Scripted → α × Scripted) : Action Scripted α := fun p =>
  if p.isAlive then
    let (a, p) := f p
    ⟨.ok a, p, []⟩
  else ⟨.error (.processAccess .esrch), p, []⟩

def readWord (a : Addr) : Action Scripted Word := fun p =>
  if !p.isAlive then ⟨.error (.memoryAccess a .esrch), p, []⟩
  else match p.memory.getWord? a with
    | some w => ⟨.ok w, p, []⟩
    | none => ⟨.error (.memoryAccess a .eio), p, []⟩

def writeWord (a : Addr) (w : Word) : Action Scripted Unit := fun p =>
  if !p.isAlive then ⟨.error (.memoryAccess a .eio), p, []⟩
  else match p.memory.putWord? a w with
    | some memory => ⟨.ok (), { p with memory, writes := p.writes + 1 }, []⟩
    | none => ⟨.error (.memoryAccess a .eio), p, []⟩

def takePending : Action Scripted Report := fun p =>
  match p.pending with
  | some stop => ⟨.ok stop, { p with pending := none }, []⟩
  | none => ⟨.error (.processAccess .echild), p, []⟩

instance : Tracee Scripted where
  pid := Scripted.pid
  executable? := executable
  readWord a := guarded { primitive := .readWord, addr := some a } (readWord a)
  writeWord a w := guarded { primitive := .writeWord, addr := some a } (writeWord a w)
  readRegister reg := guarded { primitive := .readRegister, register := some reg }
    (whileAlive fun p => (p.registers.get reg, p))
  writeRegister reg value := guarded { primitive := .writeRegister, register := some reg }
    (whileAlive fun p => ((), { p with registers := p.registers.set reg value }))
  resume := guarded { primitive := .resume }
    (whileAlive fun p => ((), p.run (p.fuel + 1)))
  step := guarded { primitive := .step } (whileAlive fun p => ((), p.stepOnce))
  wait := guarded { primitive := .wait } takePending
  memoryMap := guarded { primitive := .memoryMap } (whileAlive fun p => (p.map, p))
  kill := guarded { primitive := .kill } (whileAlive fun p => ((), { p with isAlive := false }))
  detach := guarded { primitive := .detach }
    (whileAlive fun p => ((), { p with isDetached := true }))

end Scripted

end SourceDebugger
