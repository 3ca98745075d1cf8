/-
  Computations of instructions: how they read and write operands, and what
  keeps them from it.

  * `Execution` is a computation that changes a program or faults;
  * `Execution.read` and `Execution.write` access operands, `Execution.push`
    and `Execution.pop` the stack;
  * `Execution.goTo` goes on at another instruction.
-/
import SourceDebugger.Bytes
import SourceDebugger.Machine.Thread

namespace SourceDebugger.Machine

/-- A computation of an instruction. -/
abbrev Execution : Type → Type := StateT Thread (Except Fault)

namespace Execution

variable {α : Type}

def fault (e : Fault) : Execution α := fun _ => .error e

def set (r : Register) (v : UInt64) : Execution Unit := modify (·.set r v)

def setFlags (fs : List (Flag × Bool)) : Execution Unit := modify (·.setFlags fs)

def flag (f : Flag) : Execution Bool := do return (← get).flag f

/-! ## Memory -/

/-- Accesses through the stack have a fault of their own. -/
def access (isStack : Bool) (r : Except Fault α) : Execution α := fun t =>
  match r with
  | .ok a => .ok (a, t)
  | .error .protection => .error (if isStack then .stack else .protection)
  | .error e => .error e

/-- Prepares an access: the stack grows to it, and it may have to be aligned. -/
def approach (n : Nat) (a : Addr) : Execution Unit := do
  let t ← get
  if t.flag .alignment && a.toNat % n ≠ 0 then fault .misaligned
  if (t.memory.area? a).isNone then modify fun t => { t with memory := t.memory.grow a }

def loadFrom (isStack : Bool) (n : Nat) (a : Addr) : Execution Nat := do
  approach n a
  let t ← get
  return ByteOrder.little.number (← access isStack (t.memory.load .read a n))

def storeTo (isStack : Bool) (n : Nat) (a : Addr) (v : Nat) : Execution Unit := do
  approach n a
  let t ← get
  let memory ← access isStack (t.memory.store a (littleBytes n v))
  modify ({ · with memory })

def isStackPlace (place : Location) : Bool :=
  place.segment.isNone && (place.base == some .rsp || place.base == some .rbp)

/-! ## Operands -/

/-- What has happened on the floating-point stack stops the program if it is to
    do so. -/
def awaitStack : Execution Unit := do
  match (← get).floating.stopCode? with
  | some code => fault (.floating code)
  | none => pure ()

/-- The floating-point stack is about to be used for vectors. -/
def takeVectors : Execution Unit := do
  awaitStack
  modify fun t => { t with floating := t.floating.takeVectors }

/-- The `n` bytes of an operand. -/
def readBytes (n : Nat) : Operand → Execution Nat
  | .register r => do return ((← get).get r).toNat % 256 ^ n
  | .secondByte r => do return ((← get).get r).toNat / 256 % 256
  | .immediate v => return v.toNat % 256 ^ n
  | .memory place => do loadFrom (isStackPlace place) n ((← get).addressOf place)
  | .vector i => do return (← get).vectors.toArray.getD i 0 % 256 ^ n
  | .shortVector i => do
    takeVectors
    return (← get).floating.shortVector i % 256 ^ n

def read (w : Width) : Operand → Execution Nat := readBytes w.bytes

/-- A number with its `n` lowest bytes replaced. -/
def withLow (n old new : Nat) : Nat := old - old % 256 ^ n + new % 256 ^ n

/-- Writes the `n` bytes of an operand.  A value of 32 bits clears the upper half
    of a register, a smaller one leaves the other bits. -/
def writeBytes (n : Nat) (target : Operand) (v : Nat) : Execution Unit := do
  let t ← get
  match target with
  | .register r =>
    let value := if n < 4 then withLow n (t.get r).toNat v else v % 256 ^ n
    set r (UInt64.ofNat value)
  | .secondByte r =>
    let old := (t.get r).toNat
    set r (UInt64.ofNat (old - old / 256 % 256 * 256 + v % 256 * 256))
  | .immediate _ => pure ()
  | .memory place => storeTo (isStackPlace place) n (t.addressOf place) v
  | .vector i =>
    let value := withLow n (t.vectors.toArray.getD i 0) v
    modify fun t => { t with vectors := t.vectors.setIfInBounds i value }
  | .shortVector i => do
    takeVectors
    modify fun t => { t with floating := t.floating.setShortVector i v }

def write (w : Width) : Operand → Nat → Execution Unit := writeBytes w.bytes

/-! ## The stack and jumps -/

def push (w : Width) (n : Nat) : Execution Unit := do
  let top := (← get).get .rsp - UInt64.ofNat w.bytes
  storeTo true w.bytes top n
  set .rsp top

def pop (w : Width) : Execution Nat := do
  let top := (← get).get .rsp
  let n ← loadFrom true w.bytes top
  set .rsp (top + UInt64.ofNat w.bytes)
  return n

/-- Goes on at an address, which has to be canonical. -/
def goTo (a : Addr) : Execution Unit :=
  if AddressSpace.isCanonical a then set .rip a else fault .protection

/-- Goes on at a distance from the next instruction. -/
def skip (offset : UInt64) : Execution Unit := do goTo ((← get).pc + offset)

/-- Keeps the address of the next instruction on the stack. -/
def pushNext : Execution Unit := do push .quad (← get).pc.toNat

end Execution

end SourceDebugger.Machine
