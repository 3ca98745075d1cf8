/-
  A running program: its registers and its memory.

  * `Thread.flag` and `Thread.holds` read the flags, `Thread.addressOf` finds
    the address of a place in memory;
  * `Thread.loadSegment?` loads a segment register.
-/
import SourceDebugger.Machine.AddressSpace
import SourceDebugger.Machine.Instruction

namespace SourceDebugger.Machine

/-- A running program. -/
structure Thread where
  registers : RegisterFile
  memory : AddressSpace
  /-- The vector registers, each of 32 bytes. -/
  vectors : Vector Nat 16 := Vector.replicate 16 0
  /-- How vector instructions compute. -/
  control : Control := {}
  floating : FloatingStack := {}

/-- How an instruction ends that does not fault. -/
inductive Completion where
  | done
  /-- The instruction is done, and a step goes on to the next one. -/
  | joined
  /-- The program stops behind the instruction. -/
  | trapped (report : Report)
  | systemCall
  | systemCall32
  deriving DecidableEq

namespace Thread

def get (t : Thread) (r : Register) : UInt64 := t.registers.get r

def set (t : Thread) (r : Register) (v : UInt64) : Thread :=
  { t with registers := t.registers.set r v }

def pc (t : Thread) : Addr := t.get .rip

/-! ## Flags -/

def flag (t : Thread) (f : Flag) : Bool := t.get .eflags &&& f.mask ≠ 0

def setFlag (t : Thread) (f : Flag) (value : Bool) : Thread :=
  t.set .eflags (if value then t.get .eflags ||| f.mask else t.get .eflags &&& ~~~ f.mask)

def setFlags (t : Thread) (fs : List (Flag × Bool)) : Thread :=
  fs.foldl (fun t (f, value) => t.setFlag f value) t

def holds (t : Thread) (c : Condition) : Bool :=
  let less := t.flag .sign != t.flag .overflow
  let result := match c.test with
    | .overflow => t.flag .overflow
    | .carry => t.flag .carry
    | .zero => t.flag .zero
    | .carryOrZero => t.flag .carry || t.flag .zero
    | .sign => t.flag .sign
    | .parity => t.flag .parity
    | .less => less
    | .lessOrEqual => less || t.flag .zero
  result != c.isNegated

/-! ## Addresses -/

/-- The address of a place in its segment. -/
def offsetOf (t : Thread) (place : Location) : Addr :=
  let base := (place.base.map t.get).getD 0
  let index := match place.index with
    | some (r, scale) => t.get r * UInt64.ofNat scale
    | none => 0
  let sum := base + index + place.displacement
  if place.isShort then sum &&& 0xffffffff else sum

/-- The address that a place stands for. -/
def addressOf (t : Thread) (place : Location) : Addr :=
  t.offsetOf place + (place.segment.map t.get).getD 0

/-! ## Segments -/

/-- The segment of the instructions of programs of 64 bits, and that of their
    stacks. -/
def codeSegment : UInt64 := 0x33

def stackSegment : UInt64 := 0x2b

/-- The segments that programs can use for data.  The lowest two bits only ask
    for less. -/
def isDataSegment (selector : UInt64) : Bool := selector / 4 ∈ ([8, 10, 12, 30] : List UInt64)

/-- Loads a segment register.  The base of the segment is zero then. -/
def loadSegment? (t : Thread) (segment : Register) (selector : UInt64) : Option Thread :=
  let isFine :=
    if segment = .ss then selector = stackSegment else selector < 4 || isDataSegment selector
  let t := t.set segment selector
  if isFine then
    some (match segment with
      | .fs => t.set .fs_base 0
      | .gs => t.set .gs_base 0
      | _ => t)
  else none

end Thread

end SourceDebugger.Machine
