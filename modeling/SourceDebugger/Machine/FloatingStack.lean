/-
  The registers for floating-point numbers of 80 bits, which form a stack.

  * `FloatingStack.at?` is the number at a depth, `FloatingStack.push` and
    `FloatingStack.pop` move the top;
  * `FloatingStack.note` notes what has happened; what is not masked stops the
    program at the next operation that waits for it;
  * `FloatingStack.shortVector` and `FloatingStack.setShortVector` access the
    vectors that are kept in these registers.
-/
import SourceDebugger.Machine.Extended

namespace SourceDebugger.Machine

structure FloatingStack where
  /-- The registers, each of 80 bits. -/
  registers : Vector Nat 8 := Vector.replicate 8 0
  /-- A bit for each register that holds a number. -/
  used : Nat := 0
  /-- The register on top of the stack. -/
  top : Nat := 0
  control : Nat := 0x37f
  /-- What has happened, and the results of comparisons. -/
  status : Nat := 0
  /-- The address of the last operation. -/
  lastAddress : UInt64 := 0
  /-- The bits of the last operation that was to stop the program. -/
  lastCode : Nat := 0
  /-- The place in memory of that operation. -/
  lastPlace : UInt64 := 0

namespace FloatingStack

/-! ## Registers -/

/-- The register at a depth. -/
def position (s : FloatingStack) (depth : Nat) : Nat := (s.top + depth) % 8

def register (s : FloatingStack) (i : Nat) : Nat := s.registers.toArray.getD i 0

/-- The number at a depth, if there is one. -/
def at? (s : FloatingStack) (depth : Nat) : Option Nat :=
  if s.used.testBit (s.position depth) then some (s.register (s.position depth)) else none

def put (s : FloatingStack) (depth n : Nat) : FloatingStack :=
  { s with
    registers := s.registers.setIfInBounds (s.position depth) n
    used := s.used ||| 2 ^ s.position depth }

/-- The register at a depth holds no number any more. -/
def free (s : FloatingStack) (depth : Nat) : FloatingStack :=
  { s with used := s.used - (s.used &&& 2 ^ s.position depth) }

/-- Moves the top by some registers. -/
def rotate (s : FloatingStack) (n : Nat) : FloatingStack := { s with top := s.position n }

def pop (s : FloatingStack) : FloatingStack := (s.free 0).rotate 1

def push (s : FloatingStack) (n : Nat) : FloatingStack := (s.rotate 7).put 0 n

/-- There is no room for a further number. -/
def isFull (s : FloatingStack) : Bool := (s.at? 7).isSome

/-! ## Control and status -/

/-- The bits of the status for results of comparisons. -/
def condition0 : Nat := 2 ^ 8
def condition1 : Nat := 2 ^ 9
def condition2 : Nat := 2 ^ 10
def condition3 : Nat := 2 ^ 14

/-- Sets bits of the status among those of a mask. -/
def setStatus (s : FloatingStack) (mask bits : Nat) : FloatingStack :=
  { s with status := s.status - (s.status &&& mask) + (bits &&& mask) }

/-- Marks a result that was rounded up, or a stack that is full. -/
def setUp (s : FloatingStack) (isUp : Bool) : FloatingStack :=
  s.setStatus condition1 (if isUp then condition1 else 0)

/-- Those of some events that stop the program. -/
def unmasked (s : FloatingStack) (events : Nat) : Nat :=
  let events := events % 64
  events - (events &&& s.control)

/-- What has happened and is to stop the program. -/
def pending (s : FloatingStack) : Nat := s.unmasked s.status

/-- Notes events. -/
def note (s : FloatingStack) (events : Nat) : FloatingStack :=
  { s with status := s.status ||| events }

/-- How operations compute. -/
def computing (s : FloatingStack) : Control where
  rounding := Control.roundingOf (s.control / 2 ^ 10)
  masked := s.control % 64

/-- The format whose significand the results of arithmetic have. -/
def precision (s : FloatingStack) : Format :=
  match s.control / 2 ^ 8 % 4 with
  | 0 => ⟨15, 23⟩
  | 2 => ⟨15, 52⟩
  | _ => .extended

/-- The code of the signal for what is to stop the program. -/
def stopCode? (s : FloatingStack) : Option Int :=
  Control.stopCode? { masked := s.control % 64, raised := s.status % 64 }

/-- The bits of the status that are kept. -/
def keptStatus : Nat := 0x477f

/-- The status, with the top and a mark for events that are to stop the
    program. -/
def statusWord (s : FloatingStack) : Nat :=
  s.status + s.top * 2 ^ 11 + if s.pending = 0 then 0 else 0x8080

def setStatusWord (s : FloatingStack) (n : Nat) : FloatingStack :=
  { s with status := n &&& keptStatus, top := n / 2 ^ 11 % 8 }

/-- The bits of the control that can be set. -/
def controlBits : Nat := 0x1f3f

/-- Sets the control; one bit of it is always set. -/
def setControl (s : FloatingStack) (n : Nat) : FloatingStack :=
  { s with control := n &&& controlBits ||| 0x40 }

/-- The state from which programs start; the registers keep their bits. -/
def emptied (s : FloatingStack) : FloatingStack :=
  { registers := s.registers }

/-! ## Short vectors -/

/-- The registers hold vectors, not a stack. -/
def takeVectors (s : FloatingStack) : FloatingStack := { s with used := 255, top := 0 }

/-- The vector of eight bytes in a register. -/
def shortVector (s : FloatingStack) (i : Nat) : Nat := s.register i % 2 ^ 64

/-- Sets a vector, and those bits of the register that it has not. -/
def setShortVector (s : FloatingStack) (i n : Nat) : FloatingStack :=
  { s with registers := s.registers.setIfInBounds i (n % 2 ^ 64 + 0xffff * 2 ^ 64) }

end FloatingStack

end SourceDebugger.Machine
