/-
  The instructions of an x86-64 processor, by what they do.

  * `Operand` is a value that an instruction reads or writes: a register, a
    place in memory, or a number in the instruction itself;
  * `Condition` is what a conditional instruction asks of the flags;
  * `Instruction` has a constructor for each kind of instruction.  Those on
    vectors hold the function from old values to new ones.
-/
import SourceDebugger.Machine.Fault
import SourceDebugger.Machine.FloatingStack
import SourceDebugger.Register

namespace SourceDebugger.Machine

/-- The size of a value. -/
inductive Width where
  | byte
  | half
  | long
  | quad
  deriving DecidableEq

namespace Width

/-- The number of bytes. -/
def bytes : Width → Nat
  | byte => 1
  | half => 2
  | long => 4
  | quad => 8

/-- The number of bits. -/
def bits (w : Width) : Nat := 8 * w.bytes

/-- One more than the largest value. -/
def modulus (w : Width) : Nat := 2 ^ w.bits

/-- Whether the highest bit of a value is set. -/
def isNegative (w : Width) (n : Nat) : Bool := w.modulus ≤ 2 * (n % w.modulus)

/-- The value as a signed number. -/
def signed (w : Width) (n : Nat) : Int :=
  if w.isNegative n then (n % w.modulus : Nat) - (w.modulus : Int) else (n % w.modulus : Nat)

/-- The bits of a signed number. -/
def ofInt (w : Width) (n : Int) : Nat := (n % w.modulus).toNat

/-- The next smaller width. -/
def halved : Width → Width
  | quad => long
  | long => half
  | _ => byte

end Width

/-- The registers that instructions name by a number. -/
def general : List Register :=
  [.rax, .rcx, .rdx, .rbx, .rsp, .rbp, .rsi, .rdi,
   .r8, .r9, .r10, .r11, .r12, .r13, .r14, .r15]

/-- The segment registers, by their numbers. -/
def segments : List Register := [.es, .cs, .ss, .ds, .fs, .gs]

/-- A place in memory: the sum of its parts. -/
structure Location where
  base : Option Register := none
  /-- A register and the power of two that it is multiplied with. -/
  index : Option (Register × Nat) := none
  displacement : UInt64 := 0
  /-- The register with the base of the segment. -/
  segment : Option Register := none
  /-- The address is cut to 32 bits before the segment is added. -/
  isShort : Bool := false
  deriving DecidableEq

inductive Operand where
  | register (r : Register)
  /-- The second lowest byte of a register. -/
  | secondByte (r : Register)
  | memory (place : Location)
  | immediate (value : UInt64)
  /-- A vector register. -/
  | vector (n : Nat)
  /-- A vector of eight bytes, kept in a register for floating-point numbers. -/
  | shortVector (n : Nat)
  deriving DecidableEq

inductive FlagTest where
  | overflow
  | carry
  | zero
  | carryOrZero
  | sign
  | parity
  | less
  | lessOrEqual
  deriving DecidableEq

/-- A test of the flags, or its opposite. -/
structure Condition where
  test : FlagTest
  isNegated : Bool
  deriving DecidableEq

/-- The condition with a number of four bits. -/
def Condition.ofNumber (n : Nat) : Condition :=
  let test := match n / 2 % 8 with
    | 0 => .overflow
    | 1 => .carry
    | 2 => .zero
    | 3 => .carryOrZero
    | 4 => .sign
    | 5 => .parity
    | 6 => .less
    | _ => FlagTest.lessOrEqual
  ⟨test, n % 2 = 1⟩

/-- The flags of the processor, in the register `eflags`. -/
inductive Flag where
  | carry
  | always
  | parity
  | adjust
  | zero
  | sign
  | trap
  | interrupt
  | direction
  | overflow
  /-- The instruction is executed again. -/
  | again
  /-- Accesses have to be aligned. -/
  | alignment
  deriving DecidableEq

namespace Flag

def position : Flag → Nat
  | carry => 0
  | always => 1
  | parity => 2
  | adjust => 4
  | zero => 6
  | sign => 7
  | trap => 8
  | interrupt => 9
  | direction => 10
  | overflow => 11
  | again => 16
  | alignment => 18

def mask (f : Flag) : UInt64 := 1 <<< UInt64.ofNat f.position

end Flag

/-! ## Kinds of operations -/

/-- Operations on two values. -/
inductive Binary where
  | add
  | or
  | addCarry
  | subtractBorrow
  | and
  | subtract
  | xor
  | compare
  | test
  deriving DecidableEq

/-- Operations on one value. -/
inductive Unary where
  | increment
  | decrement
  | not
  | negate
  | swapBytes
  deriving DecidableEq

/-- Operations that move bits within a value. -/
inductive Shift where
  | rotateLeft
  | rotateRight
  | rotateLeftCarry
  | rotateRightCarry
  | left
  | right
  | rightSigned
  deriving DecidableEq

/-- What becomes of a bit that is tested. -/
inductive BitChange where
  | keep
  | set
  | reset
  | flip
  deriving DecidableEq

/-- Operations that find or count bits. -/
inductive BitSearch where
  /-- The lowest bit that is set. -/
  | lowest
  /-- The highest bit that is set. -/
  | highest
  | trailingZeros
  | leadingZeros
  | population
  deriving DecidableEq

/-- Operations on two values whose result goes elsewhere. -/
inductive Selection where
  /-- The bits of the second value that the first one has not. -/
  | andNot
  /-- The bits of the first value from a position on, and their number. -/
  | extract
  /-- The bits of the first value below a position. -/
  | below
  /-- The lowest bits of the first value, at the positions of the second one. -/
  | deposit
  /-- The bits of the first value at the positions of the second one. -/
  | gather
  deriving DecidableEq

/-- Operations on the lowest bit that is set. -/
inductive LowestBit where
  | isolate
  | maskUpTo
  | reset
  deriving DecidableEq

/-- What a program may ask about a segment. -/
inductive SegmentQuestion where
  | rights
  | limit
  | isReadable
  | isWritable
  deriving DecidableEq

/-- Operations on elements of strings. -/
inductive StringOperation where
  | move
  | compare
  | store
  | load
  | scan
  deriving DecidableEq

/-- How often an operation on strings is done. -/
inductive Repetition where
  /-- As often as the count says, comparisons while they find equality. -/
  | whileEqual
  /-- As often as the count says, comparisons until they find equality. -/
  | untilEqual
  deriving DecidableEq

/-! ## Vectors -/

/-- An operation on vectors: what it reads, with the number of bytes, and the
    function from these values to the result. -/
structure VectorOperation where
  target : Operand
  /-- How many bytes of the target the result replaces. -/
  size : Nat
  sources : List (Operand × Nat)
  /-- Places in memory have to be aligned. -/
  isAligned : Bool := false
  apply : List Nat → Floating Nat

/-- An operation on vectors that also, or only, sets flags. -/
structure VectorTest where
  target : Option (Operand × Nat) := none
  sources : List (Operand × Nat)
  isAligned : Bool := false
  apply : List Nat → Floating (Nat × List (Flag × Bool))

/-! ## The floating-point stack -/

/-- A number that an operation on the floating-point stack reads. -/
inductive StackSource where
  | depth (n : Nat)
  | number (format : Format) (place : Location)
  | extended (place : Location)
  | integer (w : Width) (place : Location)
  | decimal (place : Location)
  | constant (x : Number)

/-- The operations on the floating-point stack. -/
inductive StackOperation where
  | load (source : StackSource)
  /-- A function of the top and another number. -/
  | arithmetic (op : Number → Number → Floating Number) (target : Nat) (pops : Bool)
      (source : StackSource)
  /-- Compares the top; the result may go to the flags of the processor. -/
  | compare (isStrict : Bool) (pops : Nat) (setsFlags : Bool) (source : StackSource)
  | store (format : Format) (pops : Bool) (place : Location)
  | storeExtended (place : Location)
  | storeInteger (w : Width) (truncates pops : Bool) (place : Location)
  | storeDecimal (place : Location)
  | moveIf (c : Condition) (depth : Nat)
  /-- What concerns only the stack. -/
  | change (f : FloatingStack → FloatingStack)
  /-- What also does not wait for events that are to stop the program. -/
  | changeAtOnce (f : FloatingStack → FloatingStack)
  /-- Waits for such events. -/
  | await
  | storeStatus (target : Operand)
  | loadControl (place : Location)
  | storeControl (place : Location)
  /-- Loads or stores all but the registers, perhaps in a short form. -/
  | loadEnvironment (isHalf : Bool) (place : Location)
  | storeEnvironment (isHalf : Bool) (place : Location)
  | loadAll (isHalf : Bool) (place : Location)
  | storeAll (isHalf : Bool) (place : Location)

namespace StackSource

def place? : StackSource → Option Location
  | .number _ place | .extended place | .integer _ place | .decimal place => some place
  | .depth _ | .constant _ => none

end StackSource

namespace StackOperation

/-- The place in memory that an operation accesses. -/
def place? : StackOperation → Option Location
  | .load source | .arithmetic _ _ _ source | .compare _ _ _ source => source.place?
  | .store _ _ place | .storeExtended place | .storeInteger _ _ _ place | .storeDecimal place =>
    some place
  | _ => none

/-- The operation leaves alone what is kept of the last one. -/
def isControl : StackOperation → Bool
  | .changeAtOnce _ | .await | .storeStatus _ | .loadControl _ | .storeControl _
  | .loadEnvironment .. | .storeEnvironment .. | .loadAll .. | .storeAll .. => true
  | _ => false

/-- The operation does not wait for events that are to stop the program. -/
def isAtOnce : StackOperation → Bool
  | .changeAtOnce _ | .storeStatus _ | .storeControl _ | .storeEnvironment .. | .storeAll .. =>
    true
  | _ => false

end StackOperation

/-! ## Instructions -/

inductive Instruction where
  | binary (op : Binary) (w : Width) (target source : Operand)
  | unary (op : Unary) (w : Width) (target : Operand)
  | shift (op : Shift) (w : Width) (target count : Operand)
  /-- Shifts a value, and fills it with the bits of another one. -/
  | shiftDouble (isLeft : Bool) (w : Width) (target source count : Operand)
  /-- Shifts a value, and keeps the flags. -/
  | shiftQuietly (op : Shift) (w : Width) (target source count : Operand)
  | bit (change : BitChange) (w : Width) (target index : Operand)
  | search (op : BitSearch) (w : Width) (target source : Operand)
  | select (op : Selection) (w : Width) (target a b : Operand)
  | lowestBit (op : LowestBit) (w : Width) (target source : Operand)
  /-- Adds with one of two flags as the carry, and changes no other one. -/
  | addWith (f : Flag) (w : Width) (target source : Operand)
  | move (w : Width) (target source : Operand)
  | moveSwapped (w : Width) (target source : Operand)
  | extend (isSigned : Bool) (wide : Width) (target : Operand) (w : Width) (source : Operand)
  | moveIf (c : Condition) (w : Width) (target source : Operand)
  | setIf (c : Condition) (target : Operand)
  | exchange (w : Width) (a b : Operand)
  | exchangeAdd (w : Width) (target source : Operand)
  /-- Replaces a value if it is that of the accumulator. -/
  | compareExchange (w : Width) (target source : Operand)
  /-- Replaces two values if they are those of two registers. -/
  | compareExchangePair (w : Width) (place : Location)
  | address (w : Width) (target : Operand) (place : Location)
  /-- Replaces the lowest byte of the accumulator by that of a table. -/
  | translate (place : Location)
  | multiply (w : Width) (target a b : Operand)
  /-- The product of the accumulator and a value, in two registers. -/
  | multiplyWide (isSigned : Bool) (w : Width) (source : Operand)
  /-- The product of the data register and a value, which keeps the flags. -/
  | multiplyQuietly (w : Width) (highTarget lowTarget source : Operand)
  | divide (isSigned : Bool) (w : Width) (source : Operand)
  /-- Extends the accumulator to a width. -/
  | extendAccumulator (w : Width)
  /-- Fills the data register with the sign of the accumulator. -/
  | spreadSign (w : Width)
  /-- Continues a checksum with a value. -/
  | checksum (target : Operand) (w : Width) (source : Operand)
  | push (w : Width) (source : Operand)
  | pop (w : Width) (target : Operand)
  | pushFlags (w : Width)
  | popFlags (w : Width)
  /-- Copies flags to the second lowest byte of the accumulator. -/
  | loadFlags
  | storeFlags
  | loadSegment (segment : Register) (source : Operand)
  | popSegment (w : Width) (segment : Register)
  /-- Loads a general register and a segment register. -/
  | loadFar (w : Width) (segment : Register) (target : Operand) (place : Location)
  | enter (w : Width) (size depth : Nat)
  | leave (w : Width)
  | jump (offset : UInt64)
  | jumpIf (c : Condition) (offset : UInt64)
  | jumpTo (target : Operand)
  /-- Jumps if a count is zero. -/
  | jumpIfZero (w : Width) (offset : UInt64)
  /-- Decreases a count, and jumps unless it is zero then; perhaps only if the
      last comparison has found equality, or has not. -/
  | loop (w : Width) (isEqual : Option Bool) (offset : UInt64)
  | call (offset : UInt64)
  | callTo (target : Operand)
  /-- Returns, and drops so many bytes from the stack. -/
  | ret (drop : UInt64)
  /-- Returns to a segment. -/
  | returnFar (w : Width) (drop : UInt64)
  | returnInterrupt (w : Width)
  | jumpFar (isCall : Bool) (w : Width) (place : Location)
  | string (op : StringOperation) (w : Width) (place : Location) (repetition : Option Repetition)
  | setCarry (value : Bool)
  | flipCarry
  | setDirection (value : Bool)
  | vector (op : VectorOperation)
  | vectorTest (op : VectorTest)
  /-- Clears vector registers, or the upper halves of them. -/
  | clearVectors (keepsLower : Bool)
  /-- Copies the lanes of a vector whose masks are negative; the others become
      zero. -/
  | loadLanes (bits count : Nat) (mask target : Operand) (place : Location)
  | storeLanes (bits count : Nat) (mask source : Operand) (place : Location)
  /-- Copies such lanes from places at distances that a vector tells.  The mask
      becomes zero. -/
  | gatherLanes (bits indexBits count target index mask : Nat) (place : Location) (scale : Nat)
  /-- An operation on the floating-point stack, with the bits of it that are
      kept if it is to stop the program. -/
  | stack (code : Nat) (op : StackOperation)
  /-- Leaves the short vectors: their registers hold no numbers. -/
  | leaveShortVectors
  /-- Loads the control of operations on vectors. -/
  | loadControl (place : Location)
  | storeControl (place : Location)
  /-- Loads or stores the floating-point stack and the vectors together. -/
  | loadState (isLong : Bool) (place : Location)
  | storeState (isLong : Bool) (place : Location)
  /-- Sets the base of a segment. -/
  | setBase (base : Register) (w : Width) (source : Operand)
  /-- Sets registers to what the processor says about itself. -/
  | inform (values : List (Register × UInt64))
  /-- Tells a value of the system that the kernel makes up: it replaces the lowest
      bytes of the target. -/
  | madeUp (n : Nat) (target : Operand) (value : Nat)
  /-- Tells what parts of the state the system takes care of. -/
  | extendedControl
  /-- Asks whether memory is changed on trial, which it is not. -/
  | askTrial
  /-- Asks about a segment; the zero flag tells whether there is an answer. -/
  | segment (question : SegmentQuestion) (w : Width) (target source : Operand)
  /-- Draws a number. -/
  | draw (w : Width) (target : Operand)
  | nothing
  | systemCall
  /-- Calls the system as 32-bit programs do. -/
  | systemCall32
  /-- Stops behind the instruction. -/
  | trap (report : Report)
  | refused (fault : Fault)

end SourceDebugger.Machine
