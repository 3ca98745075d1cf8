/-
  Execution of single instructions.

  * `Execution.run` does what an instruction says;
  * `Thread.step` executes the instruction at the program counter.  A fault
    leaves the program as it was; a trap or a system call is left to the
    kernel, with the program counter behind the instruction.
-/
import SourceDebugger.Machine.Decode
import SourceDebugger.Machine.Execution.Bits
import SourceDebugger.Machine.Execution.FloatingStack
import SourceDebugger.Machine.Execution.Jumps
import SourceDebugger.Machine.Execution.Strings
import SourceDebugger.Machine.Execution.Vectors

namespace SourceDebugger.Machine

namespace Execution

/-- Does an instruction and goes on. -/
def ends (act : Execution Unit) : Execution Completion := do
  act
  return .done

/-- Executes the instruction at `start`, with the program counter already
    behind it. -/
def run (start : Addr) : Instruction → Execution Completion
  | .binary op w target source => ends (binary op w target source)
  | .unary op w target => ends (unary op w target)
  | .shift op w target count => ends (shift op w target count)
  | .shiftDouble isLeft w target source count => ends (shiftDouble isLeft w target source count)
  | .shiftQuietly op w target source count => ends (shiftQuietly op w target source count)
  | .bit change w target index => ends (bit change w target index)
  | .search op w target source => ends (search op w target source)
  | .select op w target a b => ends (select op w target a b)
  | .lowestBit op w target source => ends (lowestBit op w target source)
  | .addWith f w target source => ends (addWith f w target source)
  | .move w target source => ends do write w target (← read w source)
  | .moveSwapped w target source => ends do
    write w target (ByteOrder.big.number (littleBytes w.bytes (← read w source)))
  | .extend isSigned wide target w source => ends do
    write wide target (wide.ofInt (valueOf isSigned w (← read w source)))
  | .moveIf c w target source => ends do
    let (n, old) := (← read w source, ← read w target)
    write w target (if (← get).holds c then n else old)
  | .setIf c target => ends do write .byte target (if (← get).holds c then 1 else 0)
  | .exchange w a b => ends (exchange w a b)
  | .exchangeAdd w target source => ends (exchangeAdd w target source)
  | .compareExchange w target source => ends (compareExchange w target source)
  | .compareExchangePair w place => ends (compareExchangePair w place)
  | .address w target place => ends do write w target ((← get).offsetOf place).toNat
  | .translate place => ends do
    let index := UInt64.ofNat (← read .byte low)
    let place := { place with displacement := place.displacement + index }
    write .byte low (← read .byte (.memory place))
  | .multiply w target a b => ends (multiply w target a b)
  | .multiplyWide isSigned w source => ends (multiplyWide isSigned w source)
  | .multiplyQuietly w highTarget lowTarget source =>
    ends (multiplyQuietly w highTarget lowTarget source)
  | .divide isSigned w source => ends (divide isSigned w source)
  | .extendAccumulator w => ends do
    write w low (w.ofInt (w.halved.signed (← read w.halved low)))
  | .spreadSign w => ends do
    write w (.register .rdx) (if w.isNegative (← read w low) then w.modulus - 1 else 0)
  | .checksum target w source => ends (checksum target w source)
  | .push w source => ends do push w (← read w source)
  | .pop w target => ends do write w target (← pop w)
  | .pushFlags w => ends (pushFlags w)
  | .popFlags w => ends (popFlags w)
  | .loadFlags => ends copyFlags
  | .storeFlags => ends storeFlags
  | .loadSegment segment source => do
    loadSegment segment (← read .half source)
    return afterSegment segment
  | .popSegment w segment => ends (popSegment w segment)
  | .loadFar w segment target place => do
    loadFar w segment target place
    return afterSegment segment
  | .enter w size depth => ends (enter w size depth)
  | .leave w => ends (leave w)
  | .jump offset => ends (skip offset)
  | .jumpIf c offset => ends (jumpIf c offset)
  | .jumpTo target => ends do goTo (UInt64.ofNat (← read .quad target))
  | .jumpIfZero w offset => ends (jumpIfZero w offset)
  | .loop w isEqual offset => ends (loop w isEqual offset)
  | .call offset => ends do
    pushNext
    skip offset
  | .callTo target => ends (callTo target)
  | .ret drop => ends (ret drop)
  | .returnFar w drop => ends (returnFar w drop)
  | .returnInterrupt w => ends (returnInterrupt w)
  | .jumpFar isCall w place => ends (jumpFar isCall w place)
  | .string op w place repetition => ends (string op w place repetition start)
  | .setCarry value => ends (setFlags [(.carry, value)])
  | .flipCarry => ends do setFlags [(.carry, !(← flag .carry))]
  | .setDirection value => ends (setFlags [(.direction, value)])
  | .vector op => ends (vector op)
  | .vectorTest op => ends (vectorTest op)
  | .clearVectors keepsLower => ends (clearVectors keepsLower)
  | .loadLanes bits count mask target place => ends (loadLanes bits count mask target place)
  | .storeLanes bits count mask source place => ends (storeLanes bits count mask source place)
  | .gatherLanes bits indexBits count target index mask place scale =>
    ends (gatherLanes bits indexBits count target index mask place scale)
  | .stack code op => ends (stack start code op)
  | .leaveShortVectors => ends do
    awaitStack
    modify fun t => { t with floating := { t.floating with used := 0, top := 0 } }
  | .loadControl place => ends do
    let n ← read .long (.memory place)
    if 2 ^ 16 ≤ n then fault .protection
    modify fun t => { t with control := .ofWord n }
  | .storeControl place => ends do write .long (.memory place) (← get).control.toWord
  | .loadState isLong place => ends (loadState isLong place)
  | .storeState isLong place => ends (storeState isLong place)
  | .setBase base w source => ends do
    let n ← read w source
    if !AddressSpace.isCanonical (UInt64.ofNat n) then fault .protection
    set base (UInt64.ofNat n)
  | .inform values => ends (values.forM fun (r, v) => set r v)
  | .madeUp n target value => do
    match target with
    | .register r => set r (UInt64.ofNat (withLow n ((← get).get r).toNat value))
    | _ => writeBytes n target value
    return .joined
  | .extendedControl => ends do
    if (← read .long (.register .rcx)) ≠ 0 then fault .protection
    set .rax 0x600e7
    set .rdx 0
  | .askTrial => ends (setFlags [(.zero, true), (.carry, false), (.overflow, false),
      (.sign, false), (.adjust, false), (.parity, false)])
  | .segment question w target source => ends (askSegment question w target source)
  | .draw w target => ends do
    write w target 0x9e3779b97f4a7c15
    setFlags [(.carry, true), (.overflow, false), (.sign, false), (.zero, false),
      (.adjust, false), (.parity, false)]
  | .nothing => return .done
  | .systemCall => return .systemCall
  | .systemCall32 => return .systemCall32
  | .trap report => return .trapped report
  | .refused e => fault e

end Execution

namespace Thread

/-- The instruction at the program counter, and its length.  Bytes that cannot
    be executed count only if the instruction reaches them. -/
def fetch (t : Thread) : Except Fault (Instruction × Nat) :=
  let bs := t.memory.accessible .execute t.pc longestInstruction
  match Instruction.decode bs with
  | some found => .ok found
  | none =>
    match t.memory.check .execute (t.pc + UInt64.ofNat bs.length) with
    | .error e => .error (if bs.length = longestInstruction then .protection else e)
    | .ok () => .error .protection

/-- Executes the instruction at the program counter. -/
def step (t : Thread) : Except Fault (Completion × Thread) := do
  let (i, n) ← t.fetch
  let next := t.setFlag .again false
  StateT.run (Execution.run t.pc i) (next.set .rip (t.pc + UInt64.ofNat n))

/-- The program as the kernel finds it when an instruction has faulted. -/
def faulted (t : Thread) : Thread := t.setFlag .again true

end Thread

end SourceDebugger.Machine
