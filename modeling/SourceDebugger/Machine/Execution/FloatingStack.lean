/-
  Execution of operations on the floating-point stack.
-/
import SourceDebugger.Machine.Execution
import SourceDebugger.Machine.FloatingStack.Operations

namespace SourceDebugger.Machine.Execution

def floatingStack : Execution FloatingStack := do return (← get).floating

def setStack (s : FloatingStack) : Execution Unit := modify ({ · with floating := s })

def changeStack (f : FloatingStack → FloatingStack) : Execution Unit := do
  setStack (f (← floatingStack))

/-- A number in memory, of `n` bytes. -/
def readPlace (n : Nat) (place : Location) : Execution Nat := readBytes n (.memory place)

/-- The bytes of a number of the stack. -/
def readExtended (place : Location) : Execution Nat := readPlace Extended.bytes place

/-- The number that an operation reads; none if it is missing. -/
def stackOperand : StackSource → Execution (Option StackOperand)
  | .depth i => do return (← floatingStack).operand? i
  | .number f place => do return some (.ofFormat f (← readPlace f.bytes place))
  | .extended place => do return some (.ofExtended (← readExtended place))
  | .integer w place => do return some (.ofInt (w.signed (← readPlace w.bytes place)))
  | .decimal place => do
    return some ⟨some (FloatingStack.ofDecimal (← readExtended place)), false⟩
  | .constant x => return some ⟨some x, false⟩

/-- Pushes a number. -/
def loadStack : StackSource → Execution Unit
  | .depth i => changeStack (·.duplicate i)
  | .number f place => do
    let n ← readPlace f.bytes place
    changeStack (·.load (FloatingStack.loaded f n))
  | .extended place => do
    let n ← readExtended place
    changeStack (·.load ⟨n, 0, false⟩)
  | .integer w place => do
    let n ← readPlace w.bytes place
    changeStack (·.load (.exact 0 (.ofInt (w.signed n))))
  | .decimal place => do
    let n ← readExtended place
    changeStack (·.load (.exact 0 (FloatingStack.ofDecimal n)))
  | .constant x => changeStack fun s => s.load (s.constant x)

/-- Stores what an operation gives, if it gives something. -/
def storeStack (n : Nat) (place : Location) (op : FloatingStack → Option Nat × FloatingStack) :
    Execution Unit := do
  let (result, s) := op (← floatingStack)
  match result with
  | some v => writeBytes n (.memory place) v
  | none => pure ()
  setStack s

/-- The flags for an order. -/
def orderFlags (found : Option Ordering) : List (Flag × Bool) :=
  [(.zero, found = some .eq || found = none), (.parity, found = none),
   (.carry, found = some .lt || found = none), (.overflow, false), (.sign, false),
   (.adjust, false)]

def compareStack (isStrict : Bool) (pops : Nat) (toFlags : Bool) (source : StackSource) :
    Execution Unit := do
  let operand ← stackOperand source
  let (found, s) := (← floatingStack).compare isStrict operand pops
  if toFlags then
    setStack s
    setFlags (orderFlags found)
  else setStack (s.setOrder found)

/-- Does an operation. -/
def stackStep (op : StackOperation) : Execution Unit := do
  let environmentSize := FloatingStack.environmentSize
  let allSize (isHalf : Bool) : Nat := environmentSize isHalf + 8 * Extended.bytes
  let whole (s : FloatingStack) (isHalf : Bool) : Nat :=
    s.environment isHalf + s.allRegisters * 256 ^ environmentSize isHalf
  match op with
  | .load source => loadStack source
  | .arithmetic op target pops source => do
    let operand ← stackOperand source
    changeStack (·.arithmetic op target pops operand)
  | .compare isStrict pops toFlags source => compareStack isStrict pops toFlags source
  | .store f pops place => storeStack f.bytes place (·.toFormat? f pops)
  | .storeExtended place =>
    storeStack Extended.bytes place (·.store Extended.indefinite true fun a => (a, 0, false))
  | .storeInteger w truncates pops place =>
    storeStack w.bytes place (·.toInteger? w.bits truncates pops)
  | .storeDecimal place => storeStack Extended.bytes place (·.toDecimal?)
  | .moveIf c depth => do
    let condition := (← get).holds c
    changeStack (·.moveIf condition depth)
  | .change f | .changeAtOnce f => changeStack f
  | .await => pure ()
  | .storeStatus target => do write .half target (← floatingStack).statusWord
  | .loadControl place => do
    let n ← readPlace 2 place
    changeStack (·.setControl n)
  | .storeControl place => do write .half (.memory place) (← floatingStack).control
  | .loadEnvironment isHalf place => do
    let n ← readPlace (environmentSize isHalf) place
    changeStack (·.setEnvironment isHalf n)
  | .storeEnvironment isHalf place => do
    let s ← floatingStack
    writeBytes (environmentSize isHalf) (.memory place) (s.environment isHalf)
    setStack (s.setControl (s.control ||| 63))
  | .loadAll isHalf place => do
    let n ← readPlace (allSize isHalf) place
    changeStack fun s =>
      (s.setEnvironment isHalf n).setAllRegisters (n / 256 ^ environmentSize isHalf)
  | .storeAll isHalf place => do
    let s ← floatingStack
    writeBytes (allSize isHalf) (.memory place) (whole s isHalf)
    setStack s.emptied

/-- Does an operation, and keeps where it was. -/
def stack (start : Addr) (code : Nat) (op : StackOperation) : Execution Unit := do
  if !op.isAtOnce then awaitStack
  let t ← get
  stackStep op
  if !op.isControl then
    changeStack ({ · with lastAddress := start })
    if (← floatingStack).pending ≠ 0 then
      let place := (op.place?.map t.addressOf).getD 0
      changeStack ({ · with lastCode := code, lastPlace := place })

/-! ## With the vectors -/

/-- The bits of the control of vectors that can be set, as it is stored with
    them. -/
def vectorControlBits : Nat := 0xffff

/-- The number of bytes of the stack and the vectors together. -/
def stateSize : Nat := 416

/-- The place of the stack and the vectors together has to be aligned. -/
def alignState (place : Location) : Execution Unit := do
  if ((← get).addressOf place).toNat % 16 ≠ 0 then fault .protection

/-- Stores the stack and the vectors together. -/
def storeState (isLong : Bool) (place : Location) : Execution Unit := do
  alignState place
  let t ← get
  let vectors := t.vectors.toList.foldr (fun n rest => n % 2 ^ 128 + 2 ^ 128 * rest) 0
  let control := t.control.toWord + 2 ^ 32 * vectorControlBits
  let s := t.floating
  writeBytes stateSize (.memory place)
    (s.head isLong + 256 ^ FloatingStack.headSize *
      (control + 2 ^ 64 * (s.spreadRegisters + 2 ^ 1024 * vectors)))

/-- Loads the stack and the vectors together. -/
def loadState (isLong : Bool) (place : Location) : Execution Unit := do
  alignState place
  let n ← readPlace stateSize place
  let rest := n / 256 ^ FloatingStack.headSize
  let control := rest % 2 ^ 32
  if vectorControlBits < control then fault .protection
  let registers := rest / 2 ^ 64
  let vectors := registers / 2 ^ 1024
  modify fun t => { t with
    control := .ofWord control
    vectors := t.vectors.mapFinIdx fun i old _ => withLow 16 old (vectors / 2 ^ (128 * i)) }
  changeStack fun s => (s.setHead isLong n).setSpreadRegisters registers

end SourceDebugger.Machine.Execution
