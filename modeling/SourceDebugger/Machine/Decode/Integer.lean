/-
  The operations on integers, and those that jump or concern the processor, by
  their numbers.

  * `Reader.oneByte` reads the operands of an operation of one byte,
    `Reader.twoByte` those of one whose first byte is `0x0f`;
  * `Reader.threeByte` and `Reader.vectorEncoded` read the few that have longer
    numbers, or modifiers like those of operations on vectors.

  Where there is no operation, the result is an instruction that is refused.
-/
import SourceDebugger.Machine.Decode.Fields

namespace SourceDebugger.Machine.Reader

def undefined : Instruction := .refused .undefined

def privileged : Instruction := .refused .protection

/-! ## Operands of integer operations -/

/-- The width of an operation whose lowest bit tells bytes from larger
    values. -/
def widthOf (m : Modifiers) (op : Nat) : Width := if op % 2 = 0 then .byte else m.width

def accumulator : Operand := .register .rax

def counter : Operand := .register .rcx

/-- The register that the lowest bits of an operation name. -/
def named (m : Modifiers) (w : Width) (op : Nat) : Operand :=
  m.register w (m.number 0 (op % 8))

/-- An operation on a value and a register. -/
def valueRegister (m : Modifiers) (w : Width) (f : Operand → Operand → Instruction) :
    Reader Instruction := do
  let form ← form m
  return f (form.operand m w) (form.register m w)

/-- An operation on a place in memory and a register. -/
def placeRegister (m : Modifiers) (w : Width) (f : Location → Operand → Instruction) :
    Reader Instruction := do
  let form ← form m
  return if form.isMemory then f form.place (form.register m w) else undefined

/-- An operation on a value, whose kind is told by a field. -/
def valueField (m : Modifiers) (w : Width) (f : Nat → Operand → Instruction) :
    Reader Instruction := do
  let form ← form m
  return f form.field (form.operand m w)

/-- A string, by the register with its address. -/
def stringPlace (m : Modifiers) : Location :=
  { base := some .rsi, segment := m.segment, isShort := m.isShort }

/-! ## Operations of one byte -/

def binaryOf (n : Nat) : Binary :=
  [Binary.add, .or, .addCarry, .subtractBorrow, .and, .subtract, .xor, .compare].getD n .add

def shiftOf (n : Nat) : Shift :=
  [Shift.rotateLeft, .rotateRight, .rotateLeftCarry, .rotateRightCarry, .left, .right, .left,
    .rightSigned].getD n .left

/-- An operation on two values, by the way in which they are given. -/
def arithmetic (m : Modifiers) (op : Nat) : Reader Instruction :=
  let w := widthOf m op
  let kind := binaryOf (op / 8)
  match op % 8 / 2 with
  | 0 => valueRegister m w fun value register => .binary kind w value register
  | 1 => valueRegister m w fun value register => .binary kind w register value
  | _ => do return .binary kind w accumulator (← immediate w)

/-- An operation on a value and a number. -/
def arithmeticNumber (m : Modifiers) (op : Nat) : Reader Instruction := do
  let w := widthOf m op
  let f ← form m
  let number ← if op = 0x83 then .immediate <$> signed .byte else immediate w
  return .binary (binaryOf f.field) w (f.operand m w) number

def shift (m : Modifiers) (op : Nat) : Reader Instruction := do
  let w := widthOf m op
  let f ← form m
  let count ←
    if op < 0xd0 then .immediate <$> number 1
    else pure (if op < 0xd2 then .immediate 1 else counter)
  return .shift (shiftOf f.field) w (f.operand m w) count

/-- The operations on one value that also multiply and divide. -/
def group3 (m : Modifiers) (op : Nat) : Reader Instruction := do
  let w := widthOf m op
  let f ← form m
  let operand := f.operand m w
  match f.field with
  | 0 | 1 => return .binary .test w operand (← immediate w)
  | 2 => return .unary .not w operand
  | 3 => return .unary .negate w operand
  | 4 => return .multiplyWide false w operand
  | 5 => return .multiplyWide true w operand
  | 6 => return .divide false w operand
  | _ => return .divide true w operand

/-- The operations on one value that also jump and push. -/
def group5 (m : Modifiers) (op : Nat) : Reader Instruction := do
  let w := widthOf m op
  let f ← form m
  let kind := if w = .byte ∧ 2 ≤ f.field then 7 else f.field
  match kind with
  | 0 => return .unary .increment w (f.operand m w)
  | 1 => return .unary .decrement w (f.operand m w)
  | 2 => return .callTo (f.operand m .quad)
  | 4 => return .jumpTo (f.operand m .quad)
  | 3 | 5 => return if f.isMemory then .jumpFar (f.field = 3) w f.place else undefined
  | 6 => return .push m.stackWidth (f.operand m m.stackWidth)
  | _ => return undefined

/-- Copies between a segment register and a value. -/
def moveSegment (m : Modifiers) (isLoad : Bool) : Reader Instruction := do
  let f ← form m
  match segments[f.field]? with
  | none => return undefined
  | some segment =>
    if isLoad then
      return if segment = .cs then undefined else .loadSegment segment (f.operand m .half)
    else
      let w := if f.isMemory then .half else m.width
      return .move w (f.operand m w) (.register segment)

/-- Copies between the accumulator and a place whose address follows. -/
def moveAbsolute (m : Modifiers) (op : Nat) : Reader Instruction := do
  let w := widthOf m op
  let a ← number m.addressWidth.bytes
  let place : Operand := .memory { displacement := a, segment := m.segment }
  return if op < 0xa2 then .move w accumulator place else .move w place accumulator

/-- An interrupt that the program asks for.  No other one is open to it. -/
def interrupt (n : UInt8) : Instruction :=
  if n = 3 then .trap (.signal .sigtrap kernelCode)
  else if n = 4 then .trap (.signal .sigsegv kernelCode)
  else if n = 0x80 then .systemCall32
  else privileged

def stringOf (op : Nat) : StringOperation :=
  if op < 0xa6 then .move else if op < 0xa8 then .compare else if op < 0xac then .store
  else if op < 0xae then .load else .scan

/-- The operations that name a register by their lowest bits. -/
def oneByteNamed (m : Modifiers) (op : Nat) : Reader Instruction := do
  let w := m.width
  match op / 8 with
  | 0x0a => return .push m.stackWidth (named m m.stackWidth op)
  | 0x0b => return .pop m.stackWidth (named m m.stackWidth op)
  | 0x0e | 0x0f => return .jumpIf (.ofNumber op) (← signed .byte)
  | 0x12 =>
    return if op = 0x90 ∧ !m.bit 0 then .nothing else .exchange w accumulator (named m w op)
  | 0x16 => return .move .byte (named m .byte op) (← immediate .byte)
  | 0x17 => return .move w (named m w op) (.immediate (← number w.bytes))
  | _ => return undefined

/-- An operation of one byte. -/
def oneByte (m : Modifiers) (op : Nat) : Reader Instruction := do
  let w := m.width
  let v := widthOf m op
  if op < 0x40 then return ← if op % 8 < 6 then arithmetic m op else pure undefined
  match op with
  | 0x63 =>
    let source := if w = .half then .half else Width.long
    valueRegister m w fun value register => .extend true w register source value
  | 0x68 => return .push m.stackWidth (← immediate m.stackWidth)
  | 0x6a => return .push m.stackWidth (.immediate (← signed .byte))
  | 0x69 | 0x6b => do
    let f ← form m
    let number ← if op = 0x6b then .immediate <$> signed .byte else immediate w
    return .multiply w (f.register m w) (f.operand m w) number
  | 0x6c | 0x6d | 0x6e | 0x6f | 0xec | 0xed | 0xee | 0xef | 0xf4 | 0xfa | 0xfb =>
    return privileged
  | 0xe4 | 0xe5 | 0xe6 | 0xe7 => do
    let _ ← byte
    return privileged
  | 0x80 | 0x81 | 0x83 => arithmeticNumber m op
  | 0x84 | 0x85 => valueRegister m v (.binary .test v)
  | 0x86 | 0x87 => valueRegister m v (.exchange v)
  | 0x88 | 0x89 => valueRegister m v (.move v)
  | 0x8a | 0x8b => valueRegister m v fun value register => .move v register value
  | 0x8c | 0x8e => moveSegment m (op = 0x8e)
  | 0x8d => placeRegister m w fun place register => .address w register place
  | 0x8f =>
    valueField m m.stackWidth fun field value =>
      if field = 0 then .pop m.stackWidth value else undefined
  | 0x98 => return .extendAccumulator w
  | 0x99 => return .spreadSign w
  | 0x9c => return .pushFlags m.stackWidth
  | 0x9d => return .popFlags m.stackWidth
  | 0x9e => return .storeFlags
  | 0x9f => return .loadFlags
  | 0xa0 | 0xa1 | 0xa2 | 0xa3 => moveAbsolute m op
  | 0xa8 | 0xa9 => return .binary .test v accumulator (← immediate v)
  | 0xa4 | 0xa5 | 0xa6 | 0xa7 | 0xaa | 0xab | 0xac | 0xad | 0xae | 0xaf =>
    return .string (stringOf op) v (stringPlace m) m.repetition
  | 0xc0 | 0xc1 | 0xd0 | 0xd1 | 0xd2 | 0xd3 => shift m op
  | 0xc2 => return .ret (← number 2)
  | 0xc3 => return .ret 0
  | 0xc6 | 0xc7 => do
    let f ← form m
    let number ← immediate v
    let isAbort := op = 0xc6 ∧ f.field = 7 ∧ !f.isMemory ∧ f.other = 0
    return if isAbort then .nothing
      else if f.field = 0 then .move v (f.operand m v) number else undefined
  | 0xc8 => return .enter m.stackWidth (← number 2).toNat (← number 1).toNat
  | 0xc9 => return .leave m.stackWidth
  | 0xca => return .returnFar w (← number 2)
  | 0xcb => return .returnFar w 0
  | 0xcc => return interrupt 3
  | 0xcd => return interrupt (← byte)
  | 0xcf => return .returnInterrupt w
  | 0xd7 =>
    return .translate { base := some .rbx, segment := m.segment, isShort := m.isShort }
  | 0xe0 | 0xe1 => return .loop m.addressWidth (some (op = 0xe1)) (← signed .byte)
  | 0xe2 => return .loop m.addressWidth none (← signed .byte)
  | 0xe3 => return .jumpIfZero m.addressWidth (← signed .byte)
  | 0xe8 => return .call (← signed .long)
  | 0xe9 => return .jump (← signed .long)
  | 0xeb => return .jump (← signed .byte)
  | 0xf1 => return .trap (.signal .sigtrap breakpointCode)
  | 0xf5 => return .flipCarry
  | 0xf6 | 0xf7 => group3 m op
  | 0xf8 | 0xf9 => return .setCarry (op = 0xf9)
  | 0xfc | 0xfd => return .setDirection (op = 0xfd)
  | 0xfe | 0xff => group5 m op
  | _ => oneByteNamed m op

/-! ## Operations of two bytes -/

def bitChangeOf (n : Nat) : BitChange :=
  [BitChange.keep, .set, .reset, .flip].getD (n % 4) .keep

/-- The operations that find or count bits. -/
def searchBits (m : Modifiers) (op : Nat) : Reader Instruction :=
  let w := m.width
  let isCount := m.repetition = some .whileEqual
  let kind? : Option BitSearch := match op with
    | 0xb8 => if isCount then some .population else none
    | 0xbc => some (if isCount then .trailingZeros else .lowest)
    | _ => some (if isCount then .leadingZeros else .highest)
  match kind? with
  | some kind => valueRegister m w fun value register => .search kind w register value
  | none => pure undefined

/-- What the processor says about its time and itself. -/
def inform (rax rbx rcx rdx : UInt64) : Instruction :=
  .inform [(.rax, rax), (.rbx, rbx), (.rcx, rcx), (.rdx, rdx)]

/-- A value of the system that the kernel makes up. -/
def madeUp (m : Modifiers) (f : Form) (value : Nat) : Instruction :=
  let w := if f.isMemory then Width.half else m.width
  .madeUp w.bytes (f.operand m w) value

/-- The operations on tables of the system. -/
def systemTables (m : Modifiers) : Reader Instruction := do
  let f ← form m
  match f.field with
  | 0 => return madeUp m f 0
  | 1 => return madeUp m f 0x40
  | 2 | 3 => return privileged
  | 4 => return .segment .isReadable .half (.immediate 0) (f.operand m .half)
  | 5 => return .segment .isWritable .half (.immediate 0) (f.operand m .half)
  | _ => return undefined

/-- The operations on the state of the processor. -/
def systemState (m : Modifiers) : Reader Instruction := do
  let f ← form m
  match f.field, f.isMemory with
  | 4, _ => return madeUp m f 0x80050033
  | 6, _ | 2, true | 3, true | 7, true => return privileged
  | 0, true => return .madeUp 10 (.memory f.place) (0xfffffffffffe0000 * 2 ^ 16)
  | 1, true => return .madeUp 10 (.memory f.place) (0xffffffffffff0000 * 2 ^ 16)
  | 2, false =>
    match f.other with
    | 0 => return .extendedControl
    | 1 | 5 => return privileged
    | 6 => return .askTrial
    | _ => return undefined
  | 7, false =>
    match f.other with
    | 0 => return privileged
    | 1 => return .inform [(.rax, 0), (.rcx, 0), (.rdx, 0)]
    | _ => return undefined
  | 5, false => return if f.other = 0 then .nothing else undefined
  | _, _ => return undefined

/-- The operations that exchange pairs, and those that draw numbers. -/
def group9 (m : Modifiers) : Reader Instruction := do
  let f ← form m
  match f.field, f.isMemory with
  | 1, true => return .compareExchangePair m.longWidth f.place
  | 6, false => return if m.repetition.isSome then undefined else drawn f
  | 7, false =>
    match m.repetition with
    | none => return drawn f
    | some .whileEqual => return .move .quad (f.operand m .quad) (.immediate 0)
    | some .untilEqual => return undefined
  | _, _ => return undefined
where
  drawn (f : Form) : Instruction := .draw m.width (f.operand m m.width)

/-- The operations on the state of vectors, and the fences. -/
def group15 (m : Modifiers) : Reader Instruction := do
  let f ← form m
  let w := m.longWidth
  let touch := Instruction.move .byte (.immediate 0) (.memory f.place)
  match m.selector, f.isMemory, f.field with
  | .plain, true, 2 => return .loadControl f.place
  | .plain, true, 3 => return .storeControl f.place
  | .equal, false, 0 => return .move w (f.operand m w) (.register .fs_base)
  | .equal, false, 1 => return .move w (f.operand m w) (.register .gs_base)
  | .equal, false, 2 => return .setBase .fs_base w (f.operand m w)
  | .equal, false, 3 => return .setBase .gs_base w (f.operand m w)
  | .equal, _, 4 => return .move w (.immediate 0) (f.operand m w)
  | .plain, true, 0 => return .storeState (m.bit 3) f.place
  | .plain, true, 1 => return .loadState (m.bit 3) f.place
  | .plain, true, 7 | .half, true, 6 | .half, true, 7 => return touch
  | .plain, false, 5 | .plain, false, 6 | .plain, false, 7 => return .nothing
  | _, _, _ => return undefined

/-- An operation of two bytes, by its second one. -/
def twoByte (m : Modifiers) (op : Nat) : Reader Instruction := do
  let w := m.width
  let v := widthOf m op
  match op with
  | 0x00 => systemTables m
  | 0x01 => systemState m
  | 0x02 | 0x03 => do
    let f ← form m
    let question := if op = 0x02 then SegmentQuestion.rights else .limit
    return .segment question w (f.register m w) (f.operand m .half)
  | 0x05 => return .systemCall
  | 0x06 | 0x07 | 0x08 | 0x09 | 0x30 | 0x32 | 0x33 | 0x35 => return privileged
  | 0x20 | 0x21 | 0x22 | 0x23 => do
    let _ ← byte
    return privileged
  | 0x0d | 0x18 | 0x19 | 0x1a | 0x1b | 0x1c | 0x1d | 0x1e | 0x1f => do
    let _ ← form m
    return .nothing
  | 0x31 => return .inform [(.rax, 0), (.rdx, 0)]
  | 0x34 => return .refused .unmapped
  | 0xa0 | 0xa8 => return .push m.stackWidth (.register (if op = 0xa0 then .fs else .gs))
  | 0xa1 | 0xa9 => return .popSegment m.stackWidth (if op = 0xa1 then .fs else .gs)
  | 0xa2 => return inform 0 0 0 0
  | 0xa3 | 0xab | 0xb3 | 0xbb => valueRegister m w (.bit (bitChangeOf (op / 8)) w)
  | 0xba => do
    let f ← form m
    let index ← number 1
    let index := index % UInt64.ofNat w.bits
    return if f.field < 4 then undefined
      else .bit (bitChangeOf f.field) w (f.operand m w) (.immediate index)
  | 0xa4 | 0xa5 | 0xac | 0xad => do
    let f ← form m
    let count ← if op % 2 = 0 then .immediate <$> number 1 else pure counter
    return .shiftDouble (op < 0xa8) w (f.operand m w) (f.register m w) count
  | 0x77 => return .leaveShortVectors
  | 0xae => group15 m
  | 0xaf => valueRegister m w fun value register => .multiply w register register value
  | 0xb0 | 0xb1 => valueRegister m v (.compareExchange v)
  | 0xb2 | 0xb4 | 0xb5 =>
    let segment : Register := if op = 0xb2 then .ss else if op = 0xb4 then .fs else .gs
    placeRegister m w fun place register => .loadFar w segment register place
  | 0xb6 | 0xb7 | 0xbe | 0xbf =>
    let source := if op % 2 = 0 then Width.byte else .half
    do
      let f ← form m
      return .extend (0xb8 ≤ op) w (f.register m w) source (f.operand m source)
  | 0xb8 | 0xbc | 0xbd => searchBits m op
  | 0xc0 | 0xc1 => valueRegister m v (.exchangeAdd v)
  | 0xc3 =>
    let w := m.longWidth
    placeRegister m w fun place register => .move w (.memory place) register
  | 0xc7 => group9 m
  | _ =>
    match op / 8 with
    | 0x08 | 0x09 =>
      valueRegister m w fun value register => .moveIf (.ofNumber op) w register value
    | 0x10 | 0x11 => return .jumpIf (.ofNumber op) (← signed .long)
    | 0x12 | 0x13 => valueField m .byte fun _ value => .setIf (.ofNumber op) value
    | 0x19 => return .unary .swapBytes w (named m w op)
    | _ => return undefined

/-! ## Longer operations -/

/-- An operation of three bytes that is none on vectors, by its last one. -/
def threeByte (m : Modifiers) (op : Nat) : Reader Instruction :=
  let w := m.width
  match op, m.selector with
  | 0xf0, .unequal => do
    let f ← form m
    return .checksum (f.register m .long) .byte (f.operand m .byte)
  | 0xf1, .unequal => valueRegister m w fun value register => .checksum register w value
  | 0xf0, .plain | 0xf0, .half =>
    placeRegister m w fun place register => .moveSwapped w register (.memory place)
  | 0xf1, .plain | 0xf1, .half =>
    placeRegister m w fun place register => .moveSwapped w (.memory place) register
  | 0xf6, .half =>
    let w := m.longWidth
    valueRegister m w fun value register => .addWith .carry w register value
  | 0xf6, .equal =>
    valueRegister m w fun value register => .addWith .overflow w register value
  | _, _ => pure undefined

/-- An operation on integers with the modifiers of operations on vectors. -/
def vectorEncoded (m : Modifiers) (fields : VectorFields) (op : Nat) : Reader Instruction := do
  let w := m.longWidth
  let f ← form m
  let first := m.register w fields.first
  let value := f.operand m w
  let register := f.register m w
  match op, m.selector with
  | 0xf2, .plain => return .select .andNot w register first value
  | 0xf3, .plain =>
    match f.field with
    | 1 => return .lowestBit .reset w first value
    | 2 => return .lowestBit .maskUpTo w first value
    | 3 => return .lowestBit .isolate w first value
    | _ => return undefined
  | 0xf5, .plain => return .select .below w register value first
  | 0xf5, .equal => return .select .gather w register first value
  | 0xf5, .unequal => return .select .deposit w register first value
  | 0xf6, .unequal => return .multiplyQuietly w register first value
  | 0xf7, .plain => return .select .extract w register value first
  | 0xf7, .half => return .shiftQuietly .left w register value first
  | 0xf7, .equal => return .shiftQuietly .rightSigned w register value first
  | 0xf7, .unequal => return .shiftQuietly .right w register value first
  | _, _ => return undefined

end SourceDebugger.Machine.Reader
