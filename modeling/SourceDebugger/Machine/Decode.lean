/-
  Decoding of instructions.  An instruction is a number of modifiers, one to
  three bytes that tell the operation, the operands, and the numbers in them.

  * `Instruction.decode` reads one instruction from the front of some bytes;
    bytes that are no instruction decode as one that is refused.
-/
import SourceDebugger.Machine.Decode.FloatingStack
import SourceDebugger.Machine.Decode.VectorExtended
import SourceDebugger.Machine.Decode.VectorMasked
import SourceDebugger.Machine.Decode.VectorSpecial

namespace SourceDebugger.Machine

/-- The operations that can be done without another processor in between. -/
def Instruction.isLockable : Instruction → Bool
  | .binary op _ (.memory _) _ => op ≠ .compare && op ≠ .test
  | .unary op _ (.memory _) => op ≠ .swapBytes
  | .bit change _ (.memory _) _ => change ≠ .keep
  | .exchange _ (.memory _) _ => true
  | .exchangeAdd _ (.memory _) _ => true
  | .compareExchange _ (.memory _) _ => true
  | .compareExchangePair .. => true
  | _ => false

namespace Reader

/-- An operation behind the byte `0x0f`. -/
def escaped (m : Modifiers) : Reader Instruction := do
  let op := (← byte).toNat
  match op with
  | 0x38 => do
    let op := (← byte).toNat
    (extendedOperation? m op).getD (threeByte m op)
  | 0x3a => do
    let op := (← byte).toNat
    (numberedOperation? m op).getD (return undefined)
  | _ => (vectorOperation? m op).getD (twoByte m op)
where
  /-- An operation on vectors of three bytes. -/
  extendedOperation? (m : Modifiers) (op : Nat) : Option (Reader Instruction) :=
    extendedVector? m op <|> specialVector? m op <|> maskedVector? m op

  /-- An operation on vectors of three bytes and a number. -/
  numberedOperation? (m : Modifiers) (op : Nat) : Option (Reader Instruction) :=
    numberedVector? m op <|> specialNumbered? m op

  /-- An operation on vectors of two bytes. -/
  vectorOperation? (m : Modifiers) (op : Nat) : Option (Reader Instruction) :=
    if op = 0xf7 then some (maskedBytes m)
    else vectorMove? m op <|> floatingVector? m op <|>
      integerVector m (integerVector2? op) (longVector2? op)

/-- The fields that an operation on vectors has in two or three bytes of its own,
    and what the number of the operation begins with. -/
def vectorFields (m : Modifiers) (isLong : Bool) : Reader (Modifiers × Nat) := do
  let a := (← byte).toNat
  let b ← if isLong then (·.toNat) <$> byte else pure a
  let inverted (n i : Nat) : Nat := if n.testBit i then 0 else 1
  let extension :=
    if isLong then inverted a 5 + 2 * inverted a 6 + 4 * inverted a 7 + 8 * (b / 128)
    else 4 * inverted a 7
  let repetition? : Option Repetition := match b % 4 with
    | 2 => some .whileEqual
    | 3 => some .untilEqual
    | _ => none
  return ({ m with
    isHalf := b % 4 = 1, repetition := repetition?, extension := some extension
    vector := some { first := 15 - b / 8 % 16, isWide := b.testBit 2 } },
    if isLong then a % 32 else 1)

/-- An operation with such fields. -/
def vectorEncodedOperation (m : Modifiers) (isLong : Bool) : Reader Instruction := do
  if m.isHalf || m.isLocked || m.repetition.isSome || m.extension.isSome then return undefined
  let (m, start) ← vectorFields m isLong
  let op := (← byte).toNat
  match start, m.vector with
  | 1, some fields =>
    if op = 0x77 then return .clearVectors (!fields.isWide)
    else (escaped.vectorOperation? m op).getD (controlOperation m op)
  | 2, some fields => (escaped.extendedOperation? m op).getD (vectorEncoded m fields op)
  | 3, _ =>
    if op = 0xf0 ∧ m.selector = .unequal then do
      let w := m.longWidth
      let f ← form m
      let count ← number 1
      return .shiftQuietly .rotateRight w (f.register m w) (f.operand m w) (.immediate count)
    else (escaped.numberedOperation? m op).getD (return undefined)
  | _, _ => return undefined
where
  /-- The operations on the control of vectors. -/
  controlOperation (m : Modifiers) (op : Nat) : Reader Instruction := do
    if op ≠ 0xae then return undefined
    match m.selector, ← group15 m with
    | .plain, .loadControl place => return .loadControl place
    | .plain, .storeControl place => return .storeControl place
    | _, _ => return undefined

def instruction : Reader Instruction := do
  let m ← modifiers {}
  let op ← byte
  let found ← match op with
    | 0x0f => escaped m
    | 0xc4 => vectorEncodedOperation m true
    | 0xc5 => vectorEncodedOperation m false
    | 0x9b => pure (.stack 0 .await)
    | _ => if op.toNat / 8 = 0x1b then stackOperation m op.toNat else oneByte m op.toNat
  return if m.isLocked && !found.isLockable then undefined else found

end Reader

/-- The largest number of bytes of an instruction. -/
def longestInstruction : Nat := 15

/-- The instruction that bytes begin with, and how many belong to it; `none` if
    there are too few. -/
def Instruction.decode (bs : List UInt8) : Option (Instruction × Nat) :=
  (Reader.instruction.run bs).map fun (i, rest) => (i, bs.length - rest.length)

end SourceDebugger.Machine
