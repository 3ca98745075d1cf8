/-
  Computations on the bits of integers: shifts, single bits, and searches.
-/
import SourceDebugger.Machine.Execution.Arithmetic

namespace SourceDebugger.Machine.Execution

/-! ## Shifts -/

/-- How far a value is shifted at most. -/
def shiftCount (w : Width) (count : Operand) : Execution Nat := do
  return (← read .byte count) % (if w = .quad then 64 else 32)

/-- The value and the carry after a shift by a count that is not zero. -/
def shifted (op : Shift) (w : Width) (a carry count : Nat) : Nat × Bool :=
  let turn := count % w.bits
  let long := w.bits + 1
  let longTurn := count % long
  let whole := a + carry * w.modulus
  match op with
  | .left => (a * 2 ^ count % w.modulus, (a * 2 ^ count).testBit w.bits)
  | .right => (a / 2 ^ count, a.testBit (count - 1))
  | .rightSigned =>
    (w.ofInt (w.signed a / 2 ^ count), (w.signed a / 2 ^ (count - 1)) % 2 = 1)
  | .rotateLeft =>
    let n := a * 2 ^ turn % w.modulus + a / 2 ^ (w.bits - turn)
    (n, n.testBit 0)
  | .rotateRight =>
    let n := a / 2 ^ turn + a * 2 ^ (w.bits - turn) % w.modulus
    (n, w.isNegative n)
  | .rotateLeftCarry =>
    let n := whole * 2 ^ longTurn % 2 ^ long + whole / 2 ^ (long - longTurn)
    (n % w.modulus, n.testBit w.bits)
  | .rotateRightCarry =>
    let n := whole / 2 ^ longTurn + whole * 2 ^ (long - longTurn) % 2 ^ long
    (n % w.modulus, n.testBit w.bits)

/-- Whether the first step of a shift changes the sign.  Rotations by a number in
    the instruction do not tell, unless it is one. -/
def shiftOverflows (op : Shift) (w : Width) (a carry : Nat) : Bool :=
  let (n, _) := shifted op w a carry 1
  w.isNegative a != w.isNegative n

def isRotation : Shift → Bool
  | .rotateLeft | .rotateRight | .rotateLeftCarry | .rotateRightCarry => true
  | _ => false

/-- The operations leave the overflow of longer rotations if the count is a
    number in the instruction. -/
def keepsOverflow (op : Shift) (count : Operand) (n : Nat) : Bool :=
  (op = .rotateLeft || op = .rotateRight) && n ≠ 1 && count matches .immediate _

def shift (op : Shift) (w : Width) (target count : Operand) : Execution Unit := do
  let a ← read w target
  let n ← shiftCount w count
  let carry ← carryOf .carry
  let isIdle := n = 0 || (op ∈ [.rotateLeftCarry, .rotateRightCarry] && n % (w.bits + 1) = 0)
  if isIdle then write w target a
  else
    let (result, carried) := shifted op w a carry n
    if !isRotation op then
      setResult w result
      setFlags [(.adjust, false)]
    setFlags [(.carry, carried)]
    if !keepsOverflow op count n then setFlags [(.overflow, shiftOverflows op w a carry)]
    write w target result

/-- Shifts a value, and fills it with the bits of another one. -/
def shiftDouble (isLeft : Bool) (w : Width) (target source count : Operand) :
    Execution Unit := do
  let (a, b) := (← read w target, ← read w source)
  let count ← shiftCount w count
  if count = 0 then write w target a
  else
    let whole := if isLeft then (a * w.modulus + b) * w.modulus + a
      else (b * w.modulus + a) + a * w.modulus * w.modulus
    let (n, carry) :=
      if isLeft then
        (whole * 2 ^ count / w.modulus ^ 2 % w.modulus, whole.testBit (3 * w.bits - count))
      else (whole / 2 ^ count % w.modulus, whole.testBit (count - 1))
    setResult w n
    let next := if isLeft then a.testBit (w.bits - 2) else b.testBit 0
    setFlags [(.carry, carry), (.overflow, w.isNegative a != next), (.adjust, false)]
    write w target n

/-- Shifts a value, and keeps the flags. -/
def shiftQuietly (op : Shift) (w : Width) (target source count : Operand) :
    Execution Unit := do
  let a ← read w source
  let count ← shiftCount w count
  write w target (if count = 0 then a else (shifted op w a 0 count).1)

/-! ## Single bits -/

/-- A bit of an operand.  In memory it may be far from the place that is
    named. -/
def bitOperand (w : Width) (target index : Operand) : Execution (Operand × Nat) := do
  let i := w.signed (← read w index)
  let target := match target with
    | .memory place =>
      let distance := i / w.bits * w.bytes
      .memory { place with
        displacement := place.displacement + UInt64.ofNat (Width.quad.ofInt distance) }
    | other => other
  return (target, (i % w.bits).toNat)

def bit (change : BitChange) (w : Width) (target index : Operand) : Execution Unit := do
  let (target, i) ← bitOperand w target index
  let a ← read w target
  let mask := 2 ^ i
  setFlags [(.carry, a.testBit i)]
  match change with
  | .keep => pure ()
  | .set => write w target (a ||| mask)
  | .reset => write w target (a &&& (w.modulus - 1 - mask))
  | .flip => write w target (a ^^^ mask)

/-! ## Searches -/

/-- A result without carry and overflow, whose parity is not told. -/
def bitwiseOdd (w : Width) (n : Nat) : Execution Nat := do
  let n ← bitwise w n
  setFlags [(.parity, false)]
  return n

/-- The number of ones. -/
def population (w : Width) (n : Nat) : Nat := ((List.range w.bits).filter n.testBit).length

/-- The number of zeros below the lowest one. -/
def trailingZeros (w : Width) (n : Nat) : Nat := ((List.range w.bits).find? n.testBit).getD w.bits

/-- The number of zeros above the highest one. -/
def leadingZeros (w : Width) (n : Nat) : Nat := if n = 0 then w.bits else w.bits - 1 - n.log2

def search (op : BitSearch) (w : Width) (target source : Operand) : Execution Unit := do
  let a ← read w source
  let count (n : Nat) (carry : Bool) : Execution Unit := do
    discard (bitwiseOdd w n)
    setFlags [(.carry, carry), (.sign, false)]
    write w target n
  match op with
  | .lowest | .highest =>
    let n := if op = .lowest then trailingZeros w a else w.bits - 1 - leadingZeros w a
    discard (bitwise w (if a = 0 then 0 else n))
    setFlags [(.zero, a = 0)]
    if a ≠ 0 then write w target n
  | .trailingZeros => count (trailingZeros w a) (a = 0)
  | .leadingZeros => count (leadingZeros w a) (a = 0)
  | .population => count (population w a) false

/-! ## Selections -/

/-- The lowest bits of a number, at the positions of a mask. -/
def deposit (bits n mask : Nat) : Nat :=
  (((List.range bits).filter mask.testBit).mapIdx fun i position =>
    if n.testBit i then 2 ^ position else 0).sum

/-- The bits of a number at the positions of a mask. -/
def gather (bits n mask : Nat) : Nat :=
  (((List.range bits).filter mask.testBit).mapIdx fun i position =>
    if n.testBit position then 2 ^ i else 0).sum

def select (op : Selection) (w : Width) (target a b : Operand) : Execution Unit := do
  let (x, y) := (← read w a, ← read w b)
  let ones := w.modulus - 1
  match op with
  | .andNot => write w target (← bitwiseOdd w ((ones - x) &&& y))
  | .extract =>
    let n ← bitwiseOdd w (x / 2 ^ (y % 256) % 2 ^ (y / 256 % 256))
    setFlags [(.sign, false)]
    write w target n
  | .below =>
    let n ← bitwiseOdd w (x % 2 ^ (min (y % 256) w.bits))
    setFlags [(.carry, w.bits ≤ y % 256)]
    write w target n
  | .deposit => write w target (deposit w.bits x y)
  | .gather => write w target (gather w.bits x y)

def lowestBit (op : LowestBit) (w : Width) (target source : Operand) : Execution Unit := do
  let a ← read w source
  let less := (a + w.modulus - 1) % w.modulus
  let (n, carry) := match op with
    | .isolate => (a &&& (w.modulus - a) % w.modulus, a != 0)
    | .maskUpTo => (a ^^^ less, a == 0)
    | .reset => (a &&& less, a == 0)
  let n ← bitwiseOdd w n
  setFlags [(.carry, carry)]
  write w target n

/-! ## Checksums -/

/-- The remainder of a division of polynomials over two elements, from the
    lowest bit on. -/
def remainder (polynomial : Nat) : Nat → Nat → Nat
  | 0, n => n
  | k + 1, n => remainder polynomial k (if n % 2 = 1 then n / 2 ^^^ polynomial else n / 2)

def checksum (target : Operand) (w : Width) (source : Operand) : Execution Unit := do
  let n := (← read .long target) ^^^ (← read w source)
  write .quad target (remainder 0x82f63b78 w.bits n)

end SourceDebugger.Machine.Execution
