/-
  The operations on vectors of floating-point numbers.

  * `Reader.floatingVector?` reads the operations of two bytes;
  * `Reader.orderTest` is what a comparison asks, by its number.
-/
import SourceDebugger.Machine.Decode.VectorFields
import SourceDebugger.Machine.Reciprocal

namespace SourceDebugger.Machine

namespace Selector

/-- The format of the numbers. -/
def format : Selector → Format
  | .plain | .equal => .single
  | .half | .unequal => .double

/-- Only the first numbers take part. -/
def isScalar : Selector → Bool
  | .equal | .unequal => true
  | _ => false

end Selector

namespace Reader

/-! ## Lane by lane -/

/-- An operation on pairs of numbers, or on the first pair. -/
def floatingPairs (m : Modifiers) (apply : Nat → Nat → Floating Nat) (f : Form) : Instruction :=
  let format := m.selector.format
  if m.selector.isScalar then
    combine m f format.bytes false fun a b => do
      let low ← apply (Lanes.lane format.bits a 0) b
      return Lanes.replaceLow format.bits (a % 2 ^ 128) low
  else combine m f m.vectorBytes true (Lanes.compute format.bits apply m.vectorBytes)

/-- An operation on numbers, or on the first one. -/
def floatingEach (m : Modifiers) (apply : Nat → Floating Nat) (f : Form) : Instruction :=
  let format := m.selector.format
  if m.selector.isScalar then
    combine m f format.bytes false fun a b => do
      return Lanes.replaceLow format.bits (a % 2 ^ 128) (← apply b)
  else transform m f m.vectorBytes true (Lanes.computeEach format.bits apply m.vectorBytes)

/-! ## Comparisons -/

/-- What a comparison asks: whether operands without order are invalid, and the
    results that it finds true, less, equal, greater and without order. -/
def orderTest (number : Nat) : Bool × List Bool :=
  let isStrict := number % 16 ∈ [1, 2, 5, 6, 9, 10, 13, 14]
  let results : List (List Bool) :=
    [[false, true, false, false], [true, false, false, false], [true, true, false, false],
     [false, false, false, true], [true, false, true, true], [false, true, true, true],
     [false, false, true, true], [true, true, true, false], [false, true, false, true],
     [true, false, false, true], [true, true, false, true], [false, false, false, false],
     [true, false, true, false], [false, true, true, false], [false, false, true, false],
     [true, true, true, true]]
  (isStrict != (16 ≤ number), results.getD (number % 16) [])

def compareNumbers (format : Format) (number a b : Nat) : Floating Nat := do
  let (isStrict, results) := orderTest number
  let position := match ← format.compare isStrict a b with
    | some .lt => 0
    | some .eq => 1
    | some .gt => 2
    | none => 3
  return if results.getD position false then 2 ^ format.bits - 1 else 0

/-- Compares the first numbers; the flags are those of a comparison of integers
    without signs. -/
def compareFlags (m : Modifiers) (isStrict : Bool) : Reader Instruction := do
  let f ← form m
  let format := m.selector.format
  return provided m.hasNoFirst <| .vectorTest {
    sources := [(f.vector m, format.bytes), (f.vectorOperand m, format.bytes)]
    apply := fun vs => do
      let order ← format.compare isStrict (vs.getD 0 0) (vs.getD 1 0)
      return (0, [(.zero, order = some .eq || order.isNone), (.parity, order.isNone),
        (.carry, order = some .lt || order.isNone), (.overflow, false), (.sign, false),
        (.adjust, false)]) }

/-! ## Conversions -/

/-- Numbers from integers of 32 bits. -/
def fromLongs (format : Format) (count a : Nat) : Floating Nat := do
  let numbers ← ((Lanes.split 32 (4 * count) a).mapM fun x => format.ofSigned (Lanes.signed 32 x))
  return Lanes.join format.bits numbers

/-- The rounding of a conversion: that of the control, or toward zero. -/
def roundingOf (isCut : Bool) : Floating Rounding := do
  let control ← get
  return if isCut then .towardZero else control.rounding

/-- Integers of 32 bits from numbers. -/
def toLongs (format : Format) (isCut : Bool) (count a : Nat) : Floating Nat := do
  let rounding ← roundingOf isCut
  let lanes ← (Lanes.split format.bits (format.bytes * count) a).mapM (format.toSigned rounding 32)
  return Lanes.join 32 lanes

/-- Numbers in another format. -/
def changeFormat (old new : Format) (count a : Nat) : Floating Nat := do
  let lanes ← (Lanes.split old.bits (old.bytes * count) a).mapM (old.convert new)
  return Lanes.join new.bits lanes

/-- A number from an integer. -/
def convertInteger (m : Modifiers) : Reader Instruction := do
  let f ← form m
  let format := m.selector.format
  if m.selector.isScalar then
    let w := m.longWidth
    return ofInteger m f w fun a n => do
      return Lanes.replaceLow format.bits a (← format.ofSigned (w.signed n))
  else
    return provided (!m.isVector) <|
      copied (f.vector m) (2 * format.bytes) f.shortOperand 8 (fromLongs format 2)

/-- An integer from a number. -/
def convertNumber (m : Modifiers) (isCut : Bool) : Reader Instruction := do
  let f ← form m
  let format := m.selector.format
  if m.selector.isScalar then
    let w := m.longWidth
    return toInteger m f w format.bytes fun a => do
      format.toSigned (← roundingOf isCut) w.bits a
  else
    return provided (!m.isVector) <|
      copied f.short 8 (f.vectorOperand m) (2 * format.bytes) (toLongs format isCut 2)

/-- Numbers in the other format. -/
def convertFormat (m : Modifiers) (f : Form) : Instruction :=
  let n := m.vectorBytes
  let first (old new : Format) : Instruction :=
    combine m f old.bytes false fun a b => do
      return Lanes.replaceLow new.bits (a % 2 ^ 128) (← old.convert new b)
  match m.selector with
  | .plain => transform m f (n / 2) false (changeFormat .single .double (n / 8))
  | .half => transform m f n true (changeFormat .double .single (n / 8))
  | .equal => first .single .double
  | .unequal => first .double .single

/-- Numbers of 32 bits from integers, or the other way round. -/
def convertSingles (m : Modifiers) (f : Form) : Instruction :=
  let n := m.vectorBytes
  match m.selector with
  | .plain => transform m f n true (fromLongs .single (n / 4))
  | .half => transform m f n true (toLongs .single false (n / 4))
  | .equal => transform m f n true (toLongs .single true (n / 4))
  | .unequal => undefined

/-- Numbers of 64 bits from integers of 32 bits, or the other way round. -/
def convertDoubles (m : Modifiers) (f : Form) : Instruction :=
  let n := m.vectorBytes
  match m.selector with
  | .half => transform m f n true (toLongs .double true (n / 8))
  | .unequal => transform m f n true (toLongs .double false (n / 8))
  | .equal => transform m f (n / 2) false (fromLongs .double (n / 8))
  | .plain => undefined

/-! ## Sums of neighbours -/

/-- Sums or differences of neighbours, first those of one vector. -/
def neighbours (m : Modifiers) (apply : Format → Nat → Nat → Floating Nat) (f : Form) :
    Instruction :=
  let format := if m.selector = .half then Format.double else .single
  let block (a b : Nat) : Floating Nat := do
    let lanes := Lanes.pairs (Lanes.split format.bits 16 a ++ Lanes.split format.bits 16 b)
    return Lanes.join format.bits (← lanes.mapM fun (x, y) => apply format x y)
  combine m f m.vectorBytes true (Lanes.compute 128 block m.vectorBytes)

/-- Differences and sums, in turns. -/
def alternate (m : Modifiers) (f : Form) : Instruction :=
  let format := if m.selector = .half then Format.double else .single
  let n := m.vectorBytes
  combine m f n true fun a b => do
    let lanes := (Lanes.split format.bits n a).zip (Lanes.split format.bits n b)
    let results ← (lanes.zip (List.range lanes.length)).mapM fun ((x, y), i) =>
      if i % 2 = 0 then format.subtract x y else format.add x y
    return Lanes.join format.bits results

/-! ## All operations of two bytes -/

/-- The lane function of an arithmetic operation. -/
def floatingFunction? (format : Format) (op : Nat) : Option (Nat → Nat → Floating Nat) :=
  match op with
  | 0x58 => some format.add
  | 0x59 => some format.multiply
  | 0x5c => some format.subtract
  | 0x5d => some (format.choose .lt)
  | 0x5e => some format.divide
  | 0x5f => some (format.choose .gt)
  | _ => none

/-- The bitwise function of an operation on numbers. -/
def floatingBits? (op : Nat) : Option Lanes.Function :=
  match op with
  | 0x54 => some Lanes.and
  | 0x55 => some Lanes.andNot
  | 0x56 => some Lanes.or
  | 0x57 => some Lanes.xor
  | _ => none

def floatingVector? (m : Modifiers) (op : Nat) : Option (Reader Instruction) :=
  let format := m.selector.format
  let isPacked := !m.selector.isScalar
  let isHorizontal := m.selector = .half || m.selector = .unequal
  match op with
  | 0x2a => some (convertInteger m)
  | 0x2c => some (convertNumber m true)
  | 0x2d => some (convertNumber m false)
  | 0x2e | 0x2f => if isPacked then some (compareFlags m (op = 0x2f)) else none
  | 0x51 => some (floatingEach m format.squareRoot <$> form m)
  | 0x52 | 0x53 =>
    if format = .single then
      some (floatingEach m (fun a => pure (Reciprocal.approximate (op = 0x52) a)) <$> form m)
    else none
  | 0x54 | 0x55 | 0x56 | 0x57 =>
    if isPacked then
      (floatingBits? op).map fun bits => packed m fun n a b => pure (bits n a b)
    else none
  | 0x5a => some (convertFormat m <$> form m)
  | 0x5b => some (convertSingles m <$> form m)
  | 0xe6 => some (convertDoubles m <$> form m)
  | 0x7c =>
    if isHorizontal then some (neighbours m (fun format => format.add) <$> form m) else none
  | 0x7d =>
    if isHorizontal then some (neighbours m (fun format => format.subtract) <$> form m) else none
  | 0xd0 => if isHorizontal then some (alternate m <$> form m) else none
  | 0xc2 => some do
    let f ← form m
    let number := (← byte).toNat % (if m.isVector then 32 else 8)
    return floatingPairs m (compareNumbers format number) f
  | _ => (floatingFunction? format op).map fun apply => floatingPairs m apply <$> form m

end Reader

end SourceDebugger.Machine
