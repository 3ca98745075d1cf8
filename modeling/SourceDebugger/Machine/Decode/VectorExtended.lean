/-
  The operations on vectors of three bytes.

  * `Reader.extendedVector?` reads those whose second byte is `0x38`,
    `Reader.numberedVector?` those with `0x3a`, which end with a number.
-/
import SourceDebugger.Machine.Decode.Vector
import SourceDebugger.Machine.Decode.VectorFloating

namespace SourceDebugger.Machine.Reader

/-! ## Without a number -/

/-- Absolute values, of vectors or short ones. -/
def absoluteLanes (m : Modifiers) (bits : Nat) : Reader Instruction :=
  if m.selector = .plain ∧ !m.isVector then do
    let f ← form m
    return copied f.short 8 f.shortOperand 8 fun a => pure (Lanes.absolute bits 8 a)
  else packedEach m fun n a => pure (Lanes.absolute bits n a)

/-- Widens the first lanes of a vector. -/
def widenLanes (m : Modifiers) (op : Nat) : Reader Instruction := do
  let (narrow, wide) :=
    [(8, 16), (8, 32), (8, 64), (16, 32), (16, 64), (32, 64)].getD (op % 16) (8, 16)
  let n := m.vectorBytes
  return transform m (← form m) (n * narrow / wide) false fun a =>
    pure (Lanes.widen (op < 0x30) narrow wide n a)

/-- The flags of a test of bits: whether none is common, and whether all are. -/
def testBits (m : Modifiers) : Reader Instruction := do
  let f ← form m
  let n := m.vectorBytes
  return provided m.hasNoFirst <| .vectorTest {
    sources := [(f.vector m, n), (f.vectorOperand m, n)], isAligned := !m.isVector
    apply := fun vs =>
      let (a, b) := (vs.getD 0 0, vs.getD 1 0)
      pure (0, [(.zero, a &&& b = 0), (.carry, Lanes.andNot n a b = 0), (.overflow, false),
        (.sign, false), (.adjust, false), (.parity, false)]) }

/-- The flags of such a test of the highest bits of lanes. -/
def testSigns (m : Modifiers) (bits : Nat) : Reader Instruction := do
  let f ← form m
  let n := m.vectorBytes
  return provided m.hasNoFirst <| .vectorTest {
    sources := [(f.vector m, n), (f.vectorOperand m, n)]
    apply := fun vs =>
      let (a, b) := (vs.getD 0 0, vs.getD 1 0)
      pure (0, [(.zero, Lanes.signs bits n (a &&& b) = 0),
        (.carry, Lanes.signs bits n (Lanes.andNot n a b) = 0), (.overflow, false),
        (.sign, false), (.adjust, false), (.parity, false)]) }

/-- The smallest lane, and its position. -/
def smallest (a : Nat) : Nat :=
  let lanes := Lanes.split 16 16 a
  let least := lanes.foldl min (2 ^ 16)
  least + lanes.findIdx (· = least) * 2 ^ 16

/-- Chooses lanes by the signs of those of a third vector: the first register, or
    one that the last byte names. -/
def blendLanes (m : Modifiers) (f : Form) (bits mask : Nat) : Instruction :=
  let n := m.vectorBytes
  .vector {
    target := f.vector m, size := m.resultBytes
    sources := [(m.first f, n), (f.vectorOperand m, n), (.vector mask, n)]
    isAligned := !m.isVector
    apply := fun vs => pure (Lanes.blend bits n (vs.getD 0 0) (vs.getD 1 0) (vs.getD 2 0)) }

/-- Spreads the first lane of an operand. -/
def spreadLane (m : Modifiers) (bits : Nat) : Reader Instruction := do
  return transform m (← form m) (bits / 8) false fun a =>
    pure (Lanes.spread bits m.vectorBytes a)

/-- Shifts each lane by the number in another one. -/
def shiftEach (m : Modifiers) (op : Nat) : Reader Instruction :=
  let bits := if m.bit 3 then 64 else 32
  let shift (x count : Nat) : Nat :=
    if op = 0x46 then
      Lanes.ofInt bits (Lanes.signed bits x / 2 ^ (min count (bits - 1)))
    else if bits ≤ count then 0
    else if op = 0x47 then x * 2 ^ count else x / 2 ^ count
  packed m fun n a b => pure (Lanes.zip bits shift n a b)

/-- A product of two numbers and a third one, by the order of the operands. -/
def multiplyAddNumbers (m : Modifiers) (op : Nat) : Reader Instruction := do
  let f ← form m
  let format := if m.bit 3 then Format.double else .single
  let kind := op % 16
  let isScalar := 8 ≤ kind ∧ kind % 2 = 1
  let n := if isScalar then format.bytes else m.vectorBytes
  let negatesProduct := 12 ≤ kind
  let compute (i x y z : Nat) : Floating Nat :=
    let negatesSum := if kind < 8 then (i % 2 = 0) = (kind % 2 = 0) else kind / 2 % 2 = 1
    format.multiplyAdd negatesProduct negatesSum x y z
  let ordered (i a b c : Nat) : Floating Nat :=
    match op / 16 with
    | 0x9 => compute i a c b
    | 0xa => compute i b a c
    | _ => compute i b c a
  return .vector {
    target := f.vector m, size := m.resultBytes
    sources := [(f.vector m, m.vectorBytes), (m.first f, m.vectorBytes), (f.vectorOperand m, n)]
    apply := fun vs => do
      let lanes (k : Nat) : List Nat := Lanes.split format.bits n (vs.getD k 0)
      let triples := (lanes 0).zip ((lanes 1).zip (lanes 2))
      let results ← (triples.zip (List.range triples.length)).mapM fun ((a, b, c), i) =>
        ordered i a b c
      let result := Lanes.join format.bits results
      return if isScalar then Lanes.replaceLow format.bits (vs.getD 0 0 % 2 ^ 128) result
        else result }

/-- The operations that only vectors with fields of their own have. -/
def wideVector? (m : Modifiers) (op : Nat) : Option (Reader Instruction) :=
  match op with
  | 0x0e => some (testSigns m 32)
  | 0x0f => some (testSigns m 64)
  | 0x0c => some (packed m fun n a b => pure (Lanes.blocks (fun _ a b =>
      Lanes.join 32 ((Lanes.split 32 16 b).map fun i => Lanes.lane 32 a (i % 4))) n a b))
  | 0x0d => some (packed m fun n a b => pure (Lanes.blocks (fun _ a b =>
      Lanes.join 64 ((Lanes.split 64 16 b).map fun i => Lanes.lane 64 a (i / 2 % 2))) n a b))
  | 0x16 | 0x36 => some (packed m fun n a b =>
      pure (Lanes.join 32 ((Lanes.split 32 n a).map fun i => Lanes.lane 32 b (i % 8))))
  | 0x18 | 0x58 => some (spreadLane m 32)
  | 0x19 | 0x59 => some (spreadLane m 64)
  | 0x1a | 0x5a => some (spreadLane m 128)
  | 0x78 => some (spreadLane m 8)
  | 0x79 => some (spreadLane m 16)
  | 0x45 | 0x46 | 0x47 => some (shiftEach m op)
  | _ =>
    if 9 ≤ op / 16 ∧ op / 16 ≤ 11 ∧ 6 ≤ op % 16 then some (multiplyAddNumbers m op) else none

/-- The operations of three bytes without a number. -/
def extendedVector? (m : Modifiers) (op : Nat) : Option (Reader Instruction) :=
  match op with
  | 0x1c => some (absoluteLanes m 8)
  | 0x1d => some (absoluteLanes m 16)
  | 0x1e => some (absoluteLanes m 32)
  | _ =>
    if m.selector ≠ .half then integerVector m (integerVector3? op) none
    else match op with
      | 0x10 | 0x14 | 0x15 =>
        if m.isVector then none
        else some do
          let bits := if op = 0x10 then 8 else if op = 0x14 then 32 else 64
          return blendLanes m (← form m) bits 0
      | 0x17 => some (testBits m)
      | 0x20 | 0x21 | 0x22 | 0x23 | 0x24 | 0x25 | 0x30 | 0x31 | 0x32 | 0x33 | 0x34 | 0x35 =>
        some (widenLanes m op)
      | 0x2a => some do
        let f ← form m
        return provided (f.isMemory && m.hasNoFirst) <| .vector {
          target := f.vector m, size := m.resultBytes
          sources := [(f.vectorOperand m, m.vectorBytes)], isAligned := true
          apply := fun vs => pure (vs.getD 0 0) }
      | 0x41 => some (packedEach m fun _ a => pure (smallest a))
      | _ =>
        integerVector m (integerVector3? op) (longVector3? op) <|>
          (if m.isVector then wideVector? m op else none)

/-! ## With a number -/

/-- Rounds numbers to whole ones. -/
def roundNumbers (m : Modifiers) (op : Nat) : Reader Instruction := do
  let f ← form m
  let number := (← byte).toNat
  let format := if op % 2 = 0 then Format.single else .double
  let round (a : Nat) : Floating Nat := do
    let control ← get
    let rounding := if number.testBit 2 then control.rounding else Control.roundingOf number
    format.toIntegral rounding (!number.testBit 3) a
  if 0x0a ≤ op then
    return combine m f format.bytes false fun a b => do
      return Lanes.replaceLow format.bits (a % 2 ^ 128) (← round b)
  else return transform m f m.vectorBytes true (Lanes.computeEach format.bits round m.vectorBytes)

/-- Puts a single number into a lane, and clears lanes. -/
def insertSingle (m : Modifiers) : Reader Instruction := do
  let f ← form m
  let number := (← byte).toNat
  let source := if f.isMemory then 0 else number / 64
  return provided m.isNarrow <|
    combine m f (if f.isMemory then 4 else 16) false fun a b =>
      let inserted := Lanes.replace 32 a (number / 16 % 4) (Lanes.lane 32 b source)
      pure ((List.range 4).foldl
        (fun n i => if number.testBit i then Lanes.replace 32 n i 0 else n) inserted)

/-- The sum of some products of numbers, where other bits of the number ask for
    it.  Each lane adds up the products in an order of its own. -/
def dotProduct (format : Format) (number a b : Nat) : Floating Nat := do
  let count := 128 / format.bits
  let lanes := List.range count
  let products ← lanes.mapM fun i =>
    if number.testBit (4 + i) then
      format.multiply (Lanes.lane format.bits a i) (Lanes.lane format.bits b i)
    else pure 0
  let add (xs : List Nat) (i k : Nat) : Floating Nat := format.add (xs.getD i 0) (xs.getD k 0)
  let sums ←
    if count = 2 then lanes.mapM fun i => add products i (i ^^^ 1)
    else do
      let pairSums ← lanes.mapM fun i => add products (i ^^^ 1) i
      lanes.mapM fun i => add pairSums i (i ^^^ 2)
  return Lanes.join format.bits (lanes.map fun i => if number.testBit i then sums.getD i 0 else 0)

/-- Sums of the distances of four bytes to others, at eight positions. -/
def distancesAt (number a b : Nat) : Nat :=
  let start := if number.testBit 2 then 4 else 0
  let block := (List.range 4).map fun i => Lanes.lane 8 b (number % 4 * 4 + i)
  Lanes.join 16 ((List.range 8).map fun k =>
    (block.mapIdx fun i y =>
      let x := Lanes.lane 8 a (start + k + i)
      max x y - min x y).sum)

/-- The product of two polynomials over two elements. -/
def carrylessProduct (a b : Nat) : Nat :=
  (List.range 64).foldl (fun n i => if b.testBit i then n ^^^ a * 2 ^ i else n) 0

/-- Blocks of two vectors, by two numbers of four bits. -/
def chooseBlocks (number a b : Nat) : Nat :=
  let block (k : Nat) : Nat :=
    if k.testBit 3 then 0 else Lanes.lane 128 (if k.testBit 1 then b else a) (k % 2)
  Lanes.join 128 [block (number % 16), block (number / 16)]

/-- The operations with a number that only vectors with fields of their own
    have. -/
def wideNumbered? (m : Modifiers) (op : Nat) : Option (Reader Instruction) :=
  match op with
  | 0x00 | 0x01 =>
    some (packedEachNumber m fun order n a => pure (Lanes.shuffle 64 order n a))
  | 0x02 => some (packedNumber m fun mask n a b => pure (Lanes.choose 32 mask n a b))
  | 0x04 => some (packedEachNumber m fun order n a =>
      pure (Lanes.eachBlock (Lanes.shuffle 32 order 16) n a))
  | 0x05 => some (packedEachNumber m fun order n a =>
      pure (Lanes.join 64 ((List.range (n / 8)).map fun i =>
        Lanes.lane 64 a (i / 2 * 2 + order / 2 ^ i % 2))))
  | 0x06 | 0x46 => some (packedNumber m fun number _ a b => pure (chooseBlocks number a b))
  | 0x18 | 0x38 => some do
    let f ← form m
    let number := (← byte).toNat
    return combine m f 16 false fun a b => pure (Lanes.replace 128 a (number % 2) b)
  | 0x19 | 0x39 => some do
    let f ← form m
    let number := (← byte).toNat
    return copied (f.vectorOperand m) (if f.isMemory then 16 else 32) (f.vector m) 32 fun a =>
      pure (Lanes.lane 128 a (number % 2))
  | 0x4a | 0x4b | 0x4c => some do
    let f ← form m
    let bits := if op = 0x4a then 32 else if op = 0x4b then 64 else 8
    return blendLanes m f bits ((← byte).toNat / 16)
  | _ => none

/-- The operations of three bytes with a number. -/
def numberedVector? (m : Modifiers) (op : Nat) : Option (Reader Instruction) :=
  if op = 0x0f ∧ m.selector = .plain ∧ !m.isVector then
    some do
      let f ← form m
      let count := (← byte).toNat
      return .vector {
        target := f.short, size := 8, sources := [(f.short, 8), (f.shortOperand, 8)]
        apply := fun vs => pure (Lanes.align count 8 (vs.getD 0 0) (vs.getD 1 0)) }
  else if m.selector ≠ .half then none
  else match op with
    | 0x08 | 0x09 | 0x0a | 0x0b => some (roundNumbers m op)
    | 0x0c => some (packedNumber m fun mask n a b => pure (Lanes.choose 32 mask n a b))
    | 0x0d => some (packedNumber m fun mask n a b => pure (Lanes.choose 64 mask n a b))
    | 0x0e =>
      some (packedNumber m fun mask n a b => pure (Lanes.choose 16 (mask * 257) n a b))
    | 0x0f => some (packedNumber m fun count n a b => pure (Lanes.align count n a b))
    | 0x14 => some (extractLane m 8)
    | 0x15 => some (extractLane m 16)
    | 0x16 => some (extractLane m m.longWidth.bits)
    | 0x17 => some (extractLane m 32)
    | 0x20 => some (insertLane m 8 .byte)
    | 0x21 => some (insertSingle m)
    | 0x22 => some (insertLane m m.longWidth.bits m.longWidth)
    | 0x40 => some (packedNumber m fun number n a b =>
        Lanes.compute 128 (dotProduct .single number) n a b)
    | 0x41 => some (packedNumber m fun number n a b =>
        Lanes.compute 128 (dotProduct .double number) n a b)
    | 0x42 => some (packedNumber m fun number n a b =>
        pure (Lanes.join 128 ((List.range (n / 16)).map fun i =>
          distancesAt (number / 8 ^ i) (Lanes.lane 128 a i) (Lanes.lane 128 b i))))
    | 0x44 => some (packedNumber m fun number n a b =>
        pure (Lanes.blocks (fun _ a b => carrylessProduct (Lanes.lane 64 a (number % 2))
          (Lanes.lane 64 b (number / 16 % 2))) n a b))
    | _ => if m.isVector then wideNumbered? m op else none

end SourceDebugger.Machine.Reader
