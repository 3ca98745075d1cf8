/-
  Operations on vectors for certain tasks: ciphers, digests of messages,
  polynomials, comparisons of texts, sums of products, and numbers of 16 bits.

  * `Reader.specialVector?` reads the operations whose second byte is `0x38`,
    `Reader.specialNumbered?` those with `0x3a`, which end with a number.
-/
import SourceDebugger.Machine.Cipher
import SourceDebugger.Machine.Decode.VectorFloating
import SourceDebugger.Machine.Digest
import SourceDebugger.Machine.TextComparison

namespace SourceDebugger.Machine.Reader

/-- A function of blocks of two vectors. -/
def blockwise (m : Modifiers) (apply : Nat → Nat → Nat) : Reader Instruction :=
  packed m fun n a b => pure (Lanes.blocks (fun _ a b => apply a b) n a b)

/-! ## Polynomials -/

/-- A function of bytes, which also has the quadruple word of a second vector and
    a number. -/
def bytewise (m : Modifiers) (apply : Nat → Nat → Nat → Nat) : Reader Instruction :=
  packedNumber m fun number n a b =>
    pure (Lanes.zip 64 (fun x matrix => Lanes.map 8 (apply matrix number) 8 x) n a b)

/-! ## Sums of products -/

/-- Adds products of lanes to wider ones. -/
def addProducts (m : Modifiers) (op : Nat) : Reader Instruction := do
  let f ← form m
  let n := m.vectorBytes
  let bits := if op < 0x52 then 8 else 16
  let value (isSigned : Bool) (x : Nat) : Int := if isSigned then Lanes.signed bits x else x
  let sum (old x y : Nat) : Nat :=
    let products := List.zipWith (fun a b => value (bits = 16) a * value true b)
      (Lanes.split bits 4 x) (Lanes.split bits 4 y)
    let total := Lanes.signed 32 old + products.sum
    if op % 2 = 1 then Lanes.saturateSigned 32 total else Lanes.ofInt 32 total
  return .vector {
    target := f.vector m, size := m.resultBytes
    sources := [(f.vector m, n), (m.first f, n), (f.vectorOperand m, n)]
    apply := fun vs =>
      let lanes (k : Nat) : List Nat := Lanes.split 32 n (vs.getD k 0)
      pure (Lanes.join 32 (List.zipWith (fun old (x, y) => sum old x y) (lanes 0)
        ((lanes 1).zip (lanes 2)))) }

/-! ## Texts -/

/-- Compares texts, whose lengths are in registers or told by zeros. -/
def compareTexts (m : Modifiers) (op : Nat) : Reader Instruction := do
  let f ← form m
  let c := TextComparison.ofNumber (← byte).toNat
  let w := m.longWidth
  let isExplicit := op < 0x62
  let isMask := op % 2 = 0
  return provided (m.hasNoFirst && m.isNarrow) <| .vectorTest {
    target := some (if isMask then (.vector 0, m.resultBytes) else (.register .rcx, 4))
    sources := [(f.vector m, 16), (f.vectorOperand m, 16), (.register .rax, w.bytes),
      (.register .rdx, w.bytes)]
    apply := fun vs =>
      let (a, b) := (vs.getD 0 0, vs.getD 1 0)
      let lengthA := if isExplicit then c.lengthOf (w.signed (vs.getD 2 0)) else c.length a
      let lengthB := if isExplicit then c.lengthOf (w.signed (vs.getD 3 0)) else c.length b
      let found := c.found a b lengthA lengthB
      pure (if isMask then c.marks found else c.position found, c.flags found lengthA lengthB) }

/-! ## Numbers of 16 bits -/

/-- Single numbers from numbers of 16 bits. -/
def fromHalves (m : Modifiers) : Reader Instruction := do
  let n := m.vectorBytes
  let widen (a : Nat) : Floating Nat := do
    let x := Format.half.decode a
    Floating.raiseIf x.isSignalling .invalid
    Format.single.round x.quiet
  return transform m (← form m) (n / 2) false fun a => do
    return Lanes.join 32 (← (Lanes.split 16 (n / 2) a).mapM widen)

/-- Numbers of 16 bits from single numbers.  The number tells how they are
    rounded. -/
def toHalves (m : Modifiers) : Reader Instruction := do
  let f ← form m
  let number := (← byte).toNat
  let n := m.vectorBytes
  let narrow (a : Nat) : Floating Nat := do
    let before ← get
    let rounding := if number.testBit 2 then before.rounding else Control.roundingOf number
    set { before with rounding, flushesToZero := false }
    let half ← Format.single.convert .half a
    modify ({ before with raised := ·.raised })
    return half
  return provided m.hasNoFirst <|
    copied (f.vectorOperand m) (if f.isMemory then n / 2 else m.resultBytes) (f.vector m) n
      fun a => do return Lanes.join 16 (← (Lanes.split 32 n a).mapM narrow)

/-! ## All operations -/

/-- The operations of two digests. -/
def digest? (m : Modifiers) (op : Nat) : Option (Reader Instruction) :=
  let block (apply : Nat → Nat → Nat) : Reader Instruction := packed m fun _ a b => pure (apply a b)
  match op with
  | 0xc8 => some (block Digest.addState)
  | 0xc9 => some (block Digest.mixWords)
  | 0xca => some (block Digest.turnWords)
  | 0xcb => some do
    let f ← form m
    return .vector {
      target := f.vector m, size := 16
      sources := [(f.vector m, 16), (f.vectorOperand m, 16), (.vector 0, 16)], isAligned := true
      apply := fun vs => pure (Digest.longRounds (vs.getD 0 0) (vs.getD 1 0) (vs.getD 2 0)) }
  | 0xcc => some (block Digest.longMixWords)
  | 0xcd => some (block Digest.longTurnWords)
  | _ => none

/-- The operations of three bytes without a number. -/
def specialVector? (m : Modifiers) (op : Nat) : Option (Reader Instruction) :=
  if m.selector = .plain && !m.isVector then digest? m op
  else if m.selector ≠ .half then none
  else match op with
    | 0x13 => if m.isVector then some (fromHalves m) else none
    | 0x50 | 0x51 | 0x52 | 0x53 => if m.isVector then some (addProducts m op) else none
    | 0xcf =>
      some (packed m fun n a b => pure (Lanes.zip 8 Polynomial.multiply n a b))
    | 0xdb => some (packedEach m fun _ a => pure (Cipher.mixBack a))
    | 0xdc => some (blockwise m (Cipher.encrypt false))
    | 0xdd => some (blockwise m (Cipher.encrypt true))
    | 0xde => some (blockwise m (Cipher.decrypt false))
    | 0xdf => some (blockwise m (Cipher.decrypt true))
    | _ => none

/-- The operations of three bytes with a number. -/
def specialNumbered? (m : Modifiers) (op : Nat) : Option (Reader Instruction) :=
  if m.selector = .plain && !m.isVector then
    if op = 0xcc then
      some (packedNumber m fun number _ a b => pure (Digest.rounds (number % 4) a b))
    else none
  else if m.selector ≠ .half then none
  else match op with
    | 0x1d => if m.isVector then some (toHalves m) else none
    | 0x60 | 0x61 | 0x62 | 0x63 => some (compareTexts m op)
    | 0xce => some (bytewise m Polynomial.affine)
    | 0xcf =>
      some (bytewise m fun matrix added a => Polynomial.affine matrix added (Polynomial.inverse a))
    | 0xdf => some (packedEachNumber m fun number _ a => pure (Cipher.assistKey number a))
    | _ => none

end SourceDebugger.Machine.Reader
