/-
  The operations on vectors of integers, and those that move vectors.

  * `Reader.integerVector?` is the function of an operation that combines two
    vectors lane by lane; most operations are such;
  * `Reader.vectorMove` reads the operations that copy vectors or parts of them.
-/
import SourceDebugger.Machine.Decode.VectorFields

namespace SourceDebugger.Machine.Reader

open Lanes (Function)

/-! ## Functions of two vectors -/

/-- The functions among the operations of two bytes. -/
def integerVector2? (op : Nat) : Option Function :=
  let unsigned (bits : Nat) : Int → Nat := Lanes.saturateUnsigned bits
  let signed (bits : Nat) : Int → Nat := Lanes.saturateSigned bits
  match op with
  | 0x60 => some (Lanes.interleave 8 false)
  | 0x61 => some (Lanes.interleave 16 false)
  | 0x62 => some (Lanes.interleave 32 false)
  | 0x63 => some (Lanes.pack 16 (signed 8))
  | 0x64 => some (Lanes.greater 8)
  | 0x65 => some (Lanes.greater 16)
  | 0x66 => some (Lanes.greater 32)
  | 0x67 => some (Lanes.pack 16 (unsigned 8))
  | 0x68 => some (Lanes.interleave 8 true)
  | 0x69 => some (Lanes.interleave 16 true)
  | 0x6a => some (Lanes.interleave 32 true)
  | 0x6b => some (Lanes.pack 32 (signed 16))
  | 0x74 => some (Lanes.equal 8)
  | 0x75 => some (Lanes.equal 16)
  | 0x76 => some (Lanes.equal 32)
  | 0xd4 => some (Lanes.add 64)
  | 0xd5 => some (Lanes.multiplyLow 16)
  | 0xd8 => some (Lanes.subtractSaturated 8 false)
  | 0xd9 => some (Lanes.subtractSaturated 16 false)
  | 0xda => some (Lanes.smaller 8 false)
  | 0xdb => some Lanes.and
  | 0xdc => some (Lanes.addSaturated 8 false)
  | 0xdd => some (Lanes.addSaturated 16 false)
  | 0xde => some (Lanes.larger 8 false)
  | 0xdf => some Lanes.andNot
  | 0xe0 => some (Lanes.average 8)
  | 0xe3 => some (Lanes.average 16)
  | 0xe4 => some (Lanes.multiplyHigh 16 false)
  | 0xe5 => some (Lanes.multiplyHigh 16 true)
  | 0xe8 => some (Lanes.subtractSaturated 8 true)
  | 0xe9 => some (Lanes.subtractSaturated 16 true)
  | 0xea => some (Lanes.smaller 16 true)
  | 0xeb => some Lanes.or
  | 0xec => some (Lanes.addSaturated 8 true)
  | 0xed => some (Lanes.addSaturated 16 true)
  | 0xee => some (Lanes.larger 16 true)
  | 0xef => some Lanes.xor
  | 0xf4 => some (Lanes.multiplyWide false)
  | 0xf5 => some Lanes.multiplyAdd
  | 0xf6 => some Lanes.distances
  | 0xf8 => some (Lanes.subtract 8)
  | 0xf9 => some (Lanes.subtract 16)
  | 0xfa => some (Lanes.subtract 32)
  | 0xfb => some (Lanes.subtract 64)
  | 0xfc => some (Lanes.add 8)
  | 0xfd => some (Lanes.add 16)
  | 0xfe => some (Lanes.add 32)
  | _ => none

/-- Those that short vectors do not have. -/
def longVector2? (op : Nat) : Option Function :=
  match op with
  | 0x6c => some (Lanes.interleave 64 false)
  | 0x6d => some (Lanes.interleave 64 true)
  | _ => none

/-- The functions among the operations of three bytes. -/
def integerVector3? (op : Nat) : Option Function :=
  match op with
  | 0x00 => some Lanes.shuffleBytes
  | 0x01 => some (Lanes.horizontal 16 fun x y => Lanes.ofInt 16 (x + y))
  | 0x02 => some (Lanes.horizontal 32 fun x y => Lanes.ofInt 32 (x + y))
  | 0x03 => some (Lanes.horizontal 16 fun x y => Lanes.saturateSigned 16 (x + y))
  | 0x04 => some Lanes.multiplyAddBytes
  | 0x05 => some (Lanes.horizontal 16 fun x y => Lanes.ofInt 16 (x - y))
  | 0x06 => some (Lanes.horizontal 32 fun x y => Lanes.ofInt 32 (x - y))
  | 0x07 => some (Lanes.horizontal 16 fun x y => Lanes.saturateSigned 16 (x - y))
  | 0x08 => some (Lanes.withSigns 8)
  | 0x09 => some (Lanes.withSigns 16)
  | 0x0a => some (Lanes.withSigns 32)
  | 0x0b => some Lanes.multiplyRounded
  | _ => none

/-- Those that short vectors do not have. -/
def longVector3? (op : Nat) : Option Function :=
  match op with
  | 0x28 => some (Lanes.multiplyWide true)
  | 0x29 => some (Lanes.equal 64)
  | 0x2b => some (Lanes.pack 32 (Lanes.saturateUnsigned 16))
  | 0x37 => some (Lanes.greater 64)
  | 0x38 => some (Lanes.smaller 8 true)
  | 0x39 => some (Lanes.smaller 32 true)
  | 0x3a => some (Lanes.smaller 16 false)
  | 0x3b => some (Lanes.smaller 32 false)
  | 0x3c => some (Lanes.larger 8 true)
  | 0x3d => some (Lanes.larger 32 true)
  | 0x3e => some (Lanes.larger 16 false)
  | 0x3f => some (Lanes.larger 32 false)
  | 0x40 => some (Lanes.multiplyLow 32)
  | _ => none

/-- An operation that combines two vectors lane by lane. -/
def integerVector (m : Modifiers) (shared long : Option Function) : Option (Reader Instruction) :=
  match m.selector with
  | .half => (shared <|> long).map fun f => packed m fun n a b => pure (f n a b)
  | .plain =>
    if m.isVector then none
    else shared.map fun f => shortPacked m fun a b => pure (f 8 a b)
  | _ => none

/-! ## Shifts -/

/-- The shift with a number, of lanes of a size. -/
def vectorShift? (op : Nat) : Option (Nat → Nat → Nat → Nat) :=
  let bits := 8 * 2 ^ (op % 4)
  match op / 16 with
  | 0xd => if op % 16 < 4 ∧ op % 4 ≠ 0 then some (Lanes.shiftRight bits) else none
  | 0xe => if op = 0xe1 ∨ op = 0xe2 then some (Lanes.shiftSigned bits) else none
  | 0xf => if op % 16 < 4 ∧ op % 4 ≠ 0 then some (Lanes.shiftLeft bits) else none
  | _ => none

/-- A shift by a number in a vector. -/
def shiftVector (m : Modifiers) (shift : Nat → Nat → Nat → Nat) : Reader Instruction := do
  match m.selector, m.isVector with
  | .half, _ => do
    let f ← form m
    let n := m.vectorBytes
    return combine m f 16 true fun a b => pure (shift (b % 2 ^ 64) n a)
  | .plain, false => shortPacked m fun a b => pure (shift b 8 a)
  | _, _ => return undefined

/-- The shifts by a number in the instruction, by a field. -/
def shiftOfField? (op field : Nat) : Option (Nat → Nat → Nat → Nat) :=
  let bits := 16 * 2 ^ (op - 0x71)
  match field with
  | 2 => some (Lanes.shiftRight bits)
  | 4 => if op = 0x73 then none else some (Lanes.shiftSigned bits)
  | 6 => some (Lanes.shiftLeft bits)
  | 3 => if op = 0x73 then some (Lanes.moveBytes false) else none
  | 7 => if op = 0x73 then some (Lanes.moveBytes true) else none
  | _ => none

/-- A shift by a number in the instruction. -/
def shiftVectorNumber (m : Modifiers) (op : Nat) : Reader Instruction := do
  let f ← form m
  let count := (← byte).toNat
  match shiftOfField? op f.field, f.isMemory, m.selector with
  | some shift, false, .half =>
    let n := m.vectorBytes
    let target := (m.vector.map fun fields => Operand.vector fields.first).getD
      (f.vectorOperand m)
    return copied target m.resultBytes (f.vectorOperand m) n fun a => pure (shift count n a)
  | some shift, false, .plain =>
    return provided (!m.isVector && f.field % 2 = 0) <|
      copied f.shortOperand 8 f.shortOperand 8 fun a => pure (shift count 8 a)
  | _, _, _ => return undefined

/-! ## Moves -/

/-- Copies a single number or a pair to or from a vector, or between vectors. -/
def moveScalar (m : Modifiers) (n : Nat) (isStore : Bool) : Reader Instruction := do
  let f ← form m
  let bits := 8 * n
  if f.isMemory then
    return if isStore then storeVector m f n 0 false else loadVector m f n false
  else
    let (target, source) := if isStore then (f.otherNumber m, f.number m)
      else (f.number m, f.otherNumber m)
    let first := (m.vector.map fun fields => fields.first).getD target
    return .vector {
      target := .vector target, size := m.resultBytes
      sources := [(.vector first, 16), (.vector source, n)]
      apply := fun vs => pure (Lanes.replaceLow bits (vs.getD 0 0) (vs.getD 1 0)) }

/-- Copies eight bytes to a half of a vector; from a register, its other half. -/
def moveHalf (m : Modifiers) (isHigh : Bool) : Reader Instruction := do
  let f ← form m
  let position := if isHigh then 1 else 0
  if f.isMemory then
    return combine m f 8 false fun a b => pure (Lanes.replace 64 a position b)
  else if m.selector = .plain then
    return combine m f 16 false fun a b =>
      pure (Lanes.replace 64 a position (Lanes.lane 64 b (1 - position)))
  else return undefined

/-- Copies half of a vector to memory. -/
def storeHalf (m : Modifiers) (isHigh : Bool) : Reader Instruction := do
  let f ← form m
  return provided f.isMemory (storeVector m f 8 (if isHigh then 8 else 0) false)

/-- Copies an integer to a vector, or to a short one. -/
def moveInteger (m : Modifiers) (isStore : Bool) : Reader Instruction := do
  let f ← form m
  let w := m.longWidth
  match m.selector, isStore with
  | .half, false =>
    return provided (m.hasNoFirst && m.isNarrow) <|
      copied (f.vector m) m.resultBytes (f.operand m w) w.bytes pure
  | .half, true =>
    return provided (m.hasNoFirst && m.isNarrow) <|
      copied (f.operand m w) w.bytes (f.vector m) w.bytes pure
  | .equal, true =>
    return provided (m.hasNoFirst && m.isNarrow) <|
      copied (f.vector m) m.resultBytes (f.vectorOperand m) 8 pure
  | .plain, false =>
    return provided (!m.isVector) (copied f.short 8 (f.operand m w) w.bytes pure)
  | .plain, true =>
    return provided (!m.isVector) (copied (f.operand m w) w.bytes f.short w.bytes pure)
  | _, _ => return undefined

/-- Copies whole vectors of integers. -/
def moveVector (m : Modifiers) (isStore : Bool) : Reader Instruction := do
  let f ← form m
  let n := m.vectorBytes
  match m.selector with
  | .plain =>
    return provided (!m.isVector) <|
      if isStore then copied f.shortOperand 8 f.short 8 pure
      else copied f.short 8 f.shortOperand 8 pure
  | .unequal => return undefined
  | selector =>
    let isAligned := selector = .half
    return if isStore then storeVector m f n 0 isAligned
      else provided m.hasNoFirst <| .vector {
        target := f.vector m, size := m.resultBytes, sources := [(f.vectorOperand m, n)]
        isAligned, apply := fun vs => pure (vs.getD 0 0) }

/-- Copies eight bytes between registers of different kinds, or to memory. -/
def moveQuad (m : Modifiers) : Reader Instruction := do
  let f ← form m
  match m.selector with
  | .half => return storeVector m f 8 0 false
  | .equal =>
    return provided (!f.isMemory && !m.isVector) (copied (f.vector m) 16 f.shortOperand 8 pure)
  | .unequal =>
    return provided (!f.isMemory && !m.isVector) <|
      copied f.short 8 (f.vectorOperand m) 8 pure
  | .plain => return undefined

/-- Copies whole vectors past the caches. -/
def streamVector (m : Modifiers) : Reader Instruction := do
  let f ← form m
  match m.selector with
  | .half => return provided f.isMemory (storeVector m f m.vectorBytes 0 true)
  | .plain =>
    return provided (f.isMemory && !m.isVector) (copied f.shortOperand 8 f.short 8 pure)
  | _ => return undefined

/-! ## Order of lanes -/

def shuffleNumber (m : Modifiers) : Reader Instruction :=
  let low (order b : Nat) : Nat := Lanes.replaceLow 64 b (Lanes.shuffle 16 order 8 b)
  let high (order b : Nat) : Nat :=
    Lanes.replace 64 b 1 (Lanes.shuffle 16 order 8 (Lanes.lane 64 b 1))
  match m.selector with
  | .half =>
    packedEachNumber m fun order n a => pure (Lanes.eachBlock (Lanes.shuffle 32 order 16) n a)
  | .unequal => packedEachNumber m fun order n a => pure (Lanes.eachBlock (low order) n a)
  | .equal => packedEachNumber m fun order n a => pure (Lanes.eachBlock (high order) n a)
  | .plain => do
    let f ← form m
    let order := (← byte).toNat
    return provided (!m.isVector) <|
      copied f.short 8 f.shortOperand 8 fun a => pure (Lanes.shuffle 16 order 8 a)

/-- Puts an integer into a lane. -/
def insertLane (m : Modifiers) (bits : Nat) (w : Width) : Reader Instruction := do
  let f ← form m
  let i := (← byte).toNat % (128 / bits)
  -- even of a register only the lowest bytes are read
  let operand :=
    if f.isMemory then .memory f.place else .register (general.getD (f.otherNumber m) .rax)
  return provided m.isNarrow <| .vector {
    target := f.vector m, size := m.resultBytes
    sources := [(m.first f, 16), (operand, w.bytes)]
    apply := fun vs => pure (Lanes.replace bits (vs.getD 0 0) i (vs.getD 1 0)) }

/-- Copies a lane to an integer: as a whole to a register, or to memory. -/
def extractLane (m : Modifiers) (bits : Nat) : Reader Instruction := do
  let f ← form m
  let i := (← byte).toNat % (128 / bits)
  let (target, size) := if f.isMemory then (.memory f.place, bits / 8)
    else (.register (general.getD (f.otherNumber m) .rax), 8)
  return provided (m.isNarrow && m.hasNoFirst) <|
    copied target size (f.vector m) 16 fun a => pure (Lanes.lane bits a i)

/-- The highest bits of the lanes, in a register. -/
def extractSigns (m : Modifiers) (bits : Nat) : Reader Instruction := do
  let f ← form m
  let n := m.vectorBytes
  return provided (!f.isMemory) <|
    toInteger m f .long n fun a => pure (Lanes.signs bits n a)

/-! ## All operations that move -/

/-- The operations of two bytes that move vectors or their parts. -/
def vectorMove? (m : Modifiers) (op : Nat) : Option (Reader Instruction) :=
  let n := m.vectorBytes
  let bits := if m.selector = .half then 64 else 32
  let isPacked := m.selector = .plain || m.selector = .half
  let scalarBytes := if m.selector = .equal then 4 else 8
  match op with
  | 0x10 =>
    some (if isPacked then do return loadVector m (← form m) n false
      else moveScalar m scalarBytes false)
  | 0x11 =>
    some (if isPacked then do return storeVector m (← form m) n 0 false
      else moveScalar m scalarBytes true)
  | 0x12 =>
    match m.selector with
    | .equal => some (packedEach m fun n a =>
        pure (Lanes.map 64 (fun x => x % 2 ^ 32 * (2 ^ 32 + 1)) n a))
    | .unequal => some (do
        let f ← form m
        return transform m f (if n = 16 then 8 else 32) false fun a =>
          pure (Lanes.eachBlock (Lanes.spread 64 16) n a))
    | _ => some (moveHalf m false)
  | 0x13 => if isPacked then some (storeHalf m false) else none
  | 0x14 | 0x15 =>
    if isPacked then
      some (packed m fun n a b => pure (Lanes.interleave bits (op = 0x15) n a b))
    else none
  | 0x16 =>
    match m.selector with
    | .equal => some (packedEach m fun n a =>
        pure (Lanes.map 64 (fun x => x / 2 ^ 32 * (2 ^ 32 + 1)) n a))
    | .unequal => none
    | _ => some (moveHalf m true)
  | 0x17 => if isPacked then some (storeHalf m true) else none
  | 0x28 =>
    if isPacked then some (do
      let f ← form m
      return provided m.hasNoFirst <| .vector {
        target := f.vector m, size := m.resultBytes, sources := [(f.vectorOperand m, n)]
        isAligned := true, apply := fun vs => pure (vs.getD 0 0) })
    else none
  | 0x29 => if isPacked then some (do return storeVector m (← form m) n 0 true) else none
  | 0x2b =>
    if isPacked then some (do
      let f ← form m
      return provided f.isMemory (storeVector m f n 0 true))
    else none
  | 0x50 => if isPacked then some (extractSigns m bits) else none
  | 0x6e => some (moveInteger m false)
  | 0x7e => some (moveInteger m true)
  | 0x6f => some (moveVector m false)
  | 0x7f => some (moveVector m true)
  | 0x70 => some (shuffleNumber m)
  | 0x71 | 0x72 | 0x73 => some (shiftVectorNumber m op)
  | 0xc4 =>
    match m.selector with
    | .half => some (insertLane m 16 .half)
    | .plain => some (do
        let f ← form m
        let i := (← byte).toNat % 4
        let operand := if f.isMemory then .memory f.place
          else .register (general.getD (f.otherNumber m) .rax)
        return provided (!m.isVector) <| .vector {
          target := f.short, size := 8, sources := [(f.short, 8), (operand, 2)]
          apply := fun vs => pure (Lanes.replace 16 (vs.getD 0 0) i (vs.getD 1 0)) })
    | _ => none
  | 0xc5 => some (do
      let f ← form m
      let i := (← byte).toNat
      match m.selector with
      | .half =>
        return provided (!f.isMemory && m.isNarrow) <|
          toInteger m f .long 16 fun a => pure (Lanes.lane 16 a (i % 8))
      | .plain =>
        return provided (!f.isMemory && !m.isVector) <|
          copied (f.register m .long) 4 f.shortOperand 8 fun a =>
            pure (Lanes.lane 16 a (i % 4))
      | _ => return undefined)
  | 0xc6 =>
    match m.selector with
    | .plain => some (packedNumber m fun order n a b => pure (Lanes.shuffleSingles order n a b))
    | .half => some (packedNumber m fun order n a b => pure (Lanes.shuffleDoubles order n a b))
    | _ => none
  | 0xd6 => some (moveQuad m)
  | 0xd7 =>
    match m.selector with
    | .half => some (extractSigns m 8)
    | .plain => some (do
        let f ← form m
        return provided (!f.isMemory && !m.isVector) <|
          copied (f.register m .long) 4 f.shortOperand 8 fun a => pure (Lanes.signs 8 8 a))
    | _ => none
  | 0xe7 => some (streamVector m)
  | 0xf0 =>
    if m.selector = .unequal then some (do
      let f ← form m
      return provided f.isMemory (loadVector m f n false))
    else none
  | _ => (vectorShift? op).map (shiftVector m)

end SourceDebugger.Machine.Reader
