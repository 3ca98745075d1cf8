/-
  Operations on vectors that access memory lane by lane: where another vector
  asks for it, or at places that another vector tells.

  * `Reader.maskedVector?` reads the operations whose second byte is `0x38`;
  * `Reader.maskedBytes` reads the older operation on bytes.
-/
import SourceDebugger.Machine.Decode.VectorFields

namespace SourceDebugger.Machine.Reader

/-- Loads or stores the lanes whose masks are negative. -/
def maskedMove (m : Modifiers) (bits : Nat) (isStore : Bool) : Reader Instruction := do
  let f ← form m
  let count := 8 * m.vectorBytes / bits
  return provided f.isMemory <|
    if isStore then .storeLanes bits count (m.first f) (f.vector m) f.place
    else .loadLanes bits count (m.first f) (f.vector m) f.place

/-- A place in memory whose index is a vector: the field of the other operand, the
    place without the index, the vector and its factor. -/
def spreadPlace (m : Modifiers) : Reader (Option (Nat × Location × Nat × Nat)) := do
  let b := (← byte).toNat
  let (mode, field, other) := (b / 64, b / 8 % 8, b % 8)
  if mode = 3 ∨ other ≠ 4 then return none
  let s := (← byte).toNat
  let isAbsolute := s % 8 = 5 ∧ mode = 0
  let displacement ←
    if isAbsolute then signed .long else displacementOf mode
  let base := if isAbsolute then none else some (general.getD (m.number 0 (s % 8)) .rax)
  return some (m.number 2 field,
    { base, displacement, segment := m.segment, isShort := m.isShort },
    m.number 1 (s / 8 % 8), 2 ^ (s / 64))

/-- Loads lanes from places that a vector tells, where a mask asks for it. -/
def gather (m : Modifiers) (op : Nat) : Reader Instruction := do
  match m.vector, ← spreadPlace m with
  | some fields, some (target, place, index, scale) =>
    let bits := if m.bit 3 then 64 else 32
    let indexBits := if op % 2 = 0 then 32 else 64
    let count := 8 * m.vectorBytes / max bits indexBits
    return provided (target ≠ index && target ≠ fields.first && index ≠ fields.first) <|
      .gatherLanes bits indexBits count target index fields.first place scale
  | _, _ => return undefined

/-- The operations of three bytes. -/
def maskedVector? (m : Modifiers) (op : Nat) : Option (Reader Instruction) :=
  if !m.isVector || m.selector ≠ .half then none
  else
    let bits := if m.bit 3 then 64 else 32
    match op with
    | 0x2c => if m.bit 3 then none else some (maskedMove m 32 false)
    | 0x2d => if m.bit 3 then none else some (maskedMove m 64 false)
    | 0x2e => if m.bit 3 then none else some (maskedMove m 32 true)
    | 0x2f => if m.bit 3 then none else some (maskedMove m 64 true)
    | 0x8c => some (maskedMove m bits false)
    | 0x8e => some (maskedMove m bits true)
    | 0x90 | 0x91 | 0x92 | 0x93 => some (gather m op)
    | _ => none

/-- Stores the bytes of a vector whose masks are negative, at the place that a
    register tells. -/
def maskedBytes (m : Modifiers) : Reader Instruction := do
  let f ← form m
  let place : Location := { base := some .rdi, segment := m.segment, isShort := m.isShort }
  let store (n : Nat) (mask source : Operand) : Instruction :=
    .storeLanes 8 n mask source place
  match m.selector with
  | .plain => return provided (!f.isMemory && !m.isVector) (store 8 f.shortOperand f.short)
  | .half =>
    return provided (!f.isMemory && m.hasNoFirst && m.isNarrow) <|
      store 16 (f.vectorOperand m) (f.vector m)
  | _ => return undefined

end SourceDebugger.Machine.Reader
