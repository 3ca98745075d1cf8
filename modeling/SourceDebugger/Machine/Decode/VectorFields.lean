/-
  How operations on vectors name their operands.

  With the older modifiers the target is the first operand too, and keeps the
  bytes behind the first 16; with those made for vectors the first operand has
  a name of its own, and these bytes become zero.
-/
import SourceDebugger.Machine.Decode.Integer
import SourceDebugger.Machine.Lanes

namespace SourceDebugger.Machine

namespace Modifiers

def isVector (m : Modifiers) : Bool := m.vector.isSome

/-- How many bytes of a vector register a result replaces. -/
def resultBytes (m : Modifiers) : Nat := if m.isVector then 32 else 16

/-- The first operand. -/
def first (m : Modifiers) (f : Reader.Form) : Operand :=
  match m.vector with
  | some fields => .vector fields.first
  | none => f.vector m

/-- The fields name no first operand. -/
def hasNoFirst (m : Modifiers) : Bool := m.vector.all (·.first = 0)

/-- The vectors have no more than 16 bytes. -/
def isNarrow (m : Modifiers) : Bool := m.vector.all (!·.isWide)

end Modifiers

namespace Reader

/-- An instruction, if a condition holds for its fields. -/
def provided (condition : Bool) (i : Instruction) : Instruction := if condition then i else undefined

/-! ## From vectors to vectors -/

/-- The target becomes a function of the first operand and of `n` bytes of the
    second one. -/
def combine (m : Modifiers) (f : Form) (n : Nat) (isAligned : Bool)
    (apply : Nat → Nat → Floating Nat) : Instruction :=
  .vector {
    target := f.vector m, size := m.resultBytes
    sources := [(m.first f, m.vectorBytes), (f.vectorOperand m, n)]
    isAligned := isAligned && !m.isVector
    apply := fun vs => apply (vs.getD 0 0) (vs.getD 1 0) }

/-- The target becomes a function of `n` bytes of an operand. -/
def transform (m : Modifiers) (f : Form) (n : Nat) (isAligned : Bool)
    (apply : Nat → Floating Nat) : Instruction :=
  provided m.hasNoFirst <| .vector {
    target := f.vector m, size := m.resultBytes, sources := [(f.vectorOperand m, n)]
    isAligned := isAligned && !m.isVector
    apply := fun vs => apply (vs.getD 0 0) }

/-- A function of two whole vectors. -/
def packed (m : Modifiers) (apply : Nat → Nat → Nat → Floating Nat) : Reader Instruction := do
  return combine m (← form m) m.vectorBytes true (apply m.vectorBytes)

/-- A function of two whole vectors and a number. -/
def packedNumber (m : Modifiers) (apply : Nat → Nat → Nat → Nat → Floating Nat) :
    Reader Instruction := do
  let f ← form m
  let number := (← byte).toNat
  return combine m f m.vectorBytes true (apply number m.vectorBytes)

/-- A function of one whole vector. -/
def packedEach (m : Modifiers) (apply : Nat → Nat → Floating Nat) : Reader Instruction := do
  return transform m (← form m) m.vectorBytes true (apply m.vectorBytes)

/-- A function of one whole vector and a number. -/
def packedEachNumber (m : Modifiers) (apply : Nat → Nat → Nat → Floating Nat) :
    Reader Instruction := do
  let f ← form m
  let number := (← byte).toNat
  return transform m f m.vectorBytes true (apply number m.vectorBytes)

/-! ## Copies -/

/-- Copies `n` bytes to a vector register; the others become zero. -/
def loadVector (m : Modifiers) (f : Form) (n : Nat) (isAligned : Bool) : Instruction :=
  transform m f n isAligned pure

/-- Copies `n` bytes of a vector register, from a position on. -/
def storeVector (m : Modifiers) (f : Form) (n position : Nat) (isAligned : Bool) : Instruction :=
  provided m.hasNoFirst <| .vector {
    target := f.vectorOperand m, size := if f.isMemory then n else m.resultBytes
    sources := [(f.vector m, m.vectorBytes)], isAligned := isAligned
    apply := fun vs => pure (vs.getD 0 0 / 256 ^ position % 256 ^ n) }

/-! ## Between vectors and integers -/

/-- An integer register becomes a function of `n` bytes of a vector. -/
def toInteger (m : Modifiers) (f : Form) (w : Width) (n : Nat) (apply : Nat → Floating Nat) :
    Instruction :=
  provided m.hasNoFirst <| .vector {
    target := f.register m w, size := w.bytes, sources := [(f.vectorOperand m, n)]
    apply := fun vs => apply (vs.getD 0 0) }

/-- The target becomes a function of the first operand and an integer. -/
def ofInteger (m : Modifiers) (f : Form) (w : Width) (apply : Nat → Nat → Floating Nat) :
    Instruction :=
  .vector {
    target := f.vector m, size := m.resultBytes
    sources := [(m.first f, 16), (f.operand m w, w.bytes)]
    apply := fun vs => apply (vs.getD 0 0) (vs.getD 1 0) }

/-! ## Short vectors -/

/-- The operand that is a short vector or in memory. -/
def Form.shortOperand (f : Form) : Operand :=
  if f.isMemory then .memory f.place else .shortVector f.other

def Form.short (f : Form) : Operand := .shortVector f.field

/-- A function of two short vectors. -/
def shortPacked (m : Modifiers) (apply : Nat → Nat → Floating Nat) : Reader Instruction := do
  let f ← form m
  return .vector {
    target := f.short, size := 8, sources := [(f.short, 8), (f.shortOperand, 8)]
    apply := fun vs => apply (vs.getD 0 0) (vs.getD 1 0) }

/-- A copy of a value, changed by a function. -/
def copied (target : Operand) (size : Nat) (source : Operand) (n : Nat)
    (apply : Nat → Floating Nat) : Instruction :=
  .vector { target, size, sources := [(source, n)], apply := fun vs => apply (vs.getD 0 0) }

end Reader

end SourceDebugger.Machine
