/-
  The parts of encoded instructions: the modifiers in front of the operation,
  and the bytes behind it that describe the operands.

  * `Modifiers` is what the bytes in front of an operation say, and
    `Reader.modifiers` reads them;
  * `Form` is the description of two operands, one of which may be a place in
    memory, and `Reader.form` reads it.
-/
import SourceDebugger.Address
import SourceDebugger.Machine.Instruction

namespace SourceDebugger.Machine

/-- Reads from the front of some bytes, unless there are too few. -/
abbrev Reader : Type → Type := StateT (List UInt8) Option

/-- The fields that only operations on vectors have. -/
structure VectorFields where
  /-- The number of the first operand. -/
  first : Nat
  /-- The vectors have 32 bytes instead of 16. -/
  isWide : Bool
  deriving DecidableEq

/-- The modifier that tells operations of one number apart. -/
inductive Selector where
  | plain
  | half
  | equal
  | unequal
  deriving DecidableEq

/-- What the bytes in front of the operation say. -/
structure Modifiers where
  /-- Values have 16 bits instead of 32. -/
  isHalf : Bool := false
  /-- Addresses have 32 bits. -/
  isShort : Bool := false
  isLocked : Bool := false
  repetition : Option Repetition := none
  segment : Option Register := none
  /-- The four bits of an extension, if there is one. -/
  extension : Option Nat := none
  vector : Option VectorFields := none

namespace Modifiers

def bit (m : Modifiers) (i : Nat) : Bool := (m.extension.getD 0).testBit i

/-- The width of a value that is no byte. -/
def width (m : Modifiers) : Width :=
  if m.bit 3 then .quad else if m.isHalf then .half else .long

/-- The width of a value that is no byte and cannot have 16 bits. -/
def longWidth (m : Modifiers) : Width := if m.bit 3 then .quad else .long

/-- The width of a value on the stack. -/
def stackWidth (m : Modifiers) : Width := if m.isHalf && !m.bit 3 then .half else .quad

/-- The width of an address. -/
def addressWidth (m : Modifiers) : Width := if m.isShort then .long else .quad

def selector (m : Modifiers) : Selector :=
  match m.repetition with
  | some .whileEqual => .equal
  | some .untilEqual => .unequal
  | none => if m.isHalf then .half else .plain

/-- The number of a register, with its highest bit from the extension. -/
def number (m : Modifiers) (i n : Nat) : Nat := if m.bit i then n + 8 else n

/-- The register with a number. -/
def register (m : Modifiers) (w : Width) (n : Nat) : Operand :=
  if w = .byte ∧ m.extension.isNone ∧ 4 ≤ n ∧ n < 8 then
    .secondByte (general.getD (n - 4) .rax)
  else .register (general.getD n .rax)

/-- The number of bytes of a vector. -/
def vectorBytes (m : Modifiers) : Nat :=
  match m.vector with
  | some fields => if fields.isWide then 32 else 16
  | none => 16

end Modifiers

namespace Reader

def byte : Reader UInt8
  | [] => none
  | b :: bs => some (b, bs)

def take (n : Nat) : Reader (List UInt8) := fun bs =>
  if n ≤ bs.length then some (bs.splitAt n) else none

/-- A number of `n` bytes. -/
def number (n : Nat) : Reader UInt64 := do return Word.ofBytes (← take n)

/-- A number with a sign. -/
def signed (w : Width) : Reader UInt64 := do
  return UInt64.ofNat (Width.quad.ofInt (w.signed (← number w.bytes).toNat))

/-- The number for a value of a width: at most 32 bits, with a sign. -/
def immediate (w : Width) : Reader Operand := do
  return .immediate (← signed (if w = .quad then .long else w))

/-- The modifiers; an extension counts only right before the operation. -/
def modifiers (m : Modifiers) : List UInt8 → Option (Modifiers × List UInt8)
  | [] => none
  | b :: bs =>
    let plain := { m with extension := none }
    match b with
    | 0x66 => modifiers { plain with isHalf := true } bs
    | 0x67 => modifiers { plain with isShort := true } bs
    | 0x64 => modifiers { plain with segment := some .fs_base } bs
    | 0x65 => modifiers { plain with segment := some .gs_base } bs
    | 0x26 | 0x2e | 0x36 | 0x3e => modifiers plain bs
    | 0xf0 => modifiers { plain with isLocked := true } bs
    | 0xf2 => modifiers { plain with repetition := some .untilEqual } bs
    | 0xf3 => modifiers { plain with repetition := some .whileEqual } bs
    | _ =>
      if b.toNat / 16 = 4 then modifiers { m with extension := some (b.toNat % 16) } bs
      else some (m, b :: bs)

/-! ## Operands -/

/-- The fields of the byte that describes two operands, and the place in memory
    unless the second one is a register. -/
structure Form where
  mode : Nat
  /-- The field for a register or a part of the operation. -/
  field : Nat
  /-- The field for the other operand. -/
  other : Nat
  place : Location

/-- A base and an index, from the byte that describes them. -/
def scaled (m : Modifiers) (mode : Nat) : Reader Location := do
  let b := (← byte).toNat
  let index := m.number 1 (b / 8 % 8)
  let base := b % 8
  let place : Location :=
    { index := if index = 4 then none else some (general.getD index .rax, 2 ^ (b / 64)) }
  if base = 5 ∧ mode = 0 then return { place with displacement := ← signed .long }
  else return { place with base := some (general.getD (m.number 0 base) .rax) }

/-- The number that is added to an address. -/
def displacementOf (mode : Nat) : Reader UInt64 :=
  match mode with
  | 1 => signed .byte
  | 2 => signed .long
  | _ => pure 0

/-- The place in memory that an operand byte begins. -/
def place (m : Modifiers) (mode other : Nat) : Reader Location := do
  let place ←
    if other = 4 then scaled m mode
    else if other = 5 ∧ mode = 0 then
      pure { base := some .rip, displacement := ← signed .long }
    else pure { base := some (general.getD (m.number 0 other) .rax) }
  let displacement ← displacementOf mode
  return { place with
    displacement := place.displacement + displacement
    segment := m.segment
    isShort := m.isShort }

def form (m : Modifiers) : Reader Form := do
  let b := (← byte).toNat
  let (mode, field, other) := (b / 64, b / 8 % 8, b % 8)
  return ⟨mode, field, other, ← if mode = 3 then pure {} else place m mode other⟩

namespace Form

def isMemory (f : Form) : Bool := f.mode ≠ 3

/-- The number of the register that the operand is. -/
def otherNumber (f : Form) (m : Modifiers) : Nat := m.number 0 f.other

/-- The number of the operand that is always a register. -/
def number (f : Form) (m : Modifiers) : Nat := m.number 2 f.field

/-- The operand that is a register or in memory. -/
def operand (f : Form) (m : Modifiers) (w : Width) : Operand :=
  if f.isMemory then .memory f.place else m.register w (f.otherNumber m)

/-- The operand that is always a register. -/
def register (f : Form) (m : Modifiers) (w : Width) : Operand := m.register w (f.number m)

/-- The operand that is a vector register or in memory. -/
def vectorOperand (f : Form) (m : Modifiers) : Operand :=
  if f.isMemory then .memory f.place else .vector (f.otherNumber m)

/-- The operand that is always a vector register. -/
def vector (f : Form) (m : Modifiers) : Operand := .vector (f.number m)

end Form

end Reader

end SourceDebugger.Machine
