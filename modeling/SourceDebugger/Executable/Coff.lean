/-
  Executables in the COFF format and its relatives: object files, large object
  files, and executables that start with a program for an older system.

  * `Coff.ofObject`, `Coff.ofLargeObject` and `Coff.ofProgram` read the headers
    of these files;
  * `Coff.symbols` are the named symbols, `Coff.debugSection` the contents of a
    section.

  Numbers are little-endian.  Names of more than eight bytes are in a table
  behind the symbols.
-/
import SourceDebugger.Executable.Basic

namespace SourceDebugger

structure CoffSection where
  /-- The field for the name: its text, or where it is. -/
  nameField : List UInt8
  virtualSize : Nat
  virtualAddress : Nat
  size : Nat
  offset : Nat
  flags : Nat

structure CoffSymbol where
  /-- The whole entry. -/
  entry : List UInt8
  nameField : List UInt8
  value : Nat
  /-- The number of the section, from 1 on. -/
  sectionNumber : Nat
  type : Nat
  storage : Nat
  /-- How many entries behind this one describe it. -/
  describing : Nat

structure Coff where
  file : List UInt8
  /-- The address that others are relative to. -/
  base : Nat := 0
  /-- The file is an executable, not an object file. -/
  isProgram : Bool := false
  isPositionIndependent : Bool := false
  sections : List CoffSection
  entries : List CoffSymbol := []
  texts : Option TextTable := none

namespace Coff

def number (n : Nat) : Decoder Nat := Decoder.number .little n

/-! ## Tables -/

def sectionSize : Nat := 40

/-- Reads a section header. -/
def sectionHeader : Decoder CoffSection := do
  let nameField ← Decoder.take 8
  let virtualSize ← number 4
  let virtualAddress ← number 4
  let size ← number 4
  let offset ← number 4
  Decoder.skip 12
  return { nameField, virtualSize, virtualAddress, size, offset, flags := ← number 4 }

/-- The size of an entry of the symbol table. -/
def symbolSize (isLarge : Bool) : Nat := if isLarge then 20 else 18

/-- Reads an entry of the symbol table. -/
def symbol (isLarge : Bool) : Decoder CoffSymbol := fun bytes =>
  (do
    let nameField ← Decoder.take 8
    let value ← number 4
    let sectionNumber ← number (if isLarge then 4 else 2)
    let type ← number 2
    let storage ← number 1
    return { entry := bytes.take (symbolSize isLarge), nameField, value, sectionNumber, type, storage
             describing := ← number 1 } : Decoder CoffSymbol).run bytes

/-- The symbol table and its texts; a position of zero stands for none. -/
def symbolTable (isLarge : Bool) (file : List UInt8) (position count : Nat) :
    Except Malformed (List CoffSymbol × Option TextTable) := do
  if position = 0 then return ([], none)
  let size := symbolSize isLarge
  let entries ← FilePart.valuesAt (symbol isLarge) size file position count
  return (entries, some (← TextTable.sizedAt .little file (position + count * size)))

/-! ## Headers -/

/-- The fields of the header of an object file. -/
structure Header where
  sectionCount : Nat
  symbolPosition : Nat
  symbolCount : Nat
  /-- The size of a further header. -/
  optionalSize : Nat
  flags : Nat

def headerSize : Nat := 20

def header : Decoder Header := do
  Decoder.skip 2
  let sectionCount ← number 2
  Decoder.skip 4
  let symbolPosition ← number 4
  let symbolCount ← number 4
  let optionalSize ← number 2
  return { sectionCount, symbolPosition, symbolCount, optionalSize, flags := ← number 2 }

def sectionsAt (file : List UInt8) (offset count : Nat) : Except Malformed (List CoffSection) :=
  FilePart.valuesAt sectionHeader sectionSize file offset count

/-- Reads an object file. -/
def ofObject (file : List UInt8) : Except Malformed Coff := do
  let h ← Decoder.runAt file 0 header
  let sections ← sectionsAt file (headerSize + h.optionalSize) h.sectionCount
  let (entries, texts) ← symbolTable false file h.symbolPosition h.symbolCount
  return { file, sections, entries, texts }

/-- The mark of large object files. -/
def largeMark : List UInt8 :=
  [0xc7, 0xa1, 0xba, 0xd1, 0xee, 0xba, 0xa9, 0x4b, 0xaf, 0x20, 0xfa, 0xf6, 0x6a, 0xa4, 0xdc, 0xb8]

def largeHeaderSize : Nat := 56

/-- Reads a large object file. -/
def ofLargeObject (file : List UInt8) : Except Malformed Coff := do
  let (mark, sectionCount, position, count) ← Decoder.runAt file 0 do
    Decoder.skip 12
    let mark ← Decoder.take 16
    Decoder.skip 16
    return (mark, ← number 4, ← number 4, ← number 4)
  if mark ≠ largeMark then .error .badMagic
  let sections ← sectionsAt file largeHeaderSize sectionCount
  let (entries, texts) ← symbolTable true file position count
  return { file, sections, entries, texts }

/-- The mark in front of the header of a program. -/
def programMark : List UInt8 := [0x50, 0x45, 0, 0]

/-- The size of the further header of a program without its directories, by the
    number that it starts with. -/
def optionalSize? (kind : Nat) : Option Nat :=
  if kind = 0x10b then some 96 else if kind = 0x20b then some 112 else none

/-- Reads a program.  A symbol table that cannot be read counts as none. -/
def ofProgram (file : List UInt8) : Except Malformed Coff := do
  let _ ← FilePart.bytesAt file 0 64
  let start ← Decoder.runAt file 0x3c (number 4)
  let _ ← FilePart.bytesAt file start 120
  let (mark, h, kind) ← Decoder.runAt file start do
    return (← Decoder.take 4, ← header, ← number 2)
  if mark ≠ programMark then .error .badMagic
  let some size := optionalSize? kind | .error .badMagic
  let optionalStart := start + 4 + headerSize
  let optional ← FilePart.bytesAt file optionalStart size
  let (base, directories) ←
    if size = 96 then Decoder.runAt optional 28 do
      let base ← number 4
      Decoder.skip 60
      return (base, ← number 4)
    else Decoder.runAt optional 24 do
      let base ← number 8
      Decoder.skip 76
      return (base, ← number 4)
  if h.optionalSize < size then .error .badHeader
  let rest ← FilePart.bytesAt file (optionalStart + size) (h.optionalSize - size)
  if rest.length < directories * 8 then .error .badHeader
  let sections ← sectionsAt file (optionalStart + h.optionalSize) h.sectionCount
  let (entries, texts) :=
    ((symbolTable false file h.symbolPosition h.symbolCount).toOption).getD ([], none)
  return {
    file, base, isProgram := true, isPositionIndependent := h.flags.testBit 13
    sections, entries, texts }

variable (c : Coff)

/-! ## Symbols -/

def textAt (position : Nat) : Option (List UInt8) := c.texts.bind fun t => t.text? c.file position

/-- Kinds of storage. -/
def external : Nat := 2
def static : Nat := 3
def label : Nat := 6
def fileName : Nat := 103
def sectionName : Nat := 104
def weakExternal : Nat := 105

/-- The name of a symbol: in its field, or where the field says; that of a file
    is in the entries behind. -/
def nameOf? (s : CoffSymbol) (rest : List CoffSymbol) : Option (List UInt8) :=
  if s.storage = fileName ∧ s.describing ≠ 0 then
    if s.describing ≤ rest.length then
      some (FilePart.fieldText ((rest.take s.describing).flatMap (·.entry)))
    else none
  else if s.nameField.head? = some 0 then
    c.textAt (ByteOrder.little.number (s.nameField.drop 4))
  else some (FilePart.fieldText s.nameField)

def classOf (s : CoffSymbol) : SymbolClass :=
  let derived := if s.type / 16 % 4 = 2 then SymbolClass.code else .data
  if s.storage = static then
    if s.describing ≠ 0 ∧ s.type = 0 then .section else derived
  else if s.storage = external ∨ s.storage = weakExternal then derived
  else if s.storage = sectionName then .section
  else if s.storage = fileName then .file
  else if s.storage = label then .label
  else .unspecified

/-- The address of a symbol, zero if it has none. -/
def addressOf (s : CoffSymbol) : Nat :=
  if s.storage ∉ [external, static, label, weakExternal] ∨ s.sectionNumber = 0 then 0
  else match c.sections[s.sectionNumber - 1]? with
    | some found => c.base + found.virtualAddress + s.value
    | none => 0

def symbols : List Symbol :=
  (Symbol.entriesAmong (·.describing) 0 c.entries).filterMap fun (s, rest) =>
    Symbol.named? .static (classOf s) (c.nameOf? s rest) (UInt64.ofNat (c.addressOf s))

/-! ## Sections -/

/-- The digit of a position to the base 64. -/
def digit64? (b : UInt8) : Option Nat :=
  let n := b.toNat
  if 65 ≤ n ∧ n ≤ 90 then some (n - 65)
  else if 97 ≤ n ∧ n ≤ 122 then some (n - 71)
  else if 48 ≤ n ∧ n ≤ 57 then some (n + 4)
  else if n = 43 then some 62
  else if n = 47 then some 63
  else none

def digit10? (b : UInt8) : Option Nat :=
  if 48 ≤ b.toNat ∧ b.toNat ≤ 57 then some (b.toNat - 48) else none

/-- The number with some digits. -/
def ofDigits (base : Nat) (ds : List Nat) : Nat := ds.foldl (fun n d => n * base + d) 0

/-- The name of a section.  Behind one slash is the position of the name as a
    decimal number, behind two as one to the base 64. -/
def nameOfSection? (s : CoffSection) : Option (List UInt8) :=
  match s.nameField with
  | 47 :: 47 :: digits => do
    let n := ofDigits 64 (← digits.mapM digit64?)
    if n < 2 ^ 32 then c.textAt n else none
  | 47 :: digits => do c.textAt (ofDigits 10 (← (FilePart.fieldText digits).mapM digit10?))
  | field => some (FilePart.fieldText field)

/-- The flag of sections without contents in the file. -/
def isEmpty (s : CoffSection) : Bool := s.flags.testBit 7

/-- The contents of a section. -/
def contents (s : CoffSection) : Except Malformed (List UInt8) :=
  if c.isProgram then FilePart.bytesAt c.file s.offset (min s.virtualSize s.size)
  else if isEmpty s then .ok []
  else FilePart.bytesAt c.file s.offset s.size

def debugSection (name : String) : List UInt8 :=
  match c.sections.find? fun s => c.nameOfSection? s == some (FilePart.ascii name) with
  | some s => (c.contents s).toOption.getD []
  | none => []

/-- What the debugger takes from such a file. -/
def executable : Executable where
  order := .little
  isPositionIndependent := c.isPositionIndependent
  debugSection := c.debugSection
  symbols := c.symbols

end Coff

end SourceDebugger
