/-
  Executables in the ELF format: their header, sections and symbol tables.
  Both widths and both byte orders are read, whatever the machine.

  * `Elf.ofBytes` reads a file; a table that lies outside the file makes it
    malformed, a file without sections is fine;
  * `Elf.debugSection` are the contents of a section, decompressed if need be,
    and empty if the section is missing or cannot be read;
  * `Elf.symbols` are the named symbols of both symbol tables.
-/
import SourceDebugger.Executable.Basic
import SourceDebugger.Inflate
import SourceDebugger.Zstandard

namespace SourceDebugger

/-- A section header, and the section's name if it has one. -/
structure ElfSection where
  name : Option (List UInt8)
  type : Nat
  flags : Nat
  offset : Nat
  size : Nat
  /-- The section that this one refers to. -/
  link : Nat
  info : Nat

/-- An entry of a symbol table. -/
structure ElfSymbol where
  nameOffset : Nat
  info : Nat
  value : Nat

structure Elf where
  bytes : List UInt8
  order : ByteOrder
  /-- The file has 64-bit fields. -/
  isWide : Bool
  type : Nat
  sections : List ElfSection := []

namespace ElfSection

/-- Section types. -/
def symbolTable : Nat := 2
def textTable : Nat := 3
def relocationsWithAddend : Nat := 4
def withoutBytes : Nat := 8
def relocations : Nat := 9
def dynamicSymbolTable : Nat := 11
def extendedIndexes : Nat := 18
def compactRelocations : Nat := 0x40000014

def isRelocation (s : ElfSection) : Bool :=
  s.type = relocations ∨ s.type = relocationsWithAddend ∨ s.type = compactRelocations

/-- The flag of compressed sections. -/
def isCompressed (s : ElfSection) : Bool := s.flags.testBit 11

end ElfSection

namespace Elf

/-! ## Parts of a file -/

variable (elf : Elf)

/-- The size of a field that grows with the width of the file. -/
def wordSize : Nat := if elf.isWide then 8 else 4

def headerSize : Nat := if elf.isWide then 64 else 52
def sectionHeaderSize : Nat := if elf.isWide then 64 else 40
def programHeaderSize : Nat := if elf.isWide then 56 else 32
def symbolSize : Nat := if elf.isWide then 24 else 16

def number (n : Nat) : Decoder Nat := Decoder.number elf.order n

def word : Decoder Nat := elf.number elf.wordSize

/-- The `size` bytes at `offset`. -/
def part (offset size : Nat) : Except Malformed (List UInt8) :=
  FilePart.bytesAt elf.bytes offset size

/-- The bytes of a section. -/
def rawBytes (s : ElfSection) : Except Malformed (List UInt8) :=
  if s.type = ElfSection.withoutBytes then .ok [] else elf.part s.offset s.size

/-! ## Headers -/

/-- The fields of the file header that tell where the tables are. -/
structure Tables where
  type : Nat
  programOffset : Nat
  sectionOffset : Nat
  programSize : Nat
  programCount : Nat
  sectionSize : Nat
  sectionCount : Nat
  nameIndex : Nat

/-- Reads the fields behind the identification. -/
def tables : Decoder Tables := do
  let type ← elf.number 2
  Decoder.skip (2 + 4 + elf.wordSize)
  let programOffset ← elf.word
  let sectionOffset ← elf.word
  Decoder.skip (4 + 2)
  return ⟨type, programOffset, sectionOffset, ← elf.number 2, ← elf.number 2, ← elf.number 2,
    ← elf.number 2, ← elf.number 2⟩

/-- Reads a section header; the result has the position of the name. -/
def sectionHeader : Decoder (Nat × ElfSection) := do
  let name ← elf.number 4
  let type ← elf.number 4
  let flags ← elf.word
  Decoder.skip elf.wordSize
  let offset ← elf.word
  let size ← elf.word
  return (name, { name := none, type, flags, offset, size, link := ← elf.number 4,
                  info := ← elf.number 4 })

/-- The first section header, which holds numbers too large for the file
    header. -/
def firstHeader? (t : Tables) : Except Malformed (Option ElfSection) :=
  if t.sectionOffset = 0 then .ok none
  else if t.sectionSize ≠ elf.sectionHeaderSize then .error .badSections
  else do
    let bytes ← elf.part t.sectionOffset elf.sectionHeaderSize
    return some (← Decoder.runAt bytes 0 elf.sectionHeader).2

/-- Checks the table of program headers, which is not needed any further. -/
def checkPrograms (t : Tables) : Except Malformed Unit := do
  if t.programOffset = 0 then return
  let count ←
    if t.programCount < 0xffff then pure t.programCount
    else match ← elf.firstHeader? t with
      | some s => pure s.info
      | none => .error .badHeader
  if count = 0 then return
  if t.programSize ≠ elf.programHeaderSize then .error .badHeader
  let _ ← elf.part t.programOffset (count * elf.programHeaderSize)

/-- The section headers, each with the position of its name. -/
def sectionHeaders (t : Tables) : Except Malformed (List (Nat × ElfSection)) := do
  if t.sectionOffset = 0 then return []
  let count ←
    if t.sectionCount ≠ 0 then pure t.sectionCount
    else pure (((← elf.firstHeader? t).map (·.size)).getD 0)
  if count = 0 then return []
  if t.sectionSize ≠ elf.sectionHeaderSize then .error .badSections
  let bytes ← elf.part t.sectionOffset (count * elf.sectionHeaderSize)
  FilePart.values elf.sectionHeader elf.sectionHeaderSize bytes

/-- The table of section names, none if that section has no bytes. -/
def sectionNames (t : Tables) (headers : List (Nat × ElfSection)) :
    Except Malformed (Option TextTable) := do
  let index ←
    if t.nameIndex ≠ 0xffff then pure t.nameIndex
    else match ← elf.firstHeader? t with
      | some s => pure s.link
      | none => .error .badSections
  if index = 0 then .error .badSections
  match headers[index]? with
  | none => .error .badSections
  | some (_, s) =>
    if s.type = ElfSection.withoutBytes then return none
    else if UInt64.size ≤ s.offset + s.size then .error .badSections
    else return some ⟨s.offset, s.offset + s.size⟩

/-- The sections with their names. -/
def sectionsOf (t : Tables) : Except Malformed (List ElfSection) := do
  let headers ← elf.sectionHeaders t
  if headers.isEmpty then return []
  let names ← elf.sectionNames t headers
  return headers.map fun (position, s) =>
    { s with name := names.bind fun t => t.text? elf.bytes position }

/-! ## Symbols -/

/-- Reads a symbol. -/
def symbol : Decoder ElfSymbol := do
  let nameOffset ← elf.number 4
  if elf.isWide then
    let info ← Decoder.byte
    Decoder.skip 3
    return ⟨nameOffset, info.toNat, ← elf.number 8⟩
  else
    let value ← elf.number 4
    Decoder.skip 4
    return ⟨nameOffset, (← Decoder.byte).toNat, value⟩

/-- The class of a symbol, by its type. -/
def classOf (s : ElfSymbol) : SymbolClass :=
  match s.info % 16 with
  | 1 | 5 => .data
  | 2 | 10 => .code
  | 3 => .section
  | 4 => .file
  | 6 => .threadLocal
  | _ => .unspecified

/-- The table of the names of a symbol table. -/
def symbolNames (s : ElfSection) : Except Malformed (Option TextTable) :=
  if s.link = 0 then .ok none
  else
    match elf.sections[s.link]? with
    | none => .error .badSections
    | some names =>
      if names.type ≠ ElfSection.textTable ∨ UInt64.size ≤ names.offset + names.size then
        .error .badSections
      else .ok (some ⟨names.offset, names.offset + names.size⟩)

/-- The number of the first section of a type. -/
def sectionOfType? (type : Nat) : Option (Nat × ElfSection) :=
  (elf.sections.zipIdx.find? fun (s, _) => s.type == type).map fun (s, i) => (i, s)

/-- Checks the tables that extend the symbol table in section `index`, which
    have four bytes for a symbol. -/
def checkExtensions (index : Nat) : Except Malformed Unit :=
  elf.sections.forM fun s => do
    if s.type = ElfSection.extendedIndexes ∧ s.link = index then
      let bytes ← elf.rawBytes s
      if bytes.length % 4 ≠ 0 then .error .badSections

/-- The symbols of one table but its first entry.  Those without a name, or
    with one that is no text, are left out. -/
def symbolsIn (origin : SymbolTable) (type : Nat) : Except Malformed (List Symbol) := do
  match elf.sectionOfType? type with
  | none => return []
  | some (index, s) =>
    let bytes ← elf.rawBytes s
    let names ← elf.symbolNames s
    elf.checkExtensions index
    let entries ← FilePart.values elf.symbol elf.symbolSize bytes
    return (entries.drop 1).filterMap fun symbol =>
      Symbol.named? origin (classOf symbol)
        (names.bind fun t => t.text? elf.bytes symbol.nameOffset) (UInt64.ofNat symbol.value)

/-- Checks that relocations for the symbol table are of existing sections,
    which are no relocations themselves.  Section 0 stands for none. -/
def checkRelocations : Except Malformed Unit := do
  let symbols := ((elf.sectionOfType? ElfSection.symbolTable).map (·.1)).getD 0
  elf.sections.forM fun s =>
    if s.isRelocation ∧ s.link = symbols ∧ s.info ≠ 0 then
      match elf.sections[s.info]? with
      | some t => if t.isRelocation then .error .badSections else .ok ()
      | none => .error .badSections
    else .ok ()

/-- All symbols, those of the static table first. -/
def symbols : Except Malformed (List Symbol) := do
  let static ← elf.symbolsIn .static ElfSection.symbolTable
  let dynamic ← elf.symbolsIn .dynamic ElfSection.dynamicSymbolTable
  elf.checkRelocations
  return static ++ dynamic

/-! ## Files -/

/-- The file type of executables that the loader moves. -/
def movableType : Nat := 3

def isPositionIndependent : Bool := elf.type == movableType

/-- Reads width and byte order from the identification of a file. -/
def identify (bytes : List UInt8) : Except Malformed Elf :=
  match bytes.take 7 with
  | [0x7f, 0x45, 0x4c, 0x46, width, order, 1] =>
    if 1 ≤ width ∧ width ≤ 2 ∧ 1 ≤ order ∧ order ≤ 2 then
      .ok { bytes, order := if order = 1 then .little else .big, isWide := width == 2, type := 0 }
    else .error .badMagic
  | _ => .error .badMagic

/-- Reads the header and the sections of a file. -/
def ofBytes (bytes : List UInt8) : Except Malformed Elf := do
  let elf ← identify bytes
  let header ← elf.part 16 (elf.headerSize - 16)
  let t ← Decoder.runAt header 0 elf.tables
  elf.checkPrograms t
  return { elf with type := t.type, sections := ← elf.sectionsOf t }

/-! ## Contents of sections -/

/-- Decompresses a section with a header of its own for it. -/
def decompress (bytes : List UInt8) : Except Malformed (List UInt8) := do
  let headerSize := if elf.isWide then 24 else 12
  let (method, size) ← Decoder.runAt bytes 0 do
    let method ← elf.number 4
    if elf.isWide then Decoder.skip 4
    let size ← elf.word
    Decoder.skip elf.wordSize
    return (method, size)
  let data := bytes.drop headerSize
  let output := match method with
    | 1 => Inflate.zlib? size data
    | 2 => (Zstandard.decompress? data).filter (·.length == size)
    | _ => none
  match output with
  | some output => return output
  | none => .error .badSections

/-- Decompresses a section of the older kind, which starts with `ZLIB` and the
    size. -/
def decompressOld (bytes : List UInt8) : Except Malformed (List UInt8) :=
  match bytes with
  | 0x5a :: 0x4c :: 0x49 :: 0x42 :: 0 :: 0 :: 0 :: 0 :: a :: b :: c :: d :: data =>
    match Inflate.zlib? (ByteOrder.big.number [a, b, c, d]) data with
    | some output => .ok output
    | none => .error .badSections
  | _ => .error .badSections

/-- How the names of compressed sections of the older kind start. -/
def oldMark : List UInt8 := FilePart.ascii ".zdebug_"

/-- The contents of a section. -/
def contents (s : ElfSection) : Except Malformed (List UInt8) := do
  if s.isCompressed then
    if s.type = ElfSection.withoutBytes then .error .badSections
    else elf.decompress (← elf.rawBytes s)
  else if (s.name.map oldMark.isPrefixOf).getD false then decompressOld (← elf.rawBytes s)
  else elf.rawBytes s

/-- The contents of a debug section, by its name or that of the older kind. -/
def debugSection (name : String) : List UInt8 :=
  let find (name : List UInt8) := elf.sections.find? fun s => s.name == some name
  let name := FilePart.ascii name
  match (find name).or (find (oldMark ++ name.drop mark.length)) with
  | none => []
  | some s => ((elf.contents s).toOption).getD []
where
  /-- How the names of debug sections start. -/
  mark : List UInt8 := FilePart.ascii ".debug_"

/-- The executable in a file. -/
def executable (bytes : List UInt8) : Except Malformed Executable := do
  let elf ← ofBytes bytes
  return {
    order := elf.order, isPositionIndependent := elf.isPositionIndependent
    debugSection := elf.debugSection, symbols := ← elf.symbols }

end Elf

end SourceDebugger
