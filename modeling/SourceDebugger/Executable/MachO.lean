/-
  Executables in the Mach-O format, of both widths and byte orders.

  * `MachO.ofBytes` reads a file: its commands name segments with sections, and
    a symbol table;
  * `MachO.symbols` are the named symbols, `MachO.debugSection` the contents of
    a section.
-/
import SourceDebugger.Executable.Basic

namespace SourceDebugger

structure MachOSection where
  name : List UInt8
  /-- The name of the segment. -/
  segment : List UInt8
  offset : Nat
  size : Nat
  flags : Nat

structure MachOSymbol where
  nameOffset : Nat
  type : Nat
  /-- The number of the section, from 1 on. -/
  sectionNumber : Nat
  value : Nat

structure MachO where
  file : List UInt8
  order : ByteOrder
  /-- The file has 64-bit fields. -/
  isWide : Bool
  type : Nat := 0
  sections : List MachOSection := []
  entries : List MachOSymbol := []
  texts : Option TextTable := none

namespace MachO

variable (m : MachO)

def number (n : Nat) : Decoder Nat := Decoder.number m.order n

/-- A field that grows with the width of the file. -/
def word : Decoder Nat := m.number (if m.isWide then 8 else 4)

def headerSize : Nat := if m.isWide then 32 else 28
def segmentSize : Nat := if m.isWide then 72 else 56
def sectionSize : Nat := if m.isWide then 80 else 68
def symbolSize : Nat := if m.isWide then 16 else 12

/-! ## Commands -/

/-- A command: its number and all its bytes. -/
structure Command where
  number : Nat
  bytes : List UInt8

/-- The commands in some bytes, at most `count`, up to the first that is
    malformed. -/
def commandsIn : Nat → List UInt8 → List Command
  | 0, _ => []
  | count + 1, bytes =>
    match (do return (← m.number 4, ← m.number 4) : Decoder (Nat × Nat)).run bytes with
    | .error _ => []
    | .ok ((number, size), _) =>
      if size < 8 ∨ bytes.length < size then []
      else ⟨number, bytes.take size⟩ :: commandsIn count (bytes.drop size)

/-- Reads a section header. -/
def sectionHeader : Decoder MachOSection := do
  let name ← Decoder.take 16
  let segment ← Decoder.take 16
  let _ ← m.word
  let size ← m.word
  let offset ← m.number 4
  Decoder.skip 12
  return { name := FilePart.fieldText name, segment := FilePart.fieldText segment
           offset, size, flags := ← m.number 4 }

def symbol : Decoder MachOSymbol := do
  let nameOffset ← m.number 4
  let type ← m.number 1
  let sectionNumber ← m.number 1
  Decoder.skip 2
  return { nameOffset, type, sectionNumber, value := ← m.word }

/-- Numbers of commands. -/
def segmentCommand : Nat := if m.isWide then 0x19 else 1
def symbolTableCommand : Nat := 2

/-- Adds the sections of a segment. -/
def addSegment (command : Command) : Except Malformed MachO := do
  let _ ← FilePart.bytesAt command.bytes 0 m.segmentSize
  let count ← Decoder.runAt command.bytes (m.segmentSize - 8) (m.number 4)
  let sections ← FilePart.valuesAt m.sectionHeader m.sectionSize command.bytes m.segmentSize count
  return { m with sections := m.sections ++ sections }

/-- Takes the symbol table that a command names. -/
def setSymbols (command : Command) : Except Malformed MachO := do
  let (offset, count, start, size) ← Decoder.runAt command.bytes 8 do
    return (← m.number 4, ← m.number 4, ← m.number 4, ← m.number 4)
  let entries ← FilePart.valuesAt m.symbol m.symbolSize m.file offset count
  return { m with entries, texts := some ⟨start, start + size⟩ }

def addCommand (command : Command) : Except Malformed MachO :=
  if command.number = m.segmentCommand then m.addSegment command
  else if command.number = symbolTableCommand then m.setSymbols command
  else .ok m

/-- Reads a file whose width and byte order are known.  A table of commands that
    lies outside the file counts as none. -/
def ofBytes (order : ByteOrder) (isWide : Bool) (file : List UInt8) : Except Malformed MachO := do
  let m : MachO := { file, order, isWide }
  let header ← FilePart.bytesAt file 0 m.headerSize
  let (type, count, size) ← Decoder.runAt header 12 do
    return (← m.number 4, ← m.number 4, ← m.number 4)
  let bytes := (FilePart.bytesAt file m.headerSize size).toOption.getD []
  (m.commandsIn count bytes).foldlM addCommand { m with type }

/-! ## Symbols -/

/-- What the symbols of a section are. -/
def classOfSection (s : MachOSection) : SymbolClass :=
  let isIn (segment : String) (names : List String) : Bool :=
    s.segment == FilePart.ascii segment && names.any fun name => s.name == FilePart.ascii name
  if isIn "__TEXT" ["__text"] then .code
  else if isIn "__TEXT" ["__const", "__cstring", "__literal4", "__literal8", "__literal16",
      "__eh_frame", "__gcc_except_tab"] then .data
  else if isIn "__DATA" ["__data", "__const", "__bss", "__common"] then .data
  else if isIn "__DATA" ["__thread_data", "__thread_bss", "__thread_vars"] then .threadLocal
  else .unspecified

/-- The symbol belongs to a section. -/
def isInSection (s : MachOSymbol) : Bool := s.type / 2 % 8 = 7

def classOf (s : MachOSymbol) : SymbolClass :=
  if isInSection s ∧ s.sectionNumber ≠ 0 then
    ((m.sections[s.sectionNumber - 1]?).map classOfSection).getD .unspecified
  else .unspecified

/-- The entry is for debuggers of an older kind. -/
def isForDebugger (s : MachOSymbol) : Bool := s.type / 32 ≠ 0

def symbols : List Symbol :=
  (m.entries.filter fun s => !isForDebugger s).filterMap fun s =>
    Symbol.named? .static (m.classOf s) (m.texts.bind fun t => t.text? m.file s.nameOffset)
      (UInt64.ofNat s.value)

/-! ## Sections -/

/-- The flags say that a section has no contents in the file. -/
def isEmpty (s : MachOSection) : Bool := s.flags % 256 ∈ [0x01, 0x0c, 0x12]

def contents (s : MachOSection) : Except Malformed (List UInt8) :=
  if isEmpty s then .ok [] else FilePart.bytesAt m.file s.offset s.size

/-- The section with a name, which is written with two underscores instead of a
    dot and cut to 16 bytes. -/
def debugSection (name : String) : List UInt8 :=
  let name := FilePart.ascii name
  let written := FilePart.ascii "__" ++ (name.drop 1).take 14
  match m.sections.find? fun s => s.name == name || s.name == written with
  | some s => (m.contents s).toOption.getD []
  | none => []

/-- The type of libraries, which the loader moves. -/
def libraryType : Nat := 6

/-- What the debugger takes from such a file. -/
def executable : Executable where
  order := m.order
  isPositionIndependent := m.type == libraryType
  debugSection := m.debugSection
  symbols := m.symbols

end MachO

end SourceDebugger
