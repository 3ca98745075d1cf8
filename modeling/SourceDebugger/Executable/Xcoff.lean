/-
  Executables in the XCOFF format, of both widths.  Numbers are big-endian.
  Their sections have other names than those that hold debug information
  elsewhere, so there is none.

  * `Xcoff.ofBytes` reads a file;
  * `Xcoff.symbols` are the named symbols.
-/
import SourceDebugger.Executable.Basic

namespace SourceDebugger

structure XcoffSymbol where
  /-- The whole entry. -/
  entry : List UInt8
  nameField : List UInt8
  nameOffset : Nat
  value : Nat
  storage : Nat
  /-- How many entries behind this one describe it. -/
  describing : Nat

structure Xcoff where
  file : List UInt8
  /-- The file has 64-bit fields. -/
  isWide : Bool
  flags : Nat
  entries : List XcoffSymbol := []
  texts : Option TextTable := none

namespace Xcoff

def number (n : Nat) : Decoder Nat := Decoder.number .big n

def headerSize (isWide : Bool) : Nat := if isWide then 24 else 20
def sectionSize (isWide : Bool) : Nat := if isWide then 72 else 40
def symbolSize : Nat := 18

/-- Reads an entry of the symbol table. -/
def symbol (isWide : Bool) : Decoder XcoffSymbol := fun bytes =>
  (do
    let first ← Decoder.take 8
    let second ← number 4
    Decoder.skip 4
    let storage ← number 1
    let describing ← number 1
    let entry := bytes.take symbolSize
    if isWide then
      return { entry, nameField := [0], nameOffset := second
               value := ByteOrder.big.number first, storage, describing }
    else
      return { entry, nameField := first, nameOffset := ByteOrder.big.number (first.drop 4)
               value := second, storage, describing } : Decoder XcoffSymbol).run bytes

/-- The fields of the header. -/
structure Header where
  sectionCount : Nat
  symbolPosition : Nat
  symbolCount : Nat
  /-- The size of a further header. -/
  optionalSize : Nat
  flags : Nat

def header (isWide : Bool) : Decoder Header := do
  Decoder.skip 2
  let sectionCount ← number 2
  Decoder.skip 4
  if isWide then
    let symbolPosition ← number 8
    let optionalSize ← number 2
    let flags ← number 2
    return { sectionCount, symbolPosition, symbolCount := ← number 4, optionalSize, flags }
  else
    let symbolPosition ← number 4
    let symbolCount ← number 4
    let optionalSize ← number 2
    return { sectionCount, symbolPosition, symbolCount, optionalSize, flags := ← number 2 }

/-- Reads a file. -/
def ofBytes (isWide : Bool) (file : List UInt8) : Except Malformed Xcoff := do
  let h ← Decoder.runAt file 0 (header isWide)
  if h.sectionCount ≠ 0 then
    let _ ← FilePart.bytesAt file (headerSize isWide + h.optionalSize)
      (h.sectionCount * sectionSize isWide)
  let x : Xcoff := { file, isWide, flags := h.flags }
  if h.symbolPosition = 0 then return x
  let entries ←
    FilePart.valuesAt (symbol isWide) symbolSize file h.symbolPosition h.symbolCount
  let texts ← TextTable.sizedAt .big file (h.symbolPosition + h.symbolCount * symbolSize)
  return { x with entries, texts := some texts }

variable (x : Xcoff)

/-! ## Symbols -/

/-- Kinds of storage. -/
def external : Nat := 2
def static : Nat := 3
def block : Nat := 100
def function : Nat := 101
def fileName : Nat := 103
def hidden : Nat := 107
def information : Nat := 110
def weakExternal : Nat := 111

/-- The name in a field, or where the field says. -/
def nameIn? (field : List UInt8) (offset : Nat) : Option (List UInt8) :=
  if field.head? = some 0 then x.texts.bind fun t => t.text? x.file offset
  else some (FilePart.fieldText field)

/-- The kind of an entry that describes another one, at its end. -/
def isOfKind (entry : List UInt8) (kind : UInt8) : Bool :=
  !x.isWide || entry.getLast? = some kind

/-- The name of a symbol; that of a file is in the entry behind. -/
def nameOf? (s : XcoffSymbol) (rest : List XcoffSymbol) : Option (List UInt8) :=
  if s.storage = fileName ∧ s.describing ≠ 0 then do
    let entry := (← rest.head?).entry
    if x.isOfKind entry 252 then
      x.nameIn? (entry.take 8) (ByteOrder.big.number ((entry.drop 4).take 4))
    else none
  else x.nameIn? s.nameField s.nameOffset

/-- What a symbol is, by the last entry that describes it. -/
def classIn? (entry : List UInt8) : Option SymbolClass :=
  let use := (entry.getD 11 0).toNat
  match entry.getD 10 0 % 8 with
  | 0 => some .unspecified
  | 1 | 3 =>
    some (if use ∈ [0, 6] then .code
      else if use ∈ [1, 5, 16, 9, 10, 15, 3] then .data
      else if use ∈ [20, 21] then .threadLocal
      else .unspecified)
  | 2 => some .code
  | _ => none

def classOf (s : XcoffSymbol) (rest : List XcoffSymbol) : SymbolClass :=
  let described? : Option SymbolClass := do
    if s.describing = 0 ∨ s.storage ∉ [external, hidden, weakExternal] then none
    let entry := (← rest[s.describing - 1]?).entry
    if x.isOfKind entry 251 then classIn? entry else none
  described?.getD (if s.storage = fileName then .file else .unspecified)

/-- The address of a symbol, zero if it has none. -/
def addressOf (s : XcoffSymbol) : Nat :=
  if s.storage ∈ [external, weakExternal, hidden, function, block, static, information] then
    s.value
  else 0

def symbols : List Symbol :=
  (Symbol.entriesAmong (·.describing) 0 x.entries).filterMap fun (s, rest) =>
    Symbol.named? .static (x.classOf s rest) (x.nameOf? s rest) (UInt64.ofNat (addressOf s))

/-- What the debugger takes from such a file.  A shared one is moved by the
    loader. -/
def executable : Executable where
  order := .big
  isPositionIndependent := !x.flags.testBit 1 && x.flags.testBit 13
  debugSection := fun _ => []
  symbols := x.symbols

end Xcoff

end SourceDebugger
