/-
  What the debugger takes from the file of an executable, and the parts that
  such files are made of, whatever their format.

  * `Executable` is what is known of an executable before its debug information
    is read;
  * `FilePart.bytesAt`, `FilePart.values` and `TextTable.text?` find parts of a
    file: ranges of bytes, tables of values of one size, and texts.
-/
import SourceDebugger.Bytes
import SourceDebugger.DebugInfo
import SourceDebugger.Text.Utf8

namespace SourceDebugger

structure Executable where
  order : ByteOrder
  /-- The loader may move the executable. -/
  isPositionIndependent : Bool
  /-- The contents of the debug section with a name; nothing if it is missing or
      cannot be read. -/
  debugSection : String → List UInt8
  symbols : List Symbol

namespace FilePart

/-- The `size` bytes of a file at `offset`. -/
def bytesAt (file : List UInt8) (offset size : Nat) : Except Malformed (List UInt8) :=
  if offset ≤ file.length ∧ size ≤ file.length - offset then
    .ok ((file.drop offset).take size)
  else .error .badSections

/-- Decoded values of `size` bytes each, which fill the bytes. -/
def values {α : Type} (d : Decoder α) (size : Nat) (bytes : List UInt8) :
    Except Malformed (List α) :=
  if bytes.length % size ≠ 0 then .error .badSections
  else (List.range (bytes.length / size)).mapM fun i => Decoder.runAt bytes (i * size) d

/-- `count` decoded values of `size` bytes each, from `offset` on. -/
def valuesAt {α : Type} (d : Decoder α) (size : Nat) (file : List UInt8) (offset count : Nat) :
    Except Malformed (List α) := do
  values d size (← bytesAt file offset (count * size))

/-- The text in a field of a fixed size, which zeros fill up. -/
def fieldText (bs : List UInt8) : List UInt8 := bs.takeWhile (· ≠ 0)

/-- The bytes of a text. -/
def ascii (text : String) : List UInt8 := text.toList.map fun c => UInt8.ofNat c.toNat

end FilePart

/-- A part of a file that holds texts; each ends at a zero byte. -/
structure TextTable where
  start : Nat
  stop : Nat

namespace TextTable

/-- The text at a position of a table. -/
def text? (t : TextTable) (file : List UInt8) (position : Nat) : Option (List UInt8) :=
  if t.start + position ≤ t.stop then
    match FilePart.bytesAt file (t.start + position) (t.stop - (t.start + position)) with
    | .error _ => none
    | .ok bytes => (Decoder.text.run bytes).toOption.map (·.1)
  else none

/-- The table whose first four bytes are its size. -/
def sizedAt (order : ByteOrder) (file : List UInt8) (start : Nat) :
    Except Malformed TextTable := do
  let size ← FilePart.bytesAt file start 4
  return ⟨start, start + order.number size⟩

end TextTable

/-- A symbol, unless it has no name, or one that is no text. -/
def Symbol.named? (table : SymbolTable) (c : SymbolClass) (name : Option (List UInt8))
    (addr : Addr) : Option Symbol := do
  let text ← Utf8.decode? (← name)
  if text.isEmpty then none else some ⟨table, .ofClass c, text, addr⟩

/-- The entries of a table that are symbols, each with what follows.  Behind a
    symbol may be entries that only describe it. -/
def Symbol.entriesAmong {α : Type} (describing : α → Nat) :
    Nat → List α → List (α × List α)
  | _, [] => []
  | 0, e :: rest => (e, rest) :: entriesAmong describing (describing e) rest
  | skipped + 1, _ :: rest => entriesAmong describing skipped rest

end SourceDebugger
