/-
  Addresses of the debuggee.  An address is *static* (as the executable and its
  debug information describe it) or *runtime* (as the loaded process uses it);
  the two differ by the load address.  Machine words have the same 64 bits and
  are read as signed numbers only where they are shown in decimal.
-/
import SourceDebugger.Text.Numeral

namespace SourceDebugger

/-- An address in the address space of the debuggee. -/
abbrev Addr := UInt64

/-- A machine word, the unit in which memory of the debuggee is read and
    written. -/
abbrev Word := UInt64

/-- The number of bytes in a word. -/
def wordBytes : Nat := 8

namespace Addr

/-- `0x` and sixteen digits, the form in which sessions list addresses. -/
def padded (a : Addr) : String := "0x" ++ Numeral.paddedHex 16 a.toNat

/-- `0x` and as few digits as possible, the form used in messages. -/
def brief (a : Addr) : String := "0x" ++ Numeral.hex a.toNat

/-- The address that a text denotes, in hexadecimal behind `0x` or `0X` and in
    decimal otherwise. -/
def ofText? (text : String) : Option Addr :=
  match text.toList with
  | '0' :: 'x' :: digits | '0' :: 'X' :: digits => Numeral.read? 16 digits
  | digits => Numeral.read? 10 digits

/-- `a + offset`, `none` if that leaves the address space. -/
def checkedAdd (a : Addr) (offset : UInt64) : Option Addr :=
  if a.toNat + offset.toNat < UInt64.size then some (a + offset) else none

end Addr

namespace Word

/-- The signed number with the bits of `w`. -/
def toInt (w : Word) : Int := w.toInt64.toInt

/-- The `i`-th byte of a word, the lowest one being at the word's address. -/
def byte (w : Word) (i : Nat) : UInt8 := (w >>> UInt64.ofNat (8 * i)).toUInt8

/-- The bytes of a word in memory order. -/
def bytes (w : Word) : List UInt8 := (List.range wordBytes).map w.byte

/-- The number whose little-endian bytes are `bs`. -/
def ofBytes (bs : List UInt8) : Word := bs.foldr (fun b w => w <<< 8 ||| b.toUInt64) 0

/-- The word `w` with its lowest byte replaced. -/
def withLowByte (w : Word) (b : UInt8) : Word := (w &&& ~~~0xff) ||| b.toUInt64

/-- `0x` and sixteen digits of the two's complement. -/
def padded (w : Word) : String := "0x" ++ Numeral.paddedHex 16 w.toNat

end Word

end SourceDebugger
