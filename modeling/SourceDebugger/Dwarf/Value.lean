/-
  Attribute values of debug information, by form.  A form says how many bytes
  a value takes and what kind of thing it is: an address, a number, a text, or
  a position in one of the sections.

  * `Encoding` is what the width of some forms depends on;
  * `Value.ofForm` reads a value, `Value.ofEntryForm` reads one of the forms
    that file tables of line programs may use;
  * `Value.constant?` is the number that a value of a constant form denotes.
-/
import SourceDebugger.Address
import SourceDebugger.Bytes

namespace SourceDebugger.Dwarf

/-- How numbers are laid out in a unit. -/
structure Encoding where
  order : ByteOrder
  version : Nat
  /-- The size of positions in sections: 4, or 8 in the 64-bit format. -/
  offsetBytes : Nat
  addressBytes : Nat
  deriving DecidableEq

/-- What a position in a file is relative to. -/
inductive Base where
  /-- A section that the attribute selects. -/
  | «section»
  | unit
  | units
  | otherUnits
  | strings
  | lineStrings
  | otherStrings
  deriving DecidableEq

/-- The lists that values are indexes of. -/
inductive Listing where
  | addresses
  | strings
  | ranges
  | locations
  deriving DecidableEq

inductive Value where
  | address (a : Addr)
  | unsigned (n : UInt64)
  | signed (n : Int)
  | flag (set : Bool)
  | text (bytes : List UInt8)
  | block (bytes : List UInt8)
  | offset (base : Base) (n : Nat)
  | index (listing : Listing) (n : Nat)
  | signature (n : UInt64)
  deriving DecidableEq

/-! ## Names and forms of the standard -/

/-- An attribute's name. -/
abbrev AttributeName := Nat

namespace AttributeName

def name : AttributeName := 0x03
def lineTable : AttributeName := 0x10
def low : AttributeName := 0x11
def high : AttributeName := 0x12
def directory : AttributeName := 0x1b
def ranges : AttributeName := 0x55
def stringBase : AttributeName := 0x72
def addressBase : AttributeName := 0x73
def rangesBase : AttributeName := 0x74
def gnuRangesBase : AttributeName := 0x2132
def gnuAddressBase : AttributeName := 0x2133

/-- A number of the size of a section offset is one in these attributes. -/
def isSectionOffset (n : AttributeName) : Bool := n == lineTable || n == ranges

end AttributeName

namespace Encoding

variable (e : Encoding)

def number (n : Nat) : Decoder Nat := Decoder.number e.order n

/-- A position in a section. -/
def offset : Decoder Nat := e.number e.offsetBytes

def address : Decoder Addr := UInt64.ofNat <$> e.number e.addressBytes

/-- The largest address. -/
def lastAddress : Addr := UInt64.ofNat (2 ^ (8 * e.addressBytes) - 1)

/-- `a + n` in the address space of the program. -/
def wrappingAdd (a : Addr) (n : UInt64) : Addr := (a + n) &&& e.lastAddress

/-- `a + n`, which must be an address of the program. -/
def checkedAdd (a : Addr) (n : UInt64) : Except Malformed Addr :=
  if a.toNat + n.toNat ≤ e.lastAddress.toNat then .ok (a + n) else .error .overflow

end Encoding

/-- Reads the length of a unit or table: its size, and the size of offsets in
    it. -/
def length (order : ByteOrder) : Decoder (Nat × Nat) := do
  let n ← Decoder.number order 4
  if n < 0xfffffff0 then return (n, 4)
  else if n = 0xffffffff then return (← Decoder.number order 8, 8)
  else Decoder.fail .badHeader

/-- Reads the size of addresses. -/
def addressSize : Decoder Nat := do
  let n ← Decoder.byte
  if n = 1 ∨ n = 2 ∨ n = 4 ∨ n = 8 then return n.toNat else Decoder.fail .badAddressSize

namespace Value

/-! ## Reading -/

def data (e : Encoding) (n : Nat) : Decoder Value :=
  (fun v => unsigned (UInt64.ofNat v)) <$> e.number n

/-- A number, or an offset if the attribute may be one and the size is right. -/
def dataOrOffset (e : Encoding) (name : AttributeName) (n : Nat) : Decoder Value :=
  if e.offsetBytes = n ∧ AttributeName.isSectionOffset name then offset .section <$> e.number n
  else data e n

def blockOf (size : Decoder Nat) : Decoder Value := do return block (← Decoder.take (← size))

/-- The forms that need no more than the encoding and occur everywhere. -/
def ofEntryForm? (e : Encoding) (form : Nat) : Option (Decoder Value) :=
  match form with
  | 0x03 => some (blockOf (e.number 2))
  | 0x04 => some (blockOf (e.number 4))
  | 0x05 => some (data e 2)
  | 0x06 => some (data e 4)
  | 0x07 => some (data e 8)
  | 0x08 => some (text <$> Decoder.text)
  | 0x09 => some (blockOf Decoder.unsigned)
  | 0x0a => some (blockOf (e.number 1))
  | 0x0b => some (data e 1)
  | 0x0c => some ((fun b => flag (b != 0)) <$> Decoder.byte)
  | 0x0d => some (signed <$> Decoder.signed)
  | 0x0e => some (offset .strings <$> e.offset)
  | 0x0f => some ((fun n => unsigned (UInt64.ofNat n)) <$> Decoder.unsigned)
  | 0x17 => some (offset .section <$> e.offset)
  | 0x1a | 0x1f02 => some (index .strings <$> Decoder.unsigned)
  | 0x1d | 0x1f21 => some (offset .otherStrings <$> e.offset)
  | 0x1e => some (block <$> Decoder.take 16)
  | 0x1f => some (offset .lineStrings <$> e.offset)
  | 0x25 => some (index .strings <$> e.number 1)
  | 0x26 => some (index .strings <$> e.number 2)
  | 0x27 => some (index .strings <$> e.number 3)
  | 0x28 => some (index .strings <$> e.number 4)
  | _ => none

/-- A value of a file table. -/
def ofEntryForm (e : Encoding) (form : Nat) : Decoder Value :=
  (ofEntryForm? e form).getD (Decoder.fail .unknownForm)

/-- A value whose form is written in front of it stands at most this often
    behind another such form. -/
def ofFormUpTo (e : Encoding) (name : AttributeName) (implicit : Option Int) :
    Nat → Nat → Decoder Value
  | 0, _ => Decoder.fail .endOfData
  | limit + 1, form =>
    match form with
    | 0x01 => address <$> e.address
    | 0x06 => dataOrOffset e name 4
    | 0x07 => dataOrOffset e name 8
    | 0x10 => offset .units <$> e.number (if e.version = 2 then e.addressBytes else e.offsetBytes)
    | 0x11 => offset .unit <$> e.number 1
    | 0x12 => offset .unit <$> e.number 2
    | 0x13 => offset .unit <$> e.number 4
    | 0x14 => offset .unit <$> e.number 8
    | 0x15 => offset .unit <$> Decoder.unsigned
    | 0x16 => do ofFormUpTo e name none limit (← Decoder.unsigned16)
    | 0x18 => blockOf Decoder.unsigned
    | 0x19 => pure (flag true)
    | 0x1b | 0x1f01 => index .addresses <$> Decoder.unsigned
    | 0x1c => offset .otherUnits <$> e.number 4
    | 0x20 => (fun n => signature (UInt64.ofNat n)) <$> e.number 8
    | 0x21 =>
      match implicit with
      | some n => pure (signed n)
      | none => Decoder.fail .badAttribute
    | 0x22 => index .locations <$> Decoder.unsigned
    | 0x23 => index .ranges <$> Decoder.unsigned
    | 0x24 => offset .otherUnits <$> e.number 8
    | 0x29 => index .addresses <$> e.number 1
    | 0x2a => index .addresses <$> e.number 2
    | 0x2b => index .addresses <$> e.number 3
    | 0x2c => index .addresses <$> e.number 4
    | 0x1f20 => offset .otherUnits <$> e.offset
    | form => ofEntryForm e form

/-- A value of the attribute `name`.  `implicit` is the value itself, for the
    form that keeps it beside the form. -/
def ofForm (e : Encoding) (name : AttributeName) (form : Nat) (implicit : Option Int) :
    Decoder Value := fun bs => ofFormUpTo e name implicit (bs.length + 2) form bs

/-! ## Use -/

/-- The number that a constant denotes, `none` if it is negative. -/
def constant? : Value → Option UInt64
  | unsigned n => some n
  | signed n => if 0 ≤ n then some (UInt64.ofNat n.toNat) else none
  | _ => none

/-- A position in the section that the attribute selects. -/
def sectionOffset? : Value → Option Nat
  | offset .section n => some n
  | _ => none

/-- How log messages show a value. -/
def describe : Value → String
  | address a => "Addr(" ++ Numeral.decimal a.toNat ++ ")"
  | unsigned n => "Udata(" ++ Numeral.decimal n.toNat ++ ")"
  | signed n => "Sdata(" ++ toString n ++ ")"
  | flag set => "Flag(" ++ (if set then "true" else "false") ++ ")"
  | text _ => "String(..)"
  | block _ => "Block(..)"
  | signature n => "DebugTypesRef(DebugTypeSignature(" ++ Numeral.decimal n.toNat ++ "))"
  | offset base n =>
    let text := Numeral.decimal n
    match base with
    | .section => "SecOffset(" ++ text ++ ")"
    | .unit => "UnitRef(UnitOffset(" ++ text ++ "))"
    | .units => "DebugInfoRef(DebugInfoOffset(" ++ text ++ "))"
    | .otherUnits => "DebugInfoRefSup(DebugInfoOffset(" ++ text ++ "))"
    | .strings => "DebugStrRef(DebugStrOffset(" ++ text ++ "))"
    | .lineStrings => "DebugLineStrRef(DebugLineStrOffset(" ++ text ++ "))"
    | .otherStrings => "DebugStrRefSup(DebugStrOffset(" ++ text ++ "))"
  | index listing n =>
    let name := match listing with
      | .addresses => "DebugAddrIndex"
      | .strings => "DebugStrOffsetsIndex"
      | .ranges => "DebugRngListsIndex"
      | .locations => "DebugLocListsIndex"
    name ++ "(" ++ name ++ "(" ++ Numeral.decimal n ++ "))"

end Value

end SourceDebugger.Dwarf
