/-
  Units of debug information and their entries.  A unit holds a tree of
  entries, written in depth-first order, of which the first one describes the
  unit as a whole.

  * `Header.next?` reads the header of the next unit and sets its bytes apart;
  * `Entry.all` reads the entries of a unit in depth-first order, up to the
    first that is malformed;
  * `Lookups` are the tables that values of entries refer to;
  * `Scope.ofRoot` collects what the root says about the unit as a whole, and
    `Scope.lookups` are the tables of the unit.
-/
import SourceDebugger.Dwarf.Abbreviation

namespace SourceDebugger.Dwarf

/-- The sections that hold debug information.  A missing one is empty. -/
structure Sections where
  order : ByteOrder
  info : List UInt8 := []
  abbreviations : List UInt8 := []
  lines : List UInt8 := []
  lineStrings : List UInt8 := []
  strings : List UInt8 := []
  stringOffsets : List UInt8 := []
  addresses : List UInt8 := []
  ranges : List UInt8 := []
  rangeLists : List UInt8 := []

/-! ## Headers -/

structure Header where
  encoding : Encoding
  /-- Where the shapes of the entries are. -/
  abbreviations : Nat
  /-- The bytes behind the header. -/
  entries : List UInt8

namespace Header

/-- Reads the fields that units of some kinds have in addition. -/
def passKind (e : Encoding) (kind : UInt8) : Decoder Unit := do
  if kind = 1 ∨ kind = 3 then return
  else if kind = 4 ∨ kind = 5 then Decoder.skip 8
  else if kind = 2 ∨ kind = 6 then
    Decoder.skip 8
    Decoder.skip e.offsetBytes
  else Decoder.fail .badHeader

/-- Reads the fields behind the length; what remains are the entries. -/
def fields (order : ByteOrder) (offsetBytes : Nat) : Decoder Header := do
  let version ← Decoder.number order 2
  if 2 ≤ version ∧ version ≤ 4 then
    let abbreviations ← Decoder.number order offsetBytes
    let addressBytes ← addressSize
    return ⟨⟨order, version, offsetBytes, addressBytes⟩, abbreviations, ← get⟩
  else if version = 5 then
    let kind ← Decoder.byte
    let addressBytes ← addressSize
    let abbreviations ← Decoder.number order offsetBytes
    let encoding : Encoding := ⟨order, version, offsetBytes, addressBytes⟩
    passKind encoding kind
    return ⟨encoding, abbreviations, ← get⟩
  else Decoder.fail .unknownVersion

/-- Reads the next unit; none if all are read. -/
def next? (order : ByteOrder) : Decoder (Option Header) := do
  if ← Decoder.atEnd then return none
  let (n, offsetBytes) ← length order
  return some (← Decoder.within n (fields order offsetBytes))

end Header

/-! ## Entries -/

/-- A named value of an entry. -/
structure Attribute where
  name : AttributeName
  value : Value
  deriving DecidableEq

/-- An entry: what kind of thing it describes, and its attributes. -/
structure Entry where
  tag : Nat
  attributes : List Attribute
  deriving DecidableEq

namespace Entry

/-- The tag of functions. -/
def functionTag : Nat := 0x2e

/-- The first attribute called `name`. -/
def value? (entry : Entry) (name : AttributeName) : Option Value :=
  (entry.attributes.find? (·.name == name)).map (·.value)

/-- The last attribute called `name`. -/
def lastValue? (entry : Entry) (name : AttributeName) : Option Value :=
  (entry.attributes.reverse.find? (·.name == name)).map (·.value)

/-- Reads the attributes of a shape up to the first that is malformed: the
    attributes, and the bytes behind them. -/
def attributesOf (e : Encoding) :
    List AttributeSpec → List UInt8 → List Attribute × Except Malformed (List UInt8)
  | [], bytes => ([], .ok bytes)
  | s :: specs, bytes =>
    match (Value.ofForm e s.name s.form s.implicit).run bytes with
    | .error err => ([], .error err)
    | .ok (value, rest) =>
      let (attributes, rest) := attributesOf e specs rest
      (⟨s.name, value⟩ :: attributes, rest)

/-- Reads an entry and gives the bytes behind it.  There is none where a list of
    siblings ends; of a malformed entry there is what stands before the error. -/
def next (e : Encoding) (shapes : List Abbreviation) (bytes : List UInt8) :
    Option Entry × Except Malformed (List UInt8) :=
  match Decoder.unsigned.run bytes with
  | .error err => (none, .error err)
  | .ok (code, rest) =>
    if code = 0 then (none, .ok rest)
    else
      match Abbreviation.find? shapes code with
      | none => (none, .error .unknownAbbreviation)
      | some shape =>
        let (attributes, rest) := attributesOf e shape.attributes rest
        (some ⟨shape.tag, attributes⟩, rest)

/-- Reads entries until the bytes end, at most `limit` of them. -/
def allUpTo (e : Encoding) (shapes : List Abbreviation) :
    Nat → List UInt8 → List Entry × Except Malformed Unit
  | 0, _ => ([], .ok ())
  | limit + 1, bytes =>
    if bytes.isEmpty then ([], .ok ())
    else
      match next e shapes bytes with
      | (found, .error err) => (found.toList, .error err)
      | (found, .ok rest) =>
        let (entries, ending) := allUpTo e shapes limit rest
        (found.toList ++ entries, ending)

/-- The entries of a unit in depth-first order, and what ended them. -/
def all (e : Encoding) (shapes : List Abbreviation) (bytes : List UInt8) :
    List Entry × Except Malformed Unit := allUpTo e shapes bytes.length bytes

end Entry

/-! ## Values that refer to other sections -/

/-- The tables that values of entries refer to. -/
structure Lookups where
  /-- The address with a number. -/
  addressAt : Nat → Except Malformed Addr
  /-- The text that a value denotes. -/
  text : Value → Except Malformed (List UInt8)

/-- The address that a value denotes, none if it denotes none. -/
def Lookups.address? (l : Lookups) : Value → Except Malformed (Option Addr)
  | .address a => .ok (some a)
  | .index .addresses i => some <$> l.addressAt i
  | _ => .ok none

/-! ## What the root says -/

/-- What values of a unit's entries are read with: the sections, the encoding,
    and what the root says about the unit as a whole. -/
structure Scope where
  sections : Sections
  encoding : Encoding
  stringBase : Nat := 0
  addressBase : Nat := 0
  rangesBase : Nat := 0
  /-- The address that ranges of the unit are relative to. -/
  low : Addr := 0
  /-- The main source file of the unit, if its name can be read. -/
  name : Option (List UInt8) := none
  /-- The directory that file names are relative to. -/
  directory : Option (List UInt8) := none

namespace Scope

/-- The address with a number in the address table. -/
def addressAt (s : Scope) (i : Nat) : Except Malformed Addr :=
  Decoder.runAt s.sections.addresses (s.addressBase + i * s.encoding.addressBytes)
    s.encoding.address

/-- The text that a value denotes. -/
def text (s : Scope) : Value → Except Malformed (List UInt8)
  | .text bytes => .ok bytes
  | .offset .strings n => Decoder.runAt s.sections.strings n Decoder.text
  | .offset .lineStrings n => Decoder.runAt s.sections.lineStrings n Decoder.text
  | .index .strings i => do
    let n ← Decoder.runAt s.sections.stringOffsets (s.stringBase + i * s.encoding.offsetBytes)
      s.encoding.offset
    Decoder.runAt s.sections.strings n Decoder.text
  | _ => .error .badString

/-- The tables of the unit. -/
def lookups (s : Scope) : Lookups := ⟨s.addressAt, s.text⟩

/-- The position that the last of some attributes of the root denotes. -/
def position? (root : Entry) (names : List AttributeName) : Option Nat :=
  (root.attributes.filterMap fun a =>
    if a.name ∈ names then a.value.sectionOffset? else none).getLast?

/-- The scope of the unit with the given root.  A name that cannot be read is
    left out. -/
def ofRoot (sections : Sections) (encoding : Encoding) (root : Entry) :
    Except Malformed Scope := do
  let s : Scope :=
    { sections, encoding
      stringBase := (position? root [AttributeName.stringBase]).getD 0
      addressBase :=
        (position? root [AttributeName.addressBase, AttributeName.gnuAddressBase]).getD 0
      rangesBase :=
        (position? root [AttributeName.rangesBase, AttributeName.gnuRangesBase]).getD 0 }
  let text? (name : AttributeName) : Option (List UInt8) :=
    (root.lastValue? name).bind fun v => (s.text v).toOption
  let low ← match root.lastValue? AttributeName.low with
    | some v => s.lookups.address? v
    | none => pure none
  return { s with
    low := low.getD 0
    name := text? AttributeName.name
    directory := text? AttributeName.directory }

end Scope

end SourceDebugger.Dwarf
