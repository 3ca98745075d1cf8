/-
  Address ranges of a unit: a list of ranges in a section of its own, or the
  low and high address of the unit's root.

  * `RangeList.read` reads a list, in the old format of address pairs or the
    new one of tagged entries;
  * `RangeList.resolve` gives the ranges that the entries of a list denote;
    empty ranges and those of removed code are left out;
  * `Scope.ranges` are the ranges of an entry.
-/
import SourceDebugger.Dwarf.Unit

namespace SourceDebugger.Dwarf

/-- An entry of a list of ranges. -/
inductive RangeEntry where
  /-- The address that the entries behind it are relative to. -/
  | base (a : Addr)
  | relative (low high : Addr)
  | absolute (low high : Addr)
  deriving DecidableEq

namespace RangeList

/-- An entry of the old format; none marks the end of the list. -/
def pair? (e : Encoding) : Decoder (Option RangeEntry) := do
  if ← Decoder.atEnd then return none
  let low ← e.address
  let high ← e.address
  if low = 0 ∧ high = 0 then return none
  else if low = e.lastAddress then return some (.base high)
  else return some (.relative low high)

/-- A number of variable length as an address. -/
def distance : Decoder UInt64 := UInt64.ofNat <$> Decoder.unsigned

/-- An entry of the new format; none marks the end of the list. -/
def tagged? (s : Scope) : Decoder (Option RangeEntry) := do
  let e := s.encoding
  let indexed : Decoder Addr := do
    match s.addressAt (← Decoder.unsigned) with
    | .ok a => return a
    | .error err => Decoder.fail err
  if ← Decoder.atEnd then return none
  match (← Decoder.byte).toNat with
  | 0 => return none
  | 1 => return some (.base (← indexed))
  | 2 => return some (.absolute (← indexed) (← indexed))
  | 3 =>
    let low ← indexed
    return some (.absolute low (e.wrappingAdd low (← distance)))
  | 4 => return some (.relative (← distance) (← distance))
  | 5 => return some (.base (← e.address))
  | 6 => return some (.absolute (← e.address) (← e.address))
  | 7 =>
    let low ← e.address
    return some (.absolute low (e.wrappingAdd low (← distance)))
  | _ => Decoder.fail .badRanges

/-- The list at a position. -/
def read (s : Scope) (offset : Nat) : Except Malformed (List RangeEntry) :=
  if s.encoding.version ≤ 4 then
    Decoder.runAt s.sections.ranges offset (Decoder.many (pair? s.encoding))
  else Decoder.runAt s.sections.rangeLists offset (Decoder.many (tagged? s))

/-- The address that stands for removed code. -/
def removed (e : Encoding) : Addr :=
  if e.version ≤ 4 then e.lastAddress - 1 else e.lastAddress

/-- A range, unless it is empty or of removed code. -/
def keep (e : Encoding) (low high : Addr) : List (Addr × Addr) :=
  if low = removed e ∨ high ≤ low then [] else [(low, high)]

/-- The ranges that entries denote, relative to `base`. -/
def resolve (e : Encoding) : Addr → List RangeEntry → List (Addr × Addr)
  | _, [] => []
  | _, .base a :: entries => resolve e a entries
  | base, .relative low high :: entries =>
    (if base = removed e then []
      else keep e (e.wrappingAdd base low) (e.wrappingAdd base high)) ++ resolve e base entries
  | base, .absolute low high :: entries => keep e low high ++ resolve e base entries

end RangeList

namespace Scope

/-- The position of a list of ranges, none if the value denotes none. -/
def rangeList? (s : Scope) : Value → Except Malformed (Option Nat)
  | .offset .section n => .ok (some n)
  | .index .ranges i => do
    let n ← Decoder.runAt s.sections.rangeLists (s.rangesBase + i * s.encoding.offsetBytes)
      s.encoding.offset
    return some (s.rangesBase + n)
  | _ => .ok none

/-- What the attributes read so far say about the extent of an entry. -/
structure Extent where
  low : Option Addr := none
  high : Option Addr := none
  size : Option UInt64 := none

/-- The range of an extent: a size wins over a high address. -/
def Extent.ranges (x : Extent) : List (Addr × Addr) :=
  match x.low, x.size, x.high with
  | some low, some size, _ => [(low, low + size)]
  | some low, none, some high => [(low, high)]
  | _, _, _ => []

/-- An address, which the value must denote. -/
def address (s : Scope) (v : Value) : Except Malformed Addr := do
  match ← s.lookups.address? v with
  | some a => return a
  | none => .error .badAttribute

/-- Goes through the attributes of an entry.  A list of ranges wins over low
    and high addresses. -/
def rangesFrom (s : Scope) (x : Extent) : List Attribute → Except Malformed (List (Addr × Addr))
  | [] => .ok x.ranges
  | a :: as => do
    if a.name = AttributeName.low then
      s.rangesFrom { x with low := some (← s.address a.value) } as
    else if a.name = AttributeName.high then
      match a.value.constant? with
      | some n => s.rangesFrom { x with size := some n } as
      | none => s.rangesFrom { x with high := some (← s.address a.value) } as
    else if a.name = AttributeName.ranges then
      match ← s.rangeList? a.value with
      | some n => return RangeList.resolve s.encoding s.low (← RangeList.read s n)
      | none => s.rangesFrom x as
    else s.rangesFrom x as

/-- The address ranges of an entry. -/
def ranges (s : Scope) (entry : Entry) : Except Malformed (List (Addr × Addr)) :=
  s.rangesFrom {} entry.attributes

end Scope

end SourceDebugger.Dwarf
