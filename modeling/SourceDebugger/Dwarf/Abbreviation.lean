/-
  Abbreviations: the shapes of the entries of a unit.  An entry names its shape
  by a code and then holds only the values of its attributes.

  * `Abbreviation.table` reads the shapes of a unit, each code once;
  * `Abbreviation.find?` looks one up.
-/
import SourceDebugger.Dwarf.Value

namespace SourceDebugger.Dwarf

/-- How an attribute of an entry is written. -/
structure AttributeSpec where
  name : AttributeName
  form : Nat
  /-- The value itself, for the form that keeps it here. -/
  implicit : Option Int
  deriving DecidableEq

/-- The shape of an entry. -/
structure Abbreviation where
  code : Nat
  tag : Nat
  attributes : List AttributeSpec
  deriving DecidableEq

/-- Reads the next attribute of a shape; none marks the end of the list. -/
def AttributeSpec.next? : Decoder (Option AttributeSpec) := do
  let name ← Decoder.unsigned16
  let form ← Decoder.unsigned16
  if name = 0 then
    if form = 0 then return none else Decoder.fail .badAbbreviation
  else if form = 0 then Decoder.fail .badAbbreviation
  else if form = 0x21 then return some ⟨name, form, some (← Decoder.signed)⟩
  else return some ⟨name, form, none⟩

namespace Abbreviation

/-- Reads the next shape; none marks the end of the table. -/
def next? : Decoder (Option Abbreviation) := do
  let code ← Decoder.unsigned
  if code = 0 then return none
  let tag ← Decoder.unsigned16
  if tag = 0 then Decoder.fail .badAbbreviation
  let children ← Decoder.byte
  if 1 < children then Decoder.fail .badAbbreviation
  return some ⟨code, tag, ← Decoder.many AttributeSpec.next?⟩

/-- The shapes that are written at `offset`. -/
def table (bytes : List UInt8) (offset : Nat) : Except Malformed (List Abbreviation) := do
  let shapes ← Decoder.runAt bytes offset (Decoder.many next?)
  if (shapes.map (·.code)).Nodup then return shapes else .error .badAbbreviation

def find? (shapes : List Abbreviation) (code : Nat) : Option Abbreviation :=
  shapes.find? (·.code == code)

end Abbreviation

end SourceDebugger.Dwarf
