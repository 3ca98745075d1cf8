/-
  The functions of a unit.  An entry describes a function with code of its own
  if it has a low address and a high one, which is an address or the size of
  the function.

  * `Lookups.finding` says what an entry contributes;
  * `Lookups.functions` are the functions of some entries, in their order.  An
    entry whose high address has an unexpected form is passed over, with a line
    in the log.
-/
import SourceDebugger.Action
import SourceDebugger.Dwarf.Ranges
import SourceDebugger.Text.Utf8

namespace SourceDebugger.Dwarf

/-- What an entry contributes to the functions of a unit. -/
inductive Finding where
  | function (f : Function)
  /-- No function, or one without code of its own. -/
  | nothing
  /-- A function whose high address is neither an address nor a size. -/
  | badHigh (value : Value)
  deriving DecidableEq

namespace Lookups

variable {σ : Type}

/-- The name of an entry. -/
def nameOf (l : Lookups) (entry : Entry) : Except Malformed (Option String) :=
  match entry.value? AttributeName.name with
  | none => .ok none
  | some v => (fun t => some (Utf8.lossy t)) <$> l.text v

/-- The low address of an entry. -/
def lowOf (l : Lookups) (entry : Entry) : Except Malformed (Option Addr) :=
  match entry.value? AttributeName.low with
  | none => .ok none
  | some v => l.address? v

/-- The high address that a value denotes for a function at `low`. -/
def highOf? (low : Addr) : Value → Option Addr
  | .address a => some a
  | v => v.constant?.map (low + ·)

def finding (l : Lookups) (entry : Entry) : Except Malformed Finding := do
  if entry.tag ≠ Entry.functionTag then return .nothing
  match ← l.lowOf entry, entry.value? AttributeName.high with
  | some low, some v =>
    match highOf? low v with
    | some high => return .function ⟨← l.nameOf entry, low, high⟩
    | none => return .badHigh v
  | _, _ => return .nothing

/-- The functions that entries describe. -/
def functions (l : Lookups) : List Entry → Action σ (List Function)
  | [] => pure []
  | entry :: entries => do
    match l.finding entry with
    | .error e => .fail (.badDebugInfo e)
    | .ok .nothing => l.functions entries
    | .ok (.badHigh v) => do
      .log .warn .debugInfo ("could not parse high pc: " ++ v.describe)
      l.functions entries
    | .ok (.function f) => return f :: (← l.functions entries)

end Lookups

end SourceDebugger.Dwarf
