/-
  Software breakpoints.  The first byte of an instruction is replaced by a trap
  instruction; the replaced byte is kept, so that it can be put back.

  * `Breakpoint.enable` and `Breakpoint.disable` patch a word of the tracee;
    if reading or writing fails, the breakpoint is what it was;
  * `BreakpointTable` holds at most one breakpoint for an address.
-/
import Std.Data.ExtTreeMap
import SourceDebugger.Tracee

namespace SourceDebugger

/-- The trap instruction. -/
def trapByte : UInt8 := 0xcc

/-- The length of the trap instruction: behind it the program counter stands
    when the trap has fired. -/
def trapWidth : UInt64 := 1

structure Breakpoint where
  addr : Addr
  /-- The replaced byte at `addr`, there exactly while the breakpoint is
      enabled. -/
  saved : Option UInt8 := none
  deriving DecidableEq

namespace Breakpoint

variable {τ : Type} [Tracee τ]

def isEnabled (b : Breakpoint) : Bool := b.saved.isSome

/-- Writes the trap and keeps the byte that it replaces. -/
def enable (b : Breakpoint) : Action τ Breakpoint := do
  if b.isEnabled then
    Action.fail .breakpointAlreadyEnabled
  else
    let word ← Tracee.readWord b.addr
    Action.log .trace .breakpoint ("original word: " ++ Numeral.paddedHex 16 word.toNat)
    let patched := word.withLowByte trapByte
    Action.log .trace .breakpoint ("modified word: " ++ Numeral.paddedHex 16 patched.toNat)
    Tracee.writeWord b.addr patched
    return { b with saved := some word.toUInt8 }

/-- Puts the saved byte back. -/
def disable (b : Breakpoint) : Action τ Breakpoint := do
  match b.saved with
  | none => Action.fail .breakpointAlreadyDisabled
  | some saved =>
    let word ← Tracee.readWord b.addr
    Action.log .trace .breakpoint ("breakpo: " ++ Numeral.paddedHex 16 word.toNat)
    let restored := word.withLowByte saved
    Action.log .trace .breakpoint ("restore: " ++ Numeral.paddedHex 16 restored.toNat)
    Tracee.writeWord b.addr restored
    return { b with saved := none }

/-- How a breakpoint is shown to its developers. -/
def describe (b : Breakpoint) : String :=
  let saved := match b.saved with
    | some byte => "Some(" ++ Numeral.decimal byte.toNat ++ ")"
    | none => "None"
  "Breakpoint \x7b addr: " ++ b.addr.brief ++ ", saved_data: " ++ saved ++ " \x7d"

end Breakpoint

/-- The breakpoints of a session: for an address with a breakpoint the saved
    byte, if it is enabled. -/
structure BreakpointTable where
  saved : Std.ExtTreeMap Addr (Option UInt8) := ∅

namespace BreakpointTable

def empty : BreakpointTable := {}

def get? (t : BreakpointTable) (a : Addr) : Option Breakpoint :=
  t.saved[a]?.map fun saved => ⟨a, saved⟩

def contains (t : BreakpointTable) (a : Addr) : Bool := t.saved.contains a

def isEnabledAt (t : BreakpointTable) (a : Addr) : Bool := (t.get? a).any (·.isEnabled)

/-- Adds a breakpoint or replaces the one at its address. -/
def put (t : BreakpointTable) (b : Breakpoint) : BreakpointTable :=
  ⟨t.saved.insert b.addr b.saved⟩

def erase (t : BreakpointTable) (a : Addr) : BreakpointTable := ⟨t.saved.erase a⟩

/-- All breakpoints, by address. -/
def toList (t : BreakpointTable) : List Breakpoint :=
  t.saved.toList.map fun (a, saved) => ⟨a, saved⟩

/-- The addresses with a breakpoint, in order. -/
def addresses (t : BreakpointTable) : List Addr := t.saved.keys

def size (t : BreakpointTable) : Nat := t.saved.size

theorem get?_put (t : BreakpointTable) (b : Breakpoint) (a : Addr) :
    (t.put b).get? a = if b.addr = a then some b else t.get? a := by
  simp only [get?, put, Std.ExtTreeMap.getElem?_insert, Std.LawfulEqCmp.compare_eq_iff_eq]
  by_cases h : b.addr = a
  · subst h; simp
  · simp [h]

theorem get?_erase (t : BreakpointTable) (a b : Addr) :
    (t.erase a).get? b = if a = b then none else t.get? b := by
  simp only [get?, erase, Std.ExtTreeMap.getElem?_erase, Std.LawfulEqCmp.compare_eq_iff_eq]
  by_cases h : a = b <;> simp [h]

@[simp] theorem get?_empty (a : Addr) : empty.get? a = none := by
  simp [get?, empty]

end BreakpointTable

end SourceDebugger
