/-
  What the kernel keeps of a process beside its memory and its signals: for whom
  it acts, and what it has told about itself.

  * `Identity` is the user, or the group, that a process acts for;
  * `Limits` bounds what it may use;
  * `Traits` holds all of that.
-/
import SourceDebugger.Arithmetic

namespace SourceDebugger.Machine

/-- The user, or the group, that a process acts for. -/
structure Identity where
  real : Nat := 0
  effective : Nat := 0
  /-- The one that it can go back to. -/
  saved : Nat := 0
  /-- The one that counts for files. -/
  forFiles : Nat := 0
  deriving DecidableEq

namespace Identity

def includes (i : Identity) (n : Nat) : Bool :=
  n = i.real || n = i.effective || n = i.saved

/-- Sets the effective number, which also counts for files then. -/
def setEffective (i : Identity) (n : Nat) : Identity := { i with effective := n, forFiles := n }

end Identity

/-- How much of something a process may use: what counts, and what it can be
    raised to. -/
structure Limit where
  current : Nat
  largest : Nat
  deriving DecidableEq

namespace Limit

def infinite : Nat := 2 ^ 64 - 1

/-- The limits of programs, by their numbers. -/
def initial : List Limit :=
  let all : Limit := ⟨infinite, infinite⟩
  [all, all, all, ⟨8 * 2 ^ 20, infinite⟩, ⟨0, infinite⟩, all, ⟨128604, 128604⟩, ⟨20000, 20000⟩,
   ⟨8 * 2 ^ 20, 8 * 2 ^ 20⟩, all, all, ⟨128604, 128604⟩, ⟨819200, 819200⟩, ⟨0, 0⟩, ⟨0, 0⟩, all]

end Limit

/-- The memory on which signals are handled. -/
structure SignalStack where
  start : UInt64 := 0
  flags : Nat := 2
  size : Nat := 0

structure Traits where
  users : Identity := {}
  groups : Identity := {}
  /-- The process leads a session of its own. -/
  leadsSession : Bool := false
  /-- The process leads a group of processes. -/
  leadsGroup : Bool := false
  /-- The name of the program, at most 15 bytes. -/
  name : List UInt8 := []
  /-- Bits that tell how the process is treated; addresses are not randomized. -/
  personality : Nat := 0x40000
  /-- The signal that it gets when its parent dies. -/
  deathSignal : Nat := 0
  isDumpable : Bool := true
  keepsRights : Bool := false
  /-- It cannot gain rights by starting programs. -/
  isConfined : Bool := false
  /-- It may only read, write and end. -/
  isStrict : Bool := false
  isReaper : Bool := false
  /-- How late it may be woken, in nanoseconds. -/
  slack : Nat := 50000
  niceness : Int := 0
  signalStack : SignalStack := {}
  limits : List Limit := Limit.initial

end SourceDebugger.Machine
