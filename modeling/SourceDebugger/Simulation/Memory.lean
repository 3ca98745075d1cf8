/-
  Byte addressed memory of a simulated process.  Only mapped bytes can be read
  and written; words are little-endian, and addresses wrap around at the end
  of the address space.
-/
import Std.Data.ExtTreeMap
import SourceDebugger.Address

namespace SourceDebugger

/-- The mapped bytes. -/
structure Memory where
  bytes : Std.ExtTreeMap Addr UInt8 := ∅

namespace Memory

def get? (m : Memory) (a : Addr) : Option UInt8 := m.bytes[a]?

/-- Maps a byte. -/
def set (m : Memory) (a : Addr) (b : UInt8) : Memory := ⟨m.bytes.insert a b⟩

/-- Maps the bytes `bs` from `a` on. -/
def setBytes (m : Memory) (a : Addr) : List UInt8 → Memory
  | [] => m
  | b :: bs => (m.set a b).setBytes (a + 1) bs

def setWord (m : Memory) (a : Addr) (w : Word) : Memory := m.setBytes a w.bytes

/-- Unmaps the bytes from `start` up to `stop`. -/
def without (m : Memory) (start stop : Addr) : Memory :=
  ⟨m.bytes.filter fun a _ => !(start ≤ a && a < stop)⟩

/-- The `n` bytes from `a` on, if all are mapped. -/
def getBytes? (m : Memory) (a : Addr) : Nat → Option (List UInt8)
  | 0 => some []
  | n + 1 => do return (← m.get? a) :: (← m.getBytes? (a + 1) n)

/-- The word at `a`, if all its bytes are mapped. -/
def getWord? (m : Memory) (a : Addr) : Option Word := (m.getBytes? a wordBytes).map Word.ofBytes

/-- Writes a word, if all its bytes are mapped. -/
def putWord? (m : Memory) (a : Addr) (w : Word) : Option Memory :=
  if (m.getBytes? a wordBytes).isSome then some (m.setWord a w) else none

/-- The bytes of `m` that `old` has not, by address. -/
def changesFrom (m old : Memory) : List (Addr × UInt8) :=
  m.bytes.toList.filter fun (a, b) => old.get? a ≠ some b

theorem get?_set (m : Memory) (a b : Addr) (v : UInt8) :
    (m.set a v).get? b = if a = b then some v else m.get? b := by
  simp [get?, set, Std.ExtTreeMap.getElem?_insert]

end Memory

end SourceDebugger
