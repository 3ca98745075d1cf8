/-
  The address space of a process: areas of whole pages with permissions, backed
  by a file or by zeros, and the bytes written since.

  * `AddressSpace.byte?` is the byte at a mapped address, whatever is permitted
    there: so a debugger sees the memory;
  * `AddressSpace.load` and `AddressSpace.store` are accesses of the process
    itself, which fault where an area does not permit them;
  * `AddressSpace.map`, `AddressSpace.unmap` and `AddressSpace.protect` change
    areas, `AddressSpace.grow` extends the stack to an address below it.

  The areas are ordered by address, and neighbours that agree are one area.
-/
import SourceDebugger.Machine.Fault
import SourceDebugger.MemoryMap
import SourceDebugger.Simulation.Memory

namespace SourceDebugger.Machine

/-- The size of a page. -/
def pageSize : Nat := 4096

/-- The start of the page of an address. -/
def pageStart (a : Nat) : Nat := a / pageSize * pageSize

/-- The first start of a page that is not below an address. -/
def pageEnd (a : Nat) : Nat := pageStart (a + pageSize - 1)

/-- The end of the addresses that a process may use. -/
def userTop : Nat := 0x7ffffffff000

inductive Access where
  | read
  | write
  | execute
  deriving DecidableEq

/-! ## Areas -/

/-- A part of the address space. -/
structure Area where
  region : MemoryRegion
  /-- The bytes of the file behind the area. -/
  file : Array UInt8 := #[]
  /-- The area is the stack, which grows to lower addresses. -/
  isStack : Bool := false
  /-- A fork has the same memory, not a copy of it. -/
  isShared : Bool := false

namespace Area

def start (area : Area) : Nat := area.region.start.toNat

def stop (area : Area) : Nat := area.region.stop.toNat

def contains (area : Area) (a : Addr) : Bool := area.region.contains a

/-- The position in the file of an address. -/
def position (area : Area) (a : Nat) : Nat := area.region.offset.toNat + (a - area.start)

/-- The byte at an address of the area to begin with.  Pages behind the end of a
    file have none. -/
def initial? (area : Area) (a : Addr) : Option UInt8 :=
  if area.region.path.isNone then some 0
  else
    let position := area.position a.toNat
    if pageStart position < area.file.size then some (area.file.getD position 0) else none

/-- Memory that can be written or executed can be read, too. -/
def permits (area : Area) : Access → Bool
  | .read =>
    area.region.permissions.read || area.region.permissions.write ||
      area.region.permissions.execute
  | .write => area.region.permissions.write
  | .execute => area.region.permissions.execute

/-- The part of an area between two addresses; none if it is empty. -/
def part? (area : Area) (start stop : Nat) : Option Area :=
  let start := max start area.start
  let stop := min stop area.stop
  if start < stop then
    let offset := if area.region.path.isNone then 0 else area.position start
    some { area with region :=
      { area.region with
        start := UInt64.ofNat start, stop := UInt64.ofNat stop,
        offset := UInt64.ofNat offset } }
  else none

/-- The area that two neighbours form, if they agree. -/
def joined? (a b : Area) : Option Area :=
  let follows := a.region.path.isNone || a.position a.stop = b.region.offset.toNat
  if a.region.stop = b.region.start ∧ a.region.permissions = b.region.permissions ∧
      a.region.path = b.region.path ∧ a.isStack = b.isStack ∧ a.isShared = b.isShared ∧
      !a.isStack ∧ follows then
    some { a with region := { a.region with stop := b.region.stop } }
  else none

/-- Adds an area in front of others, of which the first may be its neighbour. -/
def cons (area : Area) : List Area → List Area
  | [] => [area]
  | next :: rest =>
    match area.joined? next with
    | some both => both :: rest
    | none => area :: next :: rest

end Area

structure AddressSpace where
  areas : List Area := []
  written : Memory := {}

namespace AddressSpace

variable (space : AddressSpace)

def area? (a : Addr) : Option Area := space.areas.find? (·.contains a)

/-- The byte at a mapped address. -/
def byte? (a : Addr) : Option UInt8 := do
  let area ← space.area? a
  let initial ← area.initial? a
  return (space.written.get? a).getD initial

/-- The `n` bytes from `a` on, if all are mapped. -/
def bytes? (a : Addr) : Nat → Option (List UInt8)
  | 0 => some []
  | n + 1 => do return (← space.byte? a) :: (← bytes? (a + 1) n)

def word? (a : Addr) : Option Word := (space.bytes? a wordBytes).map Word.ofBytes

/-- Replaces the bytes from `a` on. -/
def put (a : Addr) (bs : List UInt8) : AddressSpace :=
  { space with written := space.written.setBytes a bs }

/-! ## Changes of areas -/

/-- Areas in the order of their addresses, neighbours joined. -/
def arrange (areas : List Area) : List Area :=
  (areas.mergeSort fun a b => a.start ≤ b.start).foldr Area.cons []

/-- Removes what is mapped between two addresses. -/
def unmap (start stop : Nat) : AddressSpace where
  areas := space.areas.flatMap fun area =>
    (area.part? 0 start).toList ++ (area.part? stop (2 ^ 64)).toList
  written := space.written.without (UInt64.ofNat start) (UInt64.ofNat stop)

/-- Maps an area, in the place of what was there. -/
def map (area : Area) : AddressSpace :=
  if area.start < area.stop then
    let rest := space.unmap area.start area.stop
    { rest with areas := arrange (area :: rest.areas) }
  else space

/-- Whether all addresses between two are mapped. -/
def covers (start stop : Nat) : Bool :=
  let size := (space.areas.map fun area => min stop area.stop - max start area.start).sum
  size = stop - start

/-- Whether no address between two is mapped. -/
def isFree (start stop : Nat) : Bool :=
  space.areas.all fun area => area.stop ≤ start || stop ≤ area.start

/-- Changes the permissions between two addresses. -/
def protect (start stop : Nat) (permissions : Permissions) : AddressSpace :=
  { space with areas := arrange (space.areas.flatMap fun area =>
      (area.part? 0 start).toList ++
      ((area.part? start stop).map fun area =>
        { area with region := { area.region with
            permissions := { permissions with isPrivate := area.region.permissions.isPrivate } } }
        ).toList ++
      (area.part? stop (2 ^ 64)).toList) }

/-- The highest free addresses below `top` for `size` bytes. -/
def gap? (size top : Nat) : Option Nat :=
  let tops := top :: (space.areas.map (·.start)).filter (· ≤ top)
  let starts := (tops.filter (size ≤ ·)).map (· - size)
  (starts.filter fun start => space.isFree start (start + size)).max?

/-- The largest size of the stack. -/
def stackLimit : Nat := 8 * 1024 * 1024

/-- Pages below the stack that stay free of other areas. -/
def stackGuard : Nat := 256 * pageSize

/-- Extends the stack to an address below it. -/
def grow (a : Addr) : AddressSpace :=
  let start := pageStart a.toNat
  match space.areas.find? fun area => area.isStack && a.toNat < area.start with
  | some area =>
    if (space.area? a).isNone ∧ area.stop - start ≤ stackLimit ∧
        space.isFree (start - stackGuard) area.start then
      { space with areas := space.areas.map fun b =>
          if b.isStack ∧ b.start = area.start then
            { b with region := { b.region with start := UInt64.ofNat start } }
          else b }
    else space
  | none => space

/-! ## Accesses of the process -/

/-- The upper half of the addresses has as its highest bits copies of bit 47,
    and so has the lower half. -/
def isCanonical (a : Addr) : Bool :=
  a < 0x800000000000 || 0xffff800000000000 ≤ a

/-- Whether an access to a byte is permitted. -/
def check (access : Access) (a : Addr) : Except Fault Unit :=
  match space.area? a with
  | some area =>
    if !area.permits access then .error .forbidden
    else if (area.initial? a).isNone then .error .beyondFile
    else .ok ()
  | none => .error (if isCanonical a then .unmapped else .protection)

/-- Whether an access to each of `n` bytes is permitted. -/
def checkAll (access : Access) (a : Addr) : Nat → Except Fault Unit
  | 0 => .ok ()
  | n + 1 => do
    space.check access a
    checkAll access (a + 1) n

/-- The `n` bytes from `a` on. -/
def load (access : Access) (a : Addr) (n : Nat) : Except Fault (List UInt8) := do
  space.checkAll access a n
  match space.bytes? a n with
  | some bs => .ok bs
  | none => .error .unmapped

/-- Writes bytes, all of them or none. -/
def store (a : Addr) (bs : List UInt8) : Except Fault AddressSpace := do
  space.checkAll .write a bs.length
  return space.put a bs

/-- The byte of an area at an address, if the process can access it. -/
def accessed? (access : Access) (area : Area) (a : Addr) : Option UInt8 :=
  if area.permits access then (area.initial? a).map fun b => (space.written.get? a).getD b
  else none

/-- The bytes from `a` on that the process can access, at most `n`; the first of them
    may be in the area `near`. -/
def accessibleNear (access : Access) (near : Option Area) (a : Addr) : Nat → List UInt8
  | 0 => []
  | n + 1 =>
    let area := (near.filter (·.contains a)) <|> (space.grow a).area? a
    match area.bind (space.accessed? access · a) with
    | some b => b :: accessibleNear access area (a + 1) n
    | none => []

/-- The bytes from `a` on that the process can access, at most `n`. -/
def accessible (access : Access) (a : Addr) (n : Nat) : List UInt8 :=
  space.accessibleNear access none a n

/-- The bytes from `a` on up to a zero byte, at most `n`. -/
def text? (a : Addr) (n : Nat) : Option (List UInt8) :=
  let bs := space.accessible .read a n
  if bs.contains 0 then some (bs.takeWhile (· ≠ 0)) else none

end AddressSpace

end SourceDebugger.Machine
