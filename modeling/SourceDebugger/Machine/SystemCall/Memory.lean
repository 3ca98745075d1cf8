/-
  Requests of a process that concern its memory.

  * `Call.onMemory?` is the request with a number.
-/
import SourceDebugger.Machine.Child

namespace SourceDebugger.Machine.Call

/-- Changes the address space. -/
def changeSpace (f : AddressSpace → AddressSpace) : Call Unit :=
  modify fun p => { p with thread := { p.thread with memory := f p.thread.memory } }

def space : Call AddressSpace := inspect (·.thread.memory)

/-- The number of bytes in whole pages; none if that is too large. -/
def pages? (size : UInt64) : Option Nat :=
  if pageEnd size.toNat < 2 ^ 64 then some (pageEnd size.toNat) else none

def isAligned (a : Addr) : Bool := a.toNat % pageSize = 0

/-- Permissions by the bits of an argument. -/
def permissionsOf (bits : Nat) (isPrivate : Bool) : Permissions :=
  { read := bits.testBit 0, write := bits.testBit 1, execute := bits.testBit 2, isPrivate }

/-! ## Mapping -/

/-- The size of large pages. -/
def largePage : Nat := 2 ^ 21

/-- The lowest address that is given without being asked for. -/
def lowestAddress : Nat := 0x10000

/-- The address that new memory gets, below `top` if none is asked for.  Memory of large
    pages is aligned to them. -/
def placeFor (space : AddressSpace) (top hint size : Nat) : Option Nat :=
  let hint := max (pageStart hint) (if hint = 0 then 0 else lowestAddress)
  if hint ≠ 0 ∧ hint + size ≤ userTop - pageSize ∧ space.isFree hint (hint + size) then some hint
  else if size % largePage = 0 then
    (space.gap? (size + largePage) top).map fun start => (start / largePage + 1) * largePage
  else space.gap? size top

/-- Asks for new memory, below `top` if no address is given. -/
def mapBelow (top : Nat) (hint size permissions flags : UInt64) (fd : Int) (offset : UInt64) : Call Int := do
  let flags := flags.toNat
  let isAnonymous := flags.testBit 5
  let kind := flags % 16
  ensure (isAligned offset) .einval
  if !isAnonymous && ((← inspect (·.descriptors)).stream? fd).isNone then throw .ebadf
  ensure (size ≠ 0) .einval
  let some size := pages? size | throw .enomem
  ensure (size ≤ userTop) .enomem
  ensure (kind = 1 || kind = 2) .einval
  ensure isAnonymous .enodev
  ensure (size < largestArea) .enomem
  let isFixed := flags.testBit 4 || flags.testBit 20
  let start ←
    if isFixed then do
      ensure (hint.toNat + size ≤ userTop) .enomem
      ensure (isAligned hint) .einval
      let isFree := (← space).isFree hint.toNat (hint.toNat + size)
      ensure (isFree || !flags.testBit 20) .eexist
      pure hint.toNat
    else
      match placeFor (← space) top hint.toNat size with
      | some start => pure start
      | none => throw .enomem
  changeSpace fun space => space.map {
    region :=
      { start := UInt64.ofNat start, stop := UInt64.ofNat (start + size)
        permissions := permissionsOf permissions.toNat (kind = 2), offset := 0, path := none }
    isShared := kind = 1 }
  return start

/-- The end of the addresses that are given to programs of 32 bits. -/
def shortMappingTop : Nat := 0xf7ffe000

/-- Asks for new memory as programs of 32 bits do. -/
def mapShort (hint size permissions flags : UInt64) (fd : Int) (offset : UInt64) : Call Int :=
  mapBelow shortMappingTop hint size permissions flags fd offset

/-- Gives memory back. -/
def unmap (a size : UInt64) : Call Int := do
  ensure (isAligned a && size ≠ 0 && a.toNat + size.toNat ≤ userTop) .einval
  changeSpace (·.unmap a.toNat (pageEnd (a.toNat + size.toNat)))
  return 0

/-- The end of the memory that is mapped from an address on. -/
def coveredUpTo (space : AddressSpace) (start : Nat) : Nat :=
  space.areas.foldl (fun a area => if area.start ≤ a && a < area.stop then area.stop else a) start

/-- Changes what is permitted.  Where no memory is, the change ends. -/
def protect (a size permissions : UInt64) : Call Int := do
  ensure (isAligned a) .einval
  if size = 0 then return 0
  let some size := pages? size | throw .enomem
  ensure (permissions < 16) .einval
  let stop := a.toNat + size
  let covered := min stop (coveredUpTo (← space) a.toNat)
  changeSpace (·.protect a.toNat covered (permissionsOf permissions.toNat true))
  ensure (covered = stop) .enomem
  return 0

/-- Moves the end of the memory behind the program, if that can be; the answer is
    where it ends then. -/
def moveHeap (a : UInt64) : Call Int := do
  let start ← inspect (·.heapStart)
  let stop ← inspect (·.heapStop)
  let (old, new) := (pageEnd stop, pageEnd a.toNat)
  if a.toNat < start then return stop
  if new ≤ old then
    changeSpace (·.unmap new old)
  else
    if largestArea ≤ new - start ∨ !(← space).isFree old (new + pageSize) then return stop
    changeSpace fun space => space.map {
      region :=
        { start := UInt64.ofNat old, stop := UInt64.ofNat new
          permissions := permissionsOf 3 true, offset := 0, path := none } }
  modify ({ · with heapStop := a.toNat })
  return a.toNat

/-- Advice on memory, which changes nothing but that it may be dropped. -/
def advise (a size : UInt64) (advice : Int) : Call Int := do
  ensure (isAligned a && 0 ≤ advice && advice ≤ 25) .einval
  let some size := pages? size | throw .einval
  ensure ((← space).covers a.toNat (a.toNat + size)) .enomem
  if advice = 4 then
    changeSpace fun space =>
      { space with written := space.written.without a (a + UInt64.ofNat size) }
  return 0

/-! ## Moving -/

/-- Moves the bytes of an area. -/
def moveBytes (space : AddressSpace) (start size target : Nat) : AddressSpace :=
  let bytes := (List.range size).filterMap fun i =>
    (space.written.get? (UInt64.ofNat (start + i))).map (i, ·)
  bytes.foldl (fun space (i, b) => space.put (UInt64.ofNat (target + i)) [b]) space

/-- Gives an area another size, perhaps at another place. -/
def remap (a oldSize newSize flags target : UInt64) : Call Int := do
  let mayMove := flags.toNat.testBit 0
  let isFixed := flags.toNat.testBit 1
  ensure (flags < 4 && (mayMove || !isFixed) && isAligned a) .einval
  let (some oldSize, some newSize) := (pages? oldSize, pages? newSize) | throw .einval
  ensure (newSize ≠ 0) .einval
  let start := a.toNat
  if isFixed then
    ensure (isAligned target && target.toNat + newSize ≤ userTop &&
      (target.toNat + newSize ≤ start || start + oldSize ≤ target.toNat)) .einval
  let some area := (← space).area? a | throw .efault
  ensure (oldSize ≠ 0) .einval
  if newSize ≤ oldSize && !isFixed then
    changeSpace (·.unmap (start + newSize) (start + oldSize))
    return start
  ensure (start + oldSize ≤ area.stop) .efault
  let isFree := (← space).isFree (start + oldSize) (start + newSize)
  if area.stop = start + oldSize && isFree && start + newSize ≤ userTop && !isFixed then
    let stop := start + oldSize
    changeSpace fun space => space.map (resized area stop stop (newSize - oldSize))
    return start
  ensure mayMove .enomem
  let found := placeFor (← space) mappingTop 0 newSize
  let some place := if isFixed then some target.toNat else found | throw .enomem
  changeSpace fun space =>
    let moved := (space.unmap place (place + newSize)).map (resized area start place newSize)
    (moveBytes moved start (min oldSize newSize) place).unmap start (start + oldSize)
  return place
where
  /-- The part of an area from `start` on, at a place, with a size. -/
  resized (area : Area) (start place size : Nat) : Area :=
    let offset := if area.region.path.isNone then 0 else area.position start
    { area with region :=
      { area.region with
        start := UInt64.ofNat place, stop := UInt64.ofNat (place + size)
        offset := UInt64.ofNat offset } }

/-! ## Pages -/

/-- Whether all pages that some addresses touch are there. -/
def touches (a size : UInt64) : Call Bool := do
  let start := pageStart a.toNat
  let stop := pageEnd (a.toNat + size.toNat)
  return stop < 2 ^ 64 && (← space).covers start stop

/-- Keeps pages in memory, or lets them go, which changes nothing. -/
def keepPages (a size : UInt64) : Call Int := do
  ensure (a.toNat + size.toNat < 2 ^ 64) .einval
  ensure (← touches a size) .enomem
  return 0

/-- Writes what has changed to the files behind the memory. -/
def synchronize (a size : UInt64) (flags : Int) : Call Int := do
  ensure (0 ≤ flags && flags < 8 && flags % 8 ≠ 5 && flags % 8 ≠ 7 && isAligned a) .einval
  let some size := pages? size | throw .enomem
  ensure (a.toNat + size < 2 ^ 64) .enomem
  if size = 0 then return 0
  ensure ((← space).covers a.toNat (a.toNat + size)) .enomem
  return 0

/-- Tells which pages are in memory. -/
def residency (a size vector : UInt64) : Call Int := do
  ensure (isAligned a) .einval
  ensure (a.toNat + size.toNat ≤ userTop) .enomem
  let count := (size.toNat + pageSize - 1) / pageSize
  ensure ((← space).covers a.toNat (a.toNat + count * pageSize)) .enomem
  let now ← space
  let isThere (i : Nat) : UInt8 :=
    let start := a.toNat + i * pageSize
    let hasFile := ((now.area? (UInt64.ofNat start)).map (·.region.path.isSome)).getD false
    let isWritten := (List.range pageSize).any fun j =>
      (now.written.get? (UInt64.ofNat (start + j))).isSome
    if hasFile || isWritten then 1 else 0
  store vector ((List.range count).map isThere)
  return 0

/-! ## All requests -/

/-- The request on memory with a number. -/
def onMemory? (number : Nat) (x : Arguments) : Option (Call Int) :=
  match number with
  | 9 => some (mapBelow mappingTop x.a x.b x.c x.d x.e32 x.f)
  | 10 => some (protect x.a x.b x.c)
  | 11 => some (unmap x.a x.b)
  | 12 => some (moveHeap x.a)
  | 25 => some (remap x.a x.b x.c x.d x.e)
  | 26 => some (synchronize x.a x.b x.c32)
  | 27 => some (residency x.a x.b x.c)
  | 28 => some (advise x.a x.b x.c32)
  | 149 | 150 => some (keepPages x.a x.b)
  | 325 => some do
    ensure (x.c < 2) .einval
    keepPages x.a x.b
  | 151 => some do
    ensure (0 < x.a && x.a < 8 && x.a ≠ 4) .einval
    return 0
  | 152 => some (return 0)
  | _ => none

end SourceDebugger.Machine.Call
