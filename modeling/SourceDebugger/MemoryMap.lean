/-
  The layout of a process's address space: regions with permissions and, where
  a file backs them, its path.

  * `MemoryMap.loadAddress?` is where the loader put the executable: the start
    of the first region backed by it, otherwise of the first region at all;
  * `MemoryMap.regionOf?` finds the region of an address;
  * `MemoryMap.render` lists the regions, one in a line.
-/
import SourceDebugger.Address
import SourceDebugger.Text.Path

namespace SourceDebugger

structure Permissions where
  read : Bool := false
  write : Bool := false
  execute : Bool := false
  /-- Changes stay in the process; otherwise the region is shared. -/
  isPrivate : Bool := false
  deriving DecidableEq

structure MemoryRegion where
  start : Addr
  /-- exclusive -/
  stop : Addr
  permissions : Permissions
  /-- The position of the region in its file. -/
  offset : UInt64
  /-- The file behind the region, `none` for anonymous memory. -/
  path : Option String
  deriving DecidableEq

structure MemoryMap where
  regions : List MemoryRegion := []
  deriving DecidableEq

/-- The permissions whose letters occur at their positions in `flags`, as the
    kernel writes them. -/
def Permissions.ofFlags (flags : String) : Permissions :=
  let cs := flags.toList
  { read := cs[0]? == some 'r', write := cs[1]? == some 'w', execute := cs[2]? == some 'x',
    isPrivate := cs[3]? == some 'p' }

def Permissions.render (p : Permissions) : String :=
  (if p.read then "r" else "-") ++ (if p.write then "w" else "-") ++
    (if p.execute then "x" else "-") ++ (if p.isPrivate then "p" else "s")

namespace MemoryRegion

def size (r : MemoryRegion) : UInt64 := r.stop - r.start

def contains (r : MemoryRegion) (a : Addr) : Bool := r.start ≤ a && a < r.stop

def render (r : MemoryRegion) : String :=
  Numeral.paddedHex 16 r.start.toNat ++ "-" ++ Numeral.paddedHex 16 r.stop.toNat ++ " " ++
    r.permissions.render ++ " " ++ Numeral.paddedHex 8 r.offset.toNat ++ " " ++
    r.path.getD "[anonymous]" ++ "\n"

end MemoryRegion

namespace MemoryMap

/-- Where the loader put `executable`. -/
def loadAddress? (m : MemoryMap) (executable : Option String) : Option Addr :=
  let backed := executable.bind fun exe =>
    m.regions.find? fun r => r.path.any (Path.same · exe)
  (backed.or m.regions.head?).map (·.start)

def regionOf? (m : MemoryMap) (a : Addr) : Option MemoryRegion :=
  m.regions.find? (·.contains a)

def render (m : MemoryMap) : String := String.join (m.regions.map MemoryRegion.render)

end MemoryMap

end SourceDebugger
