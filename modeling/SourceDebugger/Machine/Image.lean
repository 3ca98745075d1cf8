/-
  Executables as the kernel loads them: what is mapped of the file, and the
  program as it stands before its first instruction.

  * `Image.load` reads an executable; a file that is none is refused with an
    error number;
  * `Image.start` maps an image and puts the arguments on the stack.  Where that
    fails the program that was there is gone already.

  Address spaces are not randomized, so each start is the same.
-/
import SourceDebugger.Bytes
import SourceDebugger.FileTree
import SourceDebugger.Machine.Thread

namespace SourceDebugger.Machine

/-- A part of an executable, as its header describes it. -/
structure Segment where
  type : Nat
  flags : Nat
  offset : Nat
  address : Nat
  fileSize : Nat
  memorySize : Nat
  alignment : Nat

structure Image where
  path : String
  bytes : Array UInt8
  /-- The segments that are loaded. -/
  segments : List Segment
  /-- The segments have no addresses of their own. -/
  isRelocatable : Bool
  /-- How far the segments are moved. -/
  bias : Nat
  entry : Nat
  /-- Instructions on the stack can be executed. -/
  hasExecutableStack : Bool

/-! ## The layout of an address space -/

/-- The end of the pages that the kernel uses for what has no address of its
    own. -/
def mappingTop : Nat := 0x7ffff7fff000

def stackTop : Nat := userTop

def stackBottom : Nat := 0x7ffffffde000

/-- The memory of the machine.  No area can be larger. -/
def largestArea : Nat := 32 * 2 ^ 30

namespace Segment

def isLoaded (s : Segment) : Bool := s.type = 1

/-- The segment names a program that has to load the executable. -/
def isInterpreter (s : Segment) : Bool := s.type = 3

/-- The segment says what the stack permits. -/
def isStack (s : Segment) : Bool := s.type = 0x6474e551

def permissions (s : Segment) : Permissions :=
  { read := s.flags.testBit 2, write := s.flags.testBit 1, execute := s.flags.testBit 0,
    isPrivate := true }

/-- What stands before the segment in its first page. -/
def pageOffset (s : Segment) : Nat := s.address % pageSize

/-- The end of the bytes that come from the file. -/
def fileEnd (s : Segment) : Nat := s.address + s.fileSize

/-- The start of the pages behind those of the file. -/
def behindFile (s : Segment) : Nat :=
  if s.fileSize = 0 then pageStart s.address else pageEnd s.fileEnd

/-- The end of the pages of the segment. -/
def pagesEnd (s : Segment) : Nat := pageEnd (s.address + s.memorySize)

/-- Maps a part of a file. -/
def mapFile (s : Segment) (image : Image) (space : AddressSpace) : Option AddressSpace :=
  let start := pageStart s.address + image.bias
  let stop := s.behindFile + image.bias
  if s.fileSize = 0 then some space
  else if s.offset < s.pageOffset ∨ (s.offset - s.pageOffset) % pageSize ≠ 0 ∨
      2 ^ 63 ≤ s.offset + s.fileSize ∨ userTop < stop then none
  else
    some (space.map {
      region :=
        { start := UInt64.ofNat start, stop := UInt64.ofNat stop, permissions := s.permissions
          offset := UInt64.ofNat (s.offset - s.pageOffset), path := some image.path }
      file := image.bytes })

/-- Fills the last page of the file with zeros, unless it cannot be written. -/
def clearTail (s : Segment) (image : Image) (space : AddressSpace) : Option AddressSpace :=
  if s.fileSize = 0 ∨ s.memorySize ≤ s.fileSize ∨ !s.permissions.write then some space
  else
    let start := s.fileEnd + image.bias
    (space.store (UInt64.ofNat start)
      (List.replicate (s.behindFile + image.bias - start) 0)).toOption

/-- Maps the pages of zeros behind those of the file. -/
def mapZeros (s : Segment) (image : Image) (space : AddressSpace) : Option AddressSpace :=
  let start := s.behindFile + image.bias
  let stop := s.pagesEnd + image.bias
  if s.memorySize ≤ s.fileSize ∨ stop ≤ start then some space
  else if largestArea < stop - start ∨ userTop < stop then none
  else
    some (space.map {
      region :=
        { start := UInt64.ofNat start, stop := UInt64.ofNat stop
          permissions := { s.permissions with read := true, write := true }
          offset := 0, path := none } })

/-- The size of the segment fits into its place. -/
def isSound (s : Segment) : Bool :=
  s.address < userTop && s.fileSize ≤ s.memorySize && s.memorySize ≤ userTop - s.address

/-- Maps a segment, in the place of what was there. -/
def place (s : Segment) (image : Image) (space : AddressSpace) : Option AddressSpace := do
  let space ← s.mapFile image space
  let space ← s.clearTail image space
  let space ← s.mapZeros image space
  if s.isSound then some space else none

end Segment

namespace Image

/-! ## Reading executables -/

/-- The fields of the file header that the kernel needs. -/
structure Header where
  isRelocatable : Bool
  entry : Nat
  tableOffset : Nat
  segmentSize : Nat
  segmentCount : Nat

def little (n : Nat) : Decoder Nat := .number .little n

def header : Decoder Header := do
  let magic ← .take 4
  if magic ≠ [0x7f, 0x45, 0x4c, 0x46] then .fail .badMagic
  .skip 12
  let type ← little 2
  let machine ← little 2
  if ¬ (type = 2 ∨ type = 3) ∨ machine ≠ 62 then .fail .badHeader
  .skip 4
  let entry ← little 8
  let tableOffset ← little 8
  .skip 14
  return { isRelocatable := type = 3, entry, tableOffset, segmentSize := ← little 2,
           segmentCount := ← little 2 }

def segment : Decoder Segment := do
  let type ← little 4
  let flags ← little 4
  let offset ← little 8
  let address ← little 8
  .skip 8
  return { type, flags, offset, address, fileSize := ← little 8, memorySize := ← little 8,
           alignment := ← little 8 }

/-- The size of a segment's description. -/
def segmentSize : Nat := 56

/-- The header and the segments of an executable. -/
def layout (bytes : List UInt8) : Except Malformed (Header × List Segment) := do
  let h ← Decoder.runAt bytes 0 header
  if h.segmentSize ≠ segmentSize ∨ h.segmentCount = 0 then .error .badHeader
  let segments ← (List.range h.segmentCount).mapM fun i =>
    Decoder.runAt bytes (h.tableOffset + i * segmentSize) segment
  return (h, segments)

/-- The largest alignment that is a power of two. -/
def alignmentOf (segments : List Segment) : Nat :=
  ((segments.map (·.alignment)).filter fun n => n ≠ 0 && 2 ^ n.log2 = n).foldl max pageSize

/-- How far the segments of an executable without fixed addresses are moved, so
    that they end below `mappingTop`. -/
def biasOf (segments : List Segment) : Nat :=
  let start := (segments.map fun s => pageStart s.address).foldl min (2 ^ 64)
  let stop := (segments.map fun s => s.pagesEnd).foldl max 0
  let first := (segments.head?.map fun s => pageStart s.address).getD 0
  let alignment := alignmentOf segments
  (mappingTop - (stop - start)) / alignment * alignment - first

def ofBytes (path : String) (bytes : List UInt8) : Except Errno Image :=
  match layout bytes with
  | .error _ => .error .enoexec
  | .ok (h, all) =>
    if all.any (·.isInterpreter) then .error .enoent
    else
      let segments := all.filter (·.isLoaded)
      let stack := (all.filter (·.isStack)).getLast?
      let bias := if h.isRelocatable then biasOf segments else 0
      .ok { path, bytes := bytes.toArray, segments, isRelocatable := h.isRelocatable, bias
            entry := h.entry + bias
            hasExecutableStack := (stack.map (·.permissions.execute)).getD false }

/-- The absolute path and the bytes of a file that may be executed. -/
def find (files : FileTree) (path : String) : Except Errno (String × List UInt8) :=
  match files.find path with
  | .error (.system e) => .error e
  | .error _ => .error .enoent
  | .ok (parts, .file bytes true) => .ok (FileTree.pathOf parts, bytes)
  | .ok _ => .error .eacces

/-- The executable at a path. -/
def load (files : FileTree) (path : String) : Except Errno Image := do
  let (path, bytes) ← find files path
  ofBytes path bytes

/-- The start of the memory behind the program that it can ask for. -/
def heapStart (image : Image) : Nat :=
  if image.isRelocatable then 0x555555555000
  else (image.segments.map (·.pagesEnd)).foldl max 0

/-! ## Starting programs -/

def stackArea (isExecutable : Bool) : Area where
  region :=
    { start := UInt64.ofNat stackBottom, stop := UInt64.ofNat stackTop
      permissions := ⟨true, true, isExecutable, true⟩, offset := 0, path := none }
  isStack := true

/-- The positions of texts that follow each other, each with a zero byte. -/
def positions (start : Nat) : List (List UInt8) → List Nat
  | [] => []
  | text :: texts => start :: positions (start + text.length + 1) texts

/-- The memory that the kernel shares with each program, for data and for code. -/
def kernelAreas (start : Nat) : List Area :=
  [(0, 6, ⟨true, false, false, true⟩), (6, 8, ⟨true, false, true, true⟩)].map
    fun (first, last, permissions) =>
      { region :=
          { start := UInt64.ofNat (start + first * pageSize)
            stop := UInt64.ofNat (start + last * pageSize), permissions, offset := 0
            path := none } }

/-- The address space of an image; none if a segment has no place. -/
def space? (image : Image) : Option AddressSpace := do
  let stack : AddressSpace := { areas := [stackArea image.hasExecutableStack] }
  let space ← image.segments.foldlM (fun space s => s.place image space) stack
  let start ← space.gap? (8 * pageSize) mappingTop
  let space := (kernelAreas start).foldl (fun space area => space.map area) space
  if image.entry < userTop then some space else none

/-- The program before its first instruction.  The stack holds the number of
    the arguments, their addresses, the end of that list, an empty environment
    and, at the top, the texts. -/
def start? (image : Image) (arguments : List (List UInt8)) : Option Thread := do
  let texts := arguments ++ [image.path.toUTF8.toList]
  let bytes := texts.flatMap (· ++ [0])
  let textStart := stackTop - wordBytes - bytes.length
  let words := [arguments.length] ++ (positions textStart texts).take arguments.length ++
    [0, 0, 0, 0]
  let top := (textStart - wordBytes * words.length) / 16 * 16
  let memory := (← image.space?).put (UInt64.ofNat textStart) bytes
  let memory := memory.put (UInt64.ofNat top)
    (words.flatMap fun w => Word.bytes (UInt64.ofNat w))
  let start : List (Register × UInt64) :=
    [(.rip, UInt64.ofNat image.entry), (.rsp, UInt64.ofNat top), (.cs, Thread.codeSegment),
     (.ss, Thread.stackSegment), (.eflags, Flag.interrupt.mask ||| Flag.always.mask)]
  return { registers := start.foldl (fun f (r, v) => f.set r v) .zero, memory }

end Image

end SourceDebugger.Machine
