/-
  Requests of a process that concern its streams.

  * `Call.read` and `Call.write` move bytes;
  * `Call.tellNode` says what something is;
  * `Call.onStreams?` is the request with a number.
-/
import SourceDebugger.Machine.SystemCall.Memory
import SourceDebugger.Machine.SystemCall.Time

namespace SourceDebugger.Machine.Call

def streamOf (fd : Int) : Call Stream := do
  match (← inspect (·.descriptors)).stream? fd with
  | some s => return s
  | none => throw .ebadf

def changeDescriptors (f : Descriptors → Descriptors) : Call Unit :=
  modify fun p => { p with descriptors := f p.descriptors }

/-- A buffer has to lie where processes have memory, whether or not there is
    some. -/
def ensureBuffer (a size : UInt64) : Call Unit := do
  ensure (a.toNat + size.toNat ≤ userTop) .efault

/-- The bytes of a buffer, in pieces of a page.  Those before the first piece that
    cannot be read count. -/
def loadPieces (a : Addr) (size : Nat) : Nat → Call (List UInt8)
  | 0 => return []
  | pieces + 1 => do
    let n := min size pageSize
    if n = 0 then return []
    match (← inspect (·.thread.memory.grow a)).load .read a n with
    | .error _ => return []
    | .ok bs => return bs ++ (← loadPieces (a + UInt64.ofNat n) (size - n) pieces)

/-! ## Moving bytes -/

/-- The node behind an opened file. -/
def nodeOf (file : OpenFile) : Call FileNode := do
  match (← inspect (·.files)).node? file.parts with
  | some node => return node
  | none => throw .enoent

/-- Changes a file that was opened. -/
def changeOpen (n : Nat) (f : OpenFile → OpenFile) : Call Unit :=
  changeDescriptors fun d => { d with files := d.files.modify n f }

/-- Bytes with some of them replaced from a position on. -/
def overwrite (old new : List UInt8) (position : Nat) : List UInt8 :=
  old.take position ++ List.replicate (position - old.length) 0 ++ new ++
    old.drop (position + new.length)

/-- Writes bytes into a file at a position, or at its end. -/
def putFile (file : OpenFile) (position : Nat) (bs : List UInt8) : Call Nat := do
  match ← nodeOf file with
  | .file old isExecutable =>
    let position := if file.appends then old.length else position
    modify fun p => { p with
      files := p.files.add file.parts (.file (overwrite old bs position) isExecutable) }
    return position + bs.length
  | _ => return position

/-- Writes to a stream. -/
def put (stream : Stream) (bs : List UInt8) : Call Unit := do
  match stream with
  | .output n => modify fun p => { p with output := p.output ++ [(n, bs)] }
  | .writer pipe =>
    if !(← inspect (·.descriptors)).isRead pipe then
      modify fun p => { p with signals := p.signals.send ⟨⟨13⟩, 0, true⟩ }
      throw .epipe
    changeDescriptors fun d => { d with pipes := d.pipes.modify pipe (· ++ bs) }
  | .file n =>
    let some file := (← inspect (·.descriptors)).file? stream | throw .ebadf
    let position ← putFile file file.position bs
    changeOpen n ({ · with position })
  | _ => throw .ebadf

/-- Whether a stream can be read, and whether it can be written. -/
def waysOf (stream : Stream) : Call (Bool × Bool) := do
  match stream with
  | .output _ | .writer _ => return (false, true)
  | .nothing | .reader _ => return (true, false)
  | .special => return (true, true)
  | .file _ =>
    match (← inspect (·.descriptors)).file? stream with
    | some file => return (file.canRead, file.canWrite)
    | none => return (false, false)

def canRead (stream : Stream) : Call Bool := do return (← waysOf stream).1

def canWrite (stream : Stream) : Call Bool := do return (← waysOf stream).2

/-- The most that is read or written at once. -/
def mostBytes : Nat := 0x7ffff000

/-- The bytes that a stream would give, at most `n`, from a position of a file. -/
def peek (stream : Stream) (position n : Nat) : Call (List UInt8) := do
  let d ← inspect (·.descriptors)
  match stream with
  | .reader pipe => return (d.pipes.getD pipe []).take n
  | .file _ =>
    let some file := d.file? stream | throw .ebadf
    match ← nodeOf file with
    | .file bytes _ => return (bytes.drop position).take n
    | .directory => throw .eisdir
    | .device => return []
  | .special => throw .einval
  | _ => return []

/-- The position of a stream. -/
def positionOf (stream : Stream) : Call Nat := do
  return (((← inspect (·.descriptors)).file? stream).map (·.position)).getD 0

/-- The stream has given some bytes. -/
def advance (stream : Stream) (n : Nat) : Call Unit := do
  match stream with
  | .reader pipe => changeDescriptors fun d => { d with pipes := d.pipes.modify pipe (·.drop n) }
  | .file i => changeOpen i fun f => { f with position := f.position + n }
  | _ => pure ()

/-- The bytes that a process wants to write.  If it wants to write some, some can
    be read. -/
def loadWritten (a size : UInt64) : Call (List UInt8) := do
  ensureBuffer a size
  let count := min size.toNat mostBytes
  let bs ← loadPieces a count (count / pageSize + 1)
  ensure (!bs.isEmpty || count = 0) .efault
  return bs

def write (fd : Int) (a size : UInt64) : Call Int := do
  let stream ← streamOf fd
  ensure (← canWrite stream) .ebadf
  ensure (stream ≠ .special) .einval
  let bs ← loadWritten a size
  if !bs.isEmpty then put stream bs
  return bs.length

def read (fd : Int) (a size : UInt64) : Call Int := do
  let stream ← streamOf fd
  ensure (← canRead stream) .ebadf
  ensureBuffer a size
  let found ← peek stream (← positionOf stream) (min size.toNat mostBytes)
  store a found
  advance stream found.length
  return found.length

/-! ## At a position -/

/-- The file that is accessed at a position of its own. -/
def seekable (fd : Int) (position : UInt64) : Call (Stream × OpenFile) := do
  ensure (position < 2 ^ (63 : Nat)) .einval
  let stream ← streamOf fd
  match (← inspect (·.descriptors)).file? stream with
  | some file => return (stream, file)
  | none => throw .espipe

def readAt (fd : Int) (a size position : UInt64) : Call Int := do
  let (stream, file) ← seekable fd position
  ensure file.canRead .ebadf
  ensureBuffer a size
  let found ← peek stream position.toNat (min size.toNat mostBytes)
  store a found
  return found.length

def writeAt (fd : Int) (a size position : UInt64) : Call Int := do
  let (_, file) ← seekable fd position
  ensure file.canWrite .ebadf
  let bs ← loadWritten a size
  let _ ← putFile file position.toNat bs
  return bs.length

/-- The number of bytes of a file. -/
def sizeOf (file : OpenFile) : Call Nat := do
  match ← nodeOf file with
  | .file bytes _ => return bytes.length
  | _ => return 0

/-- Moves the position of a file. -/
def seek (fd : Int) (offset : UInt64) (origin : Int) : Call Int := do
  let stream ← streamOf fd
  ensure (0 ≤ origin && origin < 5) .einval
  let some file := (← inspect (·.descriptors)).file? stream | throw .espipe
  if (← nodeOf file) = .device then return 0
  let size ← sizeOf file
  let offset := Width.quad.signed offset.toNat
  let position : Int ← match origin with
    | 0 => pure offset
    | 1 => pure (file.position + offset)
    | 2 => pure (size + offset)
    | _ => do
      ensure (0 ≤ offset && offset < size) ⟨6⟩
      pure (if origin = 3 then offset else size)
  ensure (0 ≤ position) .einval
  match stream with
  | .file n => changeOpen n ({ · with position := position.toNat })
  | _ => pure ()
  return position

/-! ## Tables of pieces -/

/-- The pieces that a table in memory names: their addresses and sizes. -/
def loadTable (a : Addr) : Nat → Call (List (UInt64 × UInt64))
  | 0 => return []
  | n + 1 => do
    let start ← loadNumber a 8
    let size ← loadNumber (a + 8) 8
    return (UInt64.ofNat start, UInt64.ofNat size) :: (← loadTable (a + 16) n)

/-- The pieces of a table, all of which lie where processes have memory. -/
def loadPieceTable (table : Addr) (count : UInt64) : Call (List (UInt64 × UInt64)) := do
  ensure (count ≤ 1024) .einval
  let pieces ← loadTable table count.toNat
  for (a, size) in pieces do
    ensure (size.toNat < 2 ^ 63) .einval
    ensureBuffer a size
  return pieces

/-- Writes pieces of memory, up to the first that cannot be read. -/
def writePieces (fd : Int) (table : Addr) (count : UInt64) : Call Int := do
  let stream ← streamOf fd
  ensure (← canWrite stream) .ebadf
  let pieces ← loadPieceTable table count
  let bytes ← pieces.mapM fun (a, size) => do
    return (← loadPieces a size.toNat (size.toNat / pageSize + 1), size.toNat)
  let full := bytes.takeWhile fun (bs, size) => bs.length = size
  let next := (bytes.drop full.length).head?.map (·.1)
  let found := (full.map (·.1)).flatten ++ next.getD []
  ensure (!found.isEmpty || pieces.all fun (_, size) => size = 0) .efault
  if !found.isEmpty then put stream found
  return found.length

/-- Stores bytes into pieces of memory. -/
def storePieces (bs : List UInt8) : List (UInt64 × UInt64) → Call Unit
  | [] => pure ()
  | (a, size) :: pieces => do
    store a (bs.take size.toNat)
    storePieces (bs.drop size.toNat) pieces

/-- Reads into pieces of memory. -/
def readPieces (fd : Int) (table : Addr) (count : UInt64) : Call Int := do
  let stream ← streamOf fd
  ensure (← canRead stream) .ebadf
  let pieces ← loadPieceTable table count
  let size := (pieces.map (·.2.toNat)).sum
  let found ← peek stream (← positionOf stream) (min size mostBytes)
  storePieces found pieces
  advance stream found.length
  return found.length

/-! ## Descriptors -/

def close (fd : Int) : Call Int := do
  let _ ← streamOf fd
  changeDescriptors (·.close fd.toNat)
  return 0

/-- Closes some numbers, or lets them be closed by the next program. -/
def closeAll (first last : UInt64) (flags : UInt64) : Call Int := do
  let (first, last) := (first.toNat % 2 ^ 32, last.toNat % 2 ^ 32)
  ensure (first ≤ last && (flags = 0 || flags = 2 || flags = 4 || flags = 6)) .einval
  let numbers := (← inspect (·.descriptors.streams)).map (·.1)
  let chosen := numbers.filter fun n => first ≤ n && n ≤ last
  changeDescriptors fun d => chosen.foldl (fun d n =>
    if flags.toNat.testBit 2 then d.setClosing n true else d.close n) d
  return 0

/-- Gives a stream a further number, the lowest one from `low` on. -/
def duplicate (fd low : Int) (isClosing : Bool) : Call Int := do
  let stream ← streamOf fd
  ensure (0 ≤ low && low < Descriptors.limit) .einval
  match (← inspect (·.descriptors)).free? low.toNat with
  | some n => do
    changeDescriptors fun d => (d.insertAt n stream).setClosing n isClosing
    return n
  | none => throw .emfile

/-- The flag that lets the next program close a number. -/
def closingFlag : Int := 0x80000

/-- Gives a stream a certain further number. -/
def duplicateTo (fd target : Int) : Call Int := do
  let stream ← streamOf fd
  ensure (0 ≤ target && target < Descriptors.limit) .ebadf
  if fd ≠ target then changeDescriptors (·.insertAt target.toNat stream)
  return target

/-- Gives a stream another number. -/
def duplicateOther (fd target flags : Int) : Call Int := do
  ensure (flags = 0 || flags = closingFlag) .einval
  ensure (fd ≠ target) .einval
  ensure (0 ≤ target && target < Descriptors.limit) .ebadf
  let _ ← duplicateTo fd target
  changeDescriptors (·.setClosing target.toNat (flags ≠ 0))
  return target

/-- Opens something that has no bytes. -/
def openSpecial (isClosing : Bool) : Call Int := do
  let (n, d) ← liftM ((← inspect (·.descriptors)).insert .special)
  changeDescriptors fun _ => d.setClosing n isClosing
  return n

/-- Opens such a thing with some flags that it knows. -/
def openSpecialWith (flags : Int) (known : Nat) : Call Int := do
  ensure (0 ≤ flags && flags.toNat &&& known = flags.toNat) .einval
  openSpecial (flags.toNat.testBit 19)

/-- Makes a pipe, and writes the numbers of its ends. -/
def pipe (a : Addr) (flags : Int) : Call Int := do
  ensure (0 ≤ flags && flags.toNat &&& 0x84880 = flags.toNat) .einval
  let d ← inspect (·.descriptors)
  let number := d.pipes.length
  let (reader, d) ← liftM (d.insert (.reader number))
  let (writer, d) ← liftM (d.insert (.writer number))
  store a (littleBytes 4 reader ++ littleBytes 4 writer)
  let isClosing := flags.toNat.testBit 19
  changeDescriptors fun _ => ({ d with pipes := d.pipes ++ [[]] }.setClosing reader isClosing).setClosing
    writer isClosing
  return 0

/-! ## Streams as such -/

/-- The number of bytes of a pipe. -/
def pipeSize : Nat := 65536

/-- The flags of a stream. -/
def flagsOf (stream : Stream) : Call Nat := do
  match stream with
  | .output _ | .writer _ => return 1
  | .nothing | .reader _ => return 0
  | .special => return 2
  | .file _ =>
    let file := (← inspect (·.descriptors)).file? stream
    return (file.map fun f => f.flags - (f.flags &&& 0x803c0) + 0x8000).getD 0

/-- Requests on a number for a stream. -/
def control (fd command : Int) (argument : UInt64) : Call Int := do
  let stream ← streamOf fd
  let isPipe := match stream with
    | .output _ | .reader _ | .writer _ => true
    | _ => false
  match command with
  | 0 => duplicate fd (int argument) false
  | 1030 => duplicate fd (int argument) true
  | 1 => return if (← inspect (·.descriptors.closing)).contains fd.toNat then 1 else 0
  | 2 =>
    changeDescriptors (·.setClosing fd.toNat (argument.toNat % 2 = 1))
    return 0
  | 3 => return (← flagsOf stream)
  | 4 | 8 | 10 => return 0
  | 9 | 11 => return 0
  | 1032 =>
    ensure isPipe .ebadf
    return pipeSize
  | _ => throw .einval

/-- Requests on a stream as a device. -/
def deviceRequest (fd command : Int) (argument : UInt64) : Call Int := do
  let stream ← streamOf fd
  match command with
  | 0x5450 =>
    changeDescriptors (·.setClosing fd.toNat false)
    return 0
  | 0x5451 =>
    changeDescriptors (·.setClosing fd.toNat true)
    return 0
  | 2 =>
    store argument (littleBytes 4 pageSize)
    return 0
  | 0x5421 =>
    let _ ← load argument 4
    return 0
  | 0x541b =>
    match stream with
    | .reader n | .writer n =>
      store argument (littleBytes 4 ((← inspect (·.descriptors.pipes)).getD n []).length)
      return 0
    | .output _ =>
      store argument (littleBytes 4 0)
      return 0
    | .file _ =>
      let some file := (← inspect (·.descriptors)).file? stream | throw .enotty
      ensure (!file.isDirectory) .enotty
      store argument (littleBytes 4 ((← sizeOf file) - file.position))
      return 0
    | _ => throw .enotty
  | _ => throw .enotty

/-! ## What something is -/

/-- The number of bytes of what is told about a file. -/
def fileInformationSize : Nat := 144

/-- Tells about a file: how many names it has, what it is, and its size. -/
def tellFacts (a : Addr) (links mode size : Nat) : Call Int := do
  let head := littleBytes 16 0 ++ littleBytes 8 links ++ littleBytes 8 mode ++ littleBytes 16 0 ++
    littleBytes 8 size ++ littleBytes 8 pageSize ++ littleBytes 8 ((size + 511) / 512)
  store a (head ++ List.replicate (fileInformationSize - head.length) 0)
  return 0

/-- Tells about a node of the tree. -/
def tellNode (a : Addr) (_parts : List String) (node : FileNode) : Call Int :=
  match node with
  | .directory => tellFacts a 2 0o40755 pageSize
  | .file bytes isExecutable => tellFacts a 1 (if isExecutable then 0o100755 else 0o100644) bytes.length
  | .device => tellFacts a 1 0o20666 0

/-- Tells about a stream. -/
def tellStream (fd : Int) (a : Addr) : Call Int := do
  let stream ← streamOf fd
  match (← inspect (·.descriptors)).file? stream with
  | some file => tellNode a file.parts (← nodeOf file)
  | none => tellFacts a 1 0o10600 0

/-- What a stream is ready for, among some events: reading, writing, or the end of
    the other side. -/
def readiness (fd : Int) (asked : Nat) : Call Nat := do
  let d ← inspect (·.descriptors)
  if fd < 0 then return 0
  match d.stream? fd with
  | none => return 32
  | some (.reader pipe) =>
    let data := if (d.pipes.getD pipe []).isEmpty then 0 else asked &&& 0x41
    return data + if d.isWritten pipe then 0 else 16
  | some (.writer pipe) => return (asked &&& 0x104) + if d.isRead pipe then 0 else 8
  | some (.output _) => return asked &&& 0x104
  | some .special => return 0
  | some _ => return asked &&& 0x145

/-- Asks which streams are ready, and waits until some are. -/
def poll (table : Addr) (count : UInt64) (time : Option Nat) : Call Int := do
  let count := count.toNat % 2 ^ 32
  ensure (count ≤ Descriptors.limit) .einval
  let entries ← (List.range count).mapM fun i => do
    let a := table + UInt64.ofNat (8 * i)
    let fd := Width.long.signed (← loadNumber a 4)
    return (a, ← readiness fd (← loadNumber (a + 4) 2))
  entries.forM fun (a, ready) => store (a + 6) (littleBytes 2 ready)
  let found := (entries.filter (·.2 ≠ 0)).length
  if found = 0 && time ≠ some 0 then
    if (← wait time).isSome then throw again
  return found

/-! ## All requests -/

/-- A request for a stream that is none of those that it is for. -/
def onlyFor (fd : Int) (e : Errno) : Call Int := do
  let _ ← streamOf fd
  throw e

/-- A request for files, which pipes refuse. -/
def forFile (fd : Int) (e : Errno) : Call Int := do
  let stream ← streamOf fd
  ensure ((← inspect (·.descriptors)).file? stream).isSome e
  return 0

/-- The request about streams with a number. -/
def onStreams? (number : Nat) (x : Arguments) : Option (Call Int) :=
  match number with
  | 0 => some (read x.a32 x.b x.c)
  | 1 => some (write x.a32 x.b x.c)
  | 3 => some (close x.a32)
  | 5 => some (tellStream x.a32 x.b)
  | 7 => some (poll x.a x.b (if x.c32 < 0 then none else some (x.c32.toNat * 1000000)))
  | 8 => some (seek x.a32 x.b x.c32)
  | 16 => some (deviceRequest x.a32 x.b32 x.c)
  | 17 => some (readAt x.a32 x.b x.c x.d)
  | 18 => some (writeAt x.a32 x.b x.c x.d)
  | 19 => some (readPieces x.a32 x.b x.c)
  | 20 => some (writePieces x.a32 x.b x.c)
  | 22 => some (pipe x.a 0)
  | 293 => some (pipe x.a x.b32)
  | 32 => some (duplicate x.a32 0 false)
  | 33 => some (duplicateTo x.a32 x.b32)
  | 292 => some (duplicateOther x.a32 x.b32 x.c32)
  | 72 => some (control x.a32 x.b32 x.c)
  | 73 => some do
    ensure (([1, 2, 5, 6, 8] : List Int).contains x.b32) .einval
    let _ ← streamOf x.a32
    return 0
  | 74 | 75 => some (forFile x.a32 .einval)
  | 77 => some do
    ensure (x.b < 2 ^ (63 : Nat)) .einval
    forFile x.a32 .einval
  | 78 | 217 => some (onlyFor x.a32 .enotdir)
  | 91 | 93 | 306 => some do
    let _ ← streamOf x.a32
    return 0
  | 162 => some (return 0)
  | 221 => some (forFile x.a32 .espipe)
  | 41 => some do
    ensure (0 ≤ x.a32 && x.a32 < 46) .eafnosupport
    ensure (([1, 2, 10, 16] : List Int).contains x.a32) .eafnosupport
    openSpecial (x.b.toNat.testBit 19)
  | 42 | 43 | 44 | 45 | 46 | 47 | 48 | 49 | 50 | 51 | 52 | 54 | 55 | 288 =>
    some (onlyFor x.a32 .enotsock)
  | 213 => some do
    ensure (0 < x.a32) .einval
    openSpecial false
  | 253 => some (openSpecial false)
  | 284 => some (openSpecial false)
  | 290 => some (openSpecialWith x.b32 0x80801)
  | 291 => some (openSpecialWith x.a32 0x80000)
  | 294 => some (openSpecialWith x.a32 0x80800)
  | 283 => some do
    ensure (([0, 1, 7, 8, 9] : List Int).contains x.a32) .einval
    openSpecialWith x.b32 0x80800
  | 319 => some do
    let name ← loadText x.a
    ensure (name.length ≤ 249 && x.b &&& ~~~ 0x1f = 0) .einval
    openSpecial (x.b.toNat.testBit 0)
  | 436 => some (closeAll x.a x.b x.c)
  | _ => none

end SourceDebugger.Machine.Call
