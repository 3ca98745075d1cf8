/-
  Requests of a process that concern files by their paths.

  * `Call.locate` follows a path;
  * `Call.onFiles?` is the request with a number.
-/
import SourceDebugger.Machine.SystemCall.Streams

namespace SourceDebugger.Machine.Call

/-! ## Paths -/

/-- What stands for the working directory. -/
def here : Int := -100

/-- The directory behind a stream. -/
def directoryOf (fd : Int) : Call (List String) := do
  match (← inspect (·.descriptors)).file? (← streamOf fd) with
  | some f =>
    ensure f.isDirectory .enotdir
    return f.parts
  | none => throw .enotdir

/-- Where a path leads to, from a directory: the parts of an absolute path, and
    what is there, if its last part is there. -/
def locate (directory : Int) (path : Addr) : Call (List String × Option FileNode) := do
  let text := Utf8.lossy (← loadText path)
  ensure (!text.isEmpty) .enoent
  ensure ((Path.pieces text).all (·.utf8ByteSize ≤ 255)) .enametoolong
  let start ← if Path.isAbsolute text then pure []
    else if directory = here then inspect (·.files.working)
    else directoryOf directory
  let files ← inspect (·.files)
  let parts ← liftM (files.follow start (Path.pieces text))
  return (parts, files.node? parts)

/-- Where a path leads to, which has to be there. -/
def find (directory : Int) (path : Addr) : Call (List String × FileNode) := do
  match ← locate directory path with
  | (parts, some node) => return (parts, node)
  | (_, none) => throw .enoent

def changeFiles (f : FileTree → FileTree) : Call Unit :=
  modify fun p => { p with files := f p.files }

/-- The path of the program that runs, as its parts. -/
def programParts : Call (List String) := do
  return FileTree.partsOf (← inspect (·.executable))

/-! ## Opening -/

/-- The bits of the flags of a file that is opened. -/
def createBit : Nat := 6
def exclusiveBit : Nat := 7
def truncateBit : Nat := 9
def directoryBit : Nat := 16
def closingBit : Nat := 19
def temporaryBit : Nat := 22

/-- The node that is opened, perhaps a new one. -/
def openNode (parts : List String) (flags : Nat) : Option FileNode → Call FileNode
  | some node => do
    let isDirectory := node = .directory
    ensure (!(flags.testBit createBit && flags.testBit exclusiveBit)) .eexist
    let writes := flags % 4 = 1 || flags % 4 = 2
    ensure (!(isDirectory && (writes || flags.testBit createBit))) .eisdir
    ensure (isDirectory || !flags.testBit directoryBit) .enotdir
    let isRunning := parts = (← programParts)
    ensure (!(writes && isRunning)) .etxtbsy
    match node with
    | .file _ isExecutable =>
      if flags.testBit truncateBit then changeFiles (·.add parts (.file [] isExecutable))
    | _ => pure ()
    return node
  | none => do
    ensure (flags.testBit createBit) .enoent
    ensure (parts.getLast? ≠ some "") .eisdir
    changeFiles (·.add parts (.file [] false))
    return .file [] false

/-- Opens a file. -/
def openFile (directory : Int) (path : Addr) (flags : Nat) : Call Int := do
  ensure (!flags.testBit temporaryBit || flags.testBit directoryBit) .einval
  let (parts, found) ← locate directory path
  let node ← openNode parts flags found
  let d ← inspect (·.descriptors)
  let (n, d) ← liftM (d.insert (.file d.files.length))
  let file : OpenFile := { parts, isDirectory := node = .directory, flags }
  changeDescriptors fun _ =>
    { d with files := d.files ++ [file] }.setClosing n (flags.testBit closingBit)
  return n

/-! ## Changing the tree -/

def makeDirectory (directory : Int) (path : Addr) : Call Int := do
  match ← locate directory path with
  | (_, some _) => throw .eexist
  | (parts, none) =>
    changeFiles (·.add parts .directory)
    return 0

/-- Removes a file, or an empty directory. -/
def remove (isDirectory : Bool) (directory : Int) (path : Addr) : Call Int := do
  let (parts, node) ← find directory path
  if isDirectory then
    ensure (node = .directory) .enotdir
    ensure (!(← inspect (·.files)).hasEntries parts) .enotempty
  else ensure (node ≠ .directory) .eisdir
  changeFiles (·.remove parts)
  return 0

/-- Gives a file another path, or a further one. -/
def link (keepsOld : Bool) (directory target : Int) (old new : Addr) : Call Int := do
  let (parts, node) ← find directory old
  let (newParts, found) ← locate target new
  ensure (!(keepsOld && node = .directory)) .eperm
  ensure (!(keepsOld && found.isSome)) .eexist
  changeFiles fun t => (if keepsOld then t else t.remove parts).add newParts node
  return 0

/-- Changes something about a file that nobody asks for. -/
def touch (directory : Int) (path : Addr) : Call Int := do
  let _ ← find directory path
  return 0

/-- Changes who may do what with a file. -/
def changeMode (directory : Int) (path : Addr) (mode : Nat) : Call Int := do
  match ← find directory path with
  | (parts, .file bytes _) => changeFiles (·.add parts (.file bytes (mode.testBit 6)))
  | _ => pure ()
  return 0

/-- Sets the size of a file. -/
def truncate (path : Addr) (size : UInt64) : Call Int := do
  ensure (size < 2 ^ (63 : Nat)) .einval
  match ← find here path with
  | (_, .directory) => throw .eisdir
  | (_, .device) => throw .einval
  | (parts, .file bytes isExecutable) =>
    let isRunning := parts = (← programParts)
    ensure (!isRunning) .etxtbsy
    let bytes := bytes.take size.toNat
    let bytes := bytes ++ List.replicate (size.toNat - bytes.length) 0
    changeFiles (·.add parts (.file bytes isExecutable))
    return 0

/-! ## Asking -/

/-- Asks whether something may be done with a file. -/
def mayAccess (directory : Int) (path : Addr) (mode : Int) : Call Int := do
  ensure (0 ≤ mode && mode < 8) .einval
  match (← find directory path).2 with
  | .file _ isExecutable =>
    ensure (mode % 2 = 0 || isExecutable) .eacces
    return 0
  | .device =>
    ensure (mode % 2 = 0) .eacces
    return 0
  | .directory => return 0

/-- Tells the directory in which the process works. -/
def workingDirectory (a size : UInt64) : Call Int := do
  let path := FileTree.pathOf (← inspect (·.files.working))
  let text := path.toUTF8.toList ++ [0]
  ensure (text.length ≤ size.toNat) .erange
  store a text
  return text.length

def changeDirectory (parts : List String) : Call Int := do
  changeFiles ({ · with working := parts })
  return 0

/-- Tells about a file by its path, or about a stream. -/
def tellFile (directory : Int) (path a : Addr) (flags : Int) : Call Int := do
  ensure (0 ≤ flags && flags.toNat &&& 0x7900 = flags.toNat) .einval
  let text ← loadText path
  if text.isEmpty && flags.toNat.testBit 12 then
    if directory ≠ here then tellStream directory a
    else tellNode a (← inspect (·.files.working)) .directory
  else
    let (parts, node) ← find directory path
    tellNode a parts node

/-! ## All requests -/

/-- The request about paths with a number. -/
def onFiles? (number : Nat) (x : Arguments) : Option (Call Int) :=
  match number with
  | 2 => some (openFile here x.a (x.b.toNat % 2 ^ 32))
  | 257 => some (openFile x.a32 x.b (x.c.toNat % 2 ^ 32))
  | 85 => some (openFile here x.a 0x241)
  | 4 | 6 => some (tellFile here x.a x.b 0)
  | 262 => some (tellFile x.a32 x.b x.c x.d32)
  | 21 => some (mayAccess here x.a x.b32)
  | 269 => some (mayAccess x.a32 x.b x.c32)
  | 76 => some (truncate x.a x.b)
  | 79 => some (workingDirectory x.a x.b)
  | 80 => some do
    match ← find here x.a with
    | (parts, .directory) => changeDirectory parts
    | _ => throw .enotdir
  | 81 => some do changeDirectory (← directoryOf x.a32)
  | 82 => some (link false here here x.a x.b)
  | 264 => some (link false x.a32 x.c32 x.b x.d)
  | 86 => some (link true here here x.a x.b)
  | 265 => some (link true x.a32 x.c32 x.b x.d)
  | 83 => some (makeDirectory here x.a)
  | 258 => some (makeDirectory x.a32 x.b)
  | 84 => some (remove true here x.a)
  | 87 => some (remove false here x.a)
  | 263 => some do
    ensure (x.c &&& ~~~ 0x200 = 0) .einval
    remove (x.c ≠ 0) x.a32 x.b
  | 89 => some do
    ensure (0 < x.c32) .einval
    let _ ← find here x.a
    throw .einval
  | 267 => some do
    ensure (0 < x.d32) .einval
    let _ ← find x.a32 x.b
    throw .einval
  | 90 => some (changeMode here x.a x.b.toNat)
  | 268 => some (changeMode x.a32 x.b x.c.toNat)
  | 92 | 94 | 132 | 235 => some (touch here x.a)
  | 260 => some (touch x.a32 x.b)
  | 137 => some do
    let _ ← find here x.a
    tellZeros x.b 120
    return 0
  | 161 => some (touch here x.a)
  | _ => none

end SourceDebugger.Machine.Call
