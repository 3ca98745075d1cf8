/-
  The files of a machine, as far as a debugger needs them: directories and
  files with their bytes, by absolute path.

  * `FileTree.add` puts a file or a directory into the tree;
  * `FileTree.find` follows a path, absolute or from the working directory;
  * `FileTree.read` and `FileTree.readText` give the contents of a file;
  * `FileTree.search?` finds a program by its bare name.
-/
import SourceDebugger.Failure
import SourceDebugger.Text.Path
import SourceDebugger.Text.Utf8

namespace SourceDebugger

inductive FileNode where
  | directory
  | file (bytes : List UInt8) (isExecutable : Bool)
  /-- Something else, which is empty when it is read. -/
  | device
  deriving DecidableEq

/-- Directories and files.  The root is always there. -/
structure FileTree where
  /-- Paths from the root, as their parts. -/
  nodes : List (List String × FileNode) := []
  /-- The directory that relative paths start from. -/
  working : List String := []
  /-- The directories in which programs are looked up. -/
  searchPath : List String := []

namespace FileTree

/-- The node at a path given by its parts. -/
def node? (t : FileTree) (parts : List String) : Option FileNode :=
  if parts.isEmpty then some .directory else t.nodes.lookup parts

/-- Follows the pieces of a path from the directory `here`.  An empty piece or
    `.` stays, `..` goes up. -/
def follow (t : FileTree) : List String → List String → Except Errno (List String)
  | here, [] => .ok here
  | here, piece :: pieces =>
    match t.node? here with
    | none => .error .enoent
    | some (.file ..) | some .device => .error .enotdir
    | some .directory =>
      if piece == "" || piece == "." then t.follow here pieces
      else if piece == ".." then t.follow here.dropLast pieces
      else t.follow (here ++ [piece]) pieces

/-- The parts of the absolute path that a path leads to, and what is there. -/
def find (t : FileTree) (path : String) : Except IoFailure (List String × FileNode) :=
  if path.toList.contains '\x00' then .error .nulInPath
  else if path.isEmpty then .error (.system .enoent)
  else
    let start := if Path.isAbsolute path then [] else t.working
    match t.follow start (Path.pieces path) with
    | .error e => .error (.system e)
    | .ok parts =>
      match t.node? parts with
      | none => .error (.system .enoent)
      | some node => .ok (parts, node)

/-- Adds a node at a path given by its parts, and the directories above it. -/
def add (t : FileTree) (parts : List String) (node : FileNode) : FileTree :=
  let above := (List.range parts.length).map fun n => (parts.take n, FileNode.directory)
  let missing := above.filter fun (parts, _) => (t.node? parts).isNone
  { t with nodes := (parts, node) :: missing ++ t.nodes }

/-- Removes the node at a path given by its parts. -/
def remove (t : FileTree) (parts : List String) : FileTree :=
  { t with nodes := t.nodes.filter fun (path, _) => path ≠ parts }

/-- Whether there is something in a directory. -/
def hasEntries (t : FileTree) (parts : List String) : Bool :=
  t.nodes.any fun (path, _) => path.dropLast = parts && path ≠ parts

/-- Whether a path leads to something. -/
def includes (t : FileTree) (path : String) : Bool := (t.find path).isOk

/-- The parts of a path. -/
def partsOf (path : String) : List String :=
  (Path.pieces path).filter fun piece => piece ≠ "" ∧ piece ≠ "."

/-- An absolute path. -/
def pathOf (parts : List String) : String := "/" ++ "/".intercalate parts

/-- The bytes of a file. -/
def read (t : FileTree) (path : String) : Except IoFailure (List UInt8) := do
  match (← t.find path).2 with
  | .directory => .error (.system .eisdir)
  | .file bytes _ => return bytes
  | .device => return []

/-- The text of a file. -/
def readText (t : FileTree) (path : String) : Except IoFailure String := do
  match Utf8.decode? (← t.read path) with
  | some text => return text
  | none => .error .notUtf8

/-- The first program called `name` in the directories that are searched. -/
def search? (t : FileTree) (name : String) : Option String :=
  (t.searchPath.map fun dir => Path.join dir name).find? fun path =>
    match t.find path with
    | .ok (_, .file _ isExecutable) => isExecutable
    | _ => false

end FileTree

end SourceDebugger
