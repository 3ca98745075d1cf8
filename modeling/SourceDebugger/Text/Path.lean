/-
  File names, compared component by component.  Repeated slashes, `.` inside a
  path and a slash at the end do not count.

  * `components` are the parts of a path, `root` for a leading slash and
    `here` for a leading `.`;
  * `same` compares two paths, `endsWith` asks whether the last parts of a
    path are the parts of another one: `prog/main.c` is a suffix of
    `/src/prog/main.c`, `ain.c` is not, and the empty path is a suffix of all;
  * `join` appends a part, which replaces the path if it is absolute.
-/
namespace SourceDebugger.Path

/-- A part of a path. -/
inductive Component where
  | root
  | here
  | named (name : String)
  deriving DecidableEq

/-- The pieces between slashes. -/
def pieces (path : String) : List String := (path.toList.splitOn '/').map String.ofList

def components (path : String) : List Component :=
  let parts := (pieces path).filter fun p => p != "" && p != "."
  let front : List Component :=
    match path.toList with
    | '/' :: _ => [.root]
    | ['.'] => [.here]
    | '.' :: '/' :: _ => [.here]
    | _ => []
  front ++ parts.map .named

/-- Whether two texts name the same path. -/
def same (p q : String) : Bool := components p == components q

/-- Whether the last components of `path` are the components of `tail`. -/
def endsWith (path tail : String) : Bool := (components tail).isSuffixOf (components path)

def isAbsolute (path : String) : Bool :=
  match path.toList with
  | '/' :: _ => true
  | _ => false

/-- `part` below `path`: a slash is put between them unless there is one or
    `path` is empty; an absolute `part` stands alone. -/
def join (path part : String) : String :=
  if isAbsolute part then part
  else if path.isEmpty || path.toList.getLast? == some '/' then path ++ part
  else path ++ "/" ++ part

end SourceDebugger.Path
