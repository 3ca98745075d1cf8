/-
  Finding the executable of a program that is to be launched.  A name without
  a slash that leads to nothing is looked up in the search path; what is found
  must be a file.

  * `Launch.locate` gives the absolute path of the executable.
-/
import SourceDebugger.Action
import SourceDebugger.FileTree

namespace SourceDebugger.Launch

variable {σ : Type}

/-- A failure that is put into the log. -/
def refuse {α : Type} (e : Failure) : Action σ α := do
  .log .error .target e.message
  .fail e

/-- The path that a program name stands for. -/
def resolve (files : FileTree) (program : String) : Except Failure String :=
  if (Path.components program).length = 1 && !files.includes program then
    match files.search? program with
    | some path => .ok path
    | none => .error .programNotFound
  else .ok program

/-- The absolute path of the executable. -/
def locate (files : FileTree) (program : String) : Action σ String := do
  let path ← .ofExcept (resolve files program)
  match files.find path with
  | .error _ => refuse (.executableDoesNotExist path)
  | .ok (parts, .file ..) => return FileTree.pathOf parts
  | .ok _ => refuse (.executableIsNotAFile path)

end SourceDebugger.Launch
