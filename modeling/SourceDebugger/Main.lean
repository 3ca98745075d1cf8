/-
  The program.  It takes from its host what a session needs: the executable,
  the source files that its debug information names, and, if there is a
  terminal, the lines that are typed.
-/
import SourceDebugger.Program

namespace SourceDebugger

/-- Adds what is at a path of the host, if anything. -/
def addFile (files : FileTree) (path : String) : IO FileTree := do
  let start := if Path.isAbsolute path then [] else files.working
  let parts := start ++ FileTree.partsOf path
  try
    if ← (← IO.FS.realPath path).isDir then
      return files.add parts .directory
    let bytes ← IO.FS.readBinFile path
    return files.add parts (.file bytes.toList true)
  catch _ => return files

/-- The source files that the debug information of a program names. -/
def sourceFiles (files : FileTree) (program : String) : List String :=
  let load : Action Unit DebugInfo := do
    DebugInfo.load files (← Launch.locate files program)
  match (load ()).result with
  | .ok info =>
    (info.units.flatMap fun u => u.lineTable.map (·.file)).eraseDups
  | .error _ => []

/-- What a run of a program needs of the host's files. -/
def hostFiles (program : String) : IO FileTree := do
  let working := FileTree.partsOf (← IO.currentDir).toString
  let searchPath := ((← IO.getEnv "PATH").getD "").splitOn ":"
  let files ← addFile { working, searchPath } program
  let files ← (searchPath.map fun dir => Path.join dir program).foldlM addFile files
  (sourceFiles files program).foldlM addFile files

/-- The lines of a stream. -/
partial def readLines (input : IO.FS.Stream) : IO (List String) := do
  let line ← input.getLine
  if line.isEmpty then return []
  return line :: (← readLines input)

def perform : Console.Effect → IO Unit
  | .print bytes => do (← IO.getStdout).write ⟨bytes.toArray⟩
  | .complain bytes => do (← IO.getStderr).write ⟨bytes.toArray⟩
  | .log line => IO.eprint (Console.renderLog line)

end SourceDebugger

open SourceDebugger in
/-- Runs the program. -/
def main (arguments : List String) : IO UInt32 := do
  let files ← match CommandLine.parse arguments with
    | .ok settings => hostFiles settings.program
    | .error _ => pure {}
  let hasTerminal ← (← IO.getStderr).isTty
  let lines ← if hasTerminal then some <$> readLines (← IO.getStdin) else pure none
  let ending := Program.run { files, nextPid := 2, lines } arguments
  ending.effects.forM perform
  return UInt32.ofNat ending.code
