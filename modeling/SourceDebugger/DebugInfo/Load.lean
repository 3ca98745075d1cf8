/-
  Loading debug information from an executable.

  * `CompilationUnit.load` reads a unit: its ranges, name, functions and line
    table;
  * `DebugInfo.ofBytes` reads all units and symbols of an executable.  Anything
    malformed makes it fail; what was logged until then stays.
-/
import SourceDebugger.Dwarf.Function
import SourceDebugger.Dwarf.LineProgram
import SourceDebugger.Executable
import SourceDebugger.FileTree

namespace SourceDebugger

open Dwarf

variable {σ α : Type}

/-- A result of reading debug information. -/
def Action.ofDebugInfo (r : Except Malformed α) : Action σ α :=
  .ofExcept (r.mapError .badDebugInfo)

/-- A result of reading an executable. -/
def Action.ofExecutable (r : Except Malformed α) : Action σ α :=
  .ofExcept (r.mapError .badExecutable)

/-- The sections of an executable that hold debug information. -/
def Executable.debugSections (e : Executable) : Dwarf.Sections where
  order := e.order
  info := e.debugSection ".debug_info"
  abbreviations := e.debugSection ".debug_abbrev"
  lines := e.debugSection ".debug_line"
  lineStrings := e.debugSection ".debug_line_str"
  strings := e.debugSection ".debug_str"
  stringOffsets := e.debugSection ".debug_str_offsets"
  addresses := e.debugSection ".debug_addr"
  ranges := e.debugSection ".debug_ranges"
  rangeLists := e.debugSection ".debug_rnglists"

/-- Reads a unit. -/
def CompilationUnit.load (sections : Dwarf.Sections) (header : Header) :
    Action σ CompilationUnit := do
  let shapes ← .ofDebugInfo (Abbreviation.table sections.abbreviations header.abbreviations)
  let (entries, ending) := Entry.all header.encoding shapes header.entries
  match entries with
  | [] => do
    .ofDebugInfo ending
    .fail (.badDebugInfo .endOfData)
  | root :: below =>
    let scope ← .ofDebugInfo (Scope.ofRoot sections header.encoding root)
    let program ← .ofDebugInfo
      ((Scope.position? root [AttributeName.lineTable]).mapM (LineProgram.ofBytes scope))
    let ranges ← .ofDebugInfo (scope.ranges root)
    let name ← .ofDebugInfo (scope.lookups.nameOf root)
    let functions ← scope.lookups.functions below
    .ofDebugInfo ending
    let lineTable ← .ofDebugInfo
      (match program with
      | some p => p.rows scope
      | none => .ok [])
    let name := name.getD ""
    .log .debug .debugInfo
      ("unit " ++ name ++ ": " ++ Numeral.decimal ranges.length ++ " ranges, " ++
        Numeral.decimal functions.length ++ " functions, " ++
        Numeral.decimal lineTable.length ++ " line rows")
    return { name, ranges, functions, lineTable }

namespace DebugInfo

/-- Reads the units of a section, at most `limit`. -/
def unitsFrom (sections : Dwarf.Sections) : Nat → List UInt8 → Action σ (List CompilationUnit)
  | 0, _ => pure []
  | limit + 1, bytes => do
    match ← .ofDebugInfo ((Header.next? sections.order).run bytes) with
    | (none, _) => return []
    | (some header, rest) =>
      let u ← CompilationUnit.load sections header
      return u :: (← unitsFrom sections limit rest)

/-- Reads the debug information of an executable. -/
def ofExecutable (e : Executable) : Action σ DebugInfo := do
  let sections := e.debugSections
  let units ← unitsFrom sections (sections.info.length + 1) sections.info
  .log .info .debugInfo
    ("loaded " ++ Numeral.decimal units.length ++ " compilation units and " ++
      Numeral.decimal e.symbols.length ++ " symbols (position independent: " ++
      (if e.isPositionIndependent then "true" else "false") ++ ")")
  return { units, symbols := e.symbols, positionIndependent := e.isPositionIndependent }

/-- Reads the debug information of the executable with the given bytes. -/
def ofBytes (bytes : List UInt8) : Action σ DebugInfo := do
  ofExecutable (← .ofExecutable (Executable.ofBytes bytes))

/-- Reads the debug information of the executable at a path. -/
def load (files : FileTree) (path : String) : Action σ DebugInfo := do
  ofBytes (← .ofExcept ((files.read path).mapError .io))

end DebugInfo

end SourceDebugger
