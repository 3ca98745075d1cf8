/-
  Questions about addresses and names of a program, answered from its debug
  information.  Debug information describes static addresses; the loader may
  have moved the program, which shifts all of them by the load address.

  * `toStatic` and `toRuntime` convert addresses and undo each other;
  * `functionContaining?`, `lineEntry?`, `functionLines?` take and give static
    addresses;
  * `addressForFunction?` and `addressForLine?` find the places of
    breakpoints, as runtime addresses.
-/
import SourceDebugger.DebugInfo
import SourceDebugger.Text.Quoted

namespace SourceDebugger

structure SourceLocation where
  file : String
  line : UInt64

/-- A row of a line table, as the resolver finds it. -/
structure LineEntry where
  location : SourceLocation
  isStatement : Bool
  /-- The static address of the first instruction of the row. -/
  address : Addr

/-- Debug information of a program and the address it was loaded at. -/
structure Resolver where
  info : DebugInfo
  /-- Zero for programs that are not moved. -/
  loadAddress : Addr

namespace SourceLocation

/-- Whether two locations are the same: the same line of the same file, however
    its path is written. -/
def same (k l : SourceLocation) : Bool := Path.same k.file l.file && k.line == l.line

theorem same_iff {k l : SourceLocation} :
    k.same l ↔ Path.components k.file = Path.components l.file ∧ k.line = l.line := by
  simp [same, Path.same]

example : same ⟨"/src/./main.c", 13⟩ ⟨"/src//main.c", 13⟩ := by decide

@[simp] theorem same_self (l : SourceLocation) : l.same l := same_iff.2 ⟨rfl, rfl⟩

def render (l : SourceLocation) : String := l.file ++ ":" ++ Numeral.decimal l.line.toNat

/-- How log messages show a location. -/
def describe (l : SourceLocation) : String :=
  "SourceLocation \x7b file: " ++ Quoted.string l.file ++ ", line: " ++
    Numeral.decimal l.line.toNat ++ " \x7d"

end SourceLocation

def LineRow.entry (row : LineRow) : LineEntry :=
  ⟨⟨row.file, row.line⟩, row.isStatement, row.address⟩

namespace LineTable

/-- The row that describes the code at `a`. -/
def rowAt? (t : LineTable) (a : Addr) : Option LineRow := (findAddress? t a).bind (t[·]?)

/-- The address behind the first row of the function at `low`: the next row's,
    unless that row ends the sequence. -/
def bodyAddress? (t : LineTable) (low : Addr) : Option Addr :=
  (findAddress? t low).map fun i =>
    match t[i + 1]? with
    | some next => if next.endSequence then low else next.address
    | none => low

/-- The first statement on `line`. -/
def statementOn? (t : LineTable) (line : UInt64) : Option LineRow :=
  t.find? fun row => row.isStatement && !row.endSequence && row.line == line

end LineTable

namespace Resolver

def toStatic (r : Resolver) (runtime : Addr) : Addr := runtime - r.loadAddress

def toRuntime (r : Resolver) (static : Addr) : Addr := static + r.loadAddress

@[simp] theorem toRuntime_toStatic (r : Resolver) (a : Addr) :
    r.toRuntime (r.toStatic a) = a := by
  simp [toRuntime, toStatic]

@[simp] theorem toStatic_toRuntime (r : Resolver) (a : Addr) :
    r.toStatic (r.toRuntime a) = a := by
  simp [toRuntime, toStatic]

/-! ## From addresses -/

def unitsContaining (r : Resolver) (a : Addr) : List CompilationUnit :=
  r.info.units.filter (·.contains a)

/-- The function whose code contains `a`. -/
def functionContaining? (r : Resolver) (a : Addr) : Option Function :=
  ((r.unitsContaining a).flatMap (·.functions)).find? (·.contains a)

/-- The row of a line table that describes the code at `a`. -/
def lineEntry? (r : Resolver) (a : Addr) : Option LineEntry :=
  (r.unitsContaining a).findSome? fun u => (u.lineTable.rowAt? a).map (·.entry)

/-- The rows inside `f`, from the row at its low address on. -/
def functionLines? (r : Resolver) (f : Function) : Option (List LineEntry) := do
  let u ← (r.unitsContaining f.low).head?
  let first ← LineTable.findAddress? u.lineTable f.low
  let rows := (u.lineTable.drop first).takeWhile fun row =>
    !row.endSequence && row.address < f.high
  return rows.map (·.entry)

/-! ## From names -/

/-- The functions called `name`, each with the line table of its unit. -/
def functionsNamed (r : Resolver) (name : String) : List (LineTable × Function) :=
  r.info.units.flatMap fun u =>
    (u.functions.filter (·.name == some name)).map fun f => (u.lineTable, f)

/-- The runtime address of the first line behind the prologue of `name`, which
    is taken to be the first row of the function. -/
def addressForFunction? (r : Resolver) (name : String) : Option Addr :=
  (r.functionsNamed name).findSome? fun (table, f) =>
    (table.bodyAddress? f.low).map r.toRuntime

/-- The first statement on a line of the units that `file` names. -/
def statementOn? (r : Resolver) (file : String) (line : UInt64) : Option LineRow :=
  (r.info.units.filter (·.isNamed file)).findSome? (·.lineTable.statementOn? line)

/-- The runtime address of the first statement on a line. -/
def addressForLine? (r : Resolver) (file : String) (line : UInt64) : Option Addr :=
  (r.statementOn? file line).map fun row => r.toRuntime row.address

/-- The symbols called exactly `name`. -/
def symbolsNamed (r : Resolver) (name : String) : List Symbol :=
  r.info.symbols.filter (·.name == name)

end Resolver

end SourceDebugger
