/-
  What the debugger knows about an executable: compilation units with their
  address ranges, functions and line tables, and the symbols of the file.  All
  addresses are static.

  * `LineTable.findAddress?` is the row that describes the code at an address:
    the first row that starts at or before it, is no end of a sequence, and
    has a successor behind it;
  * `Function.contains`, `CompilationUnit.contains` test addresses;
  * `CompilationUnit.isNamed` lets `main.c` stand for `/src/prog/main.c`.
-/
import SourceDebugger.Address
import SourceDebugger.Text.Path

namespace SourceDebugger

/-! ## Line tables -/

/-- A row of a line table. -/
structure LineRow where
  address : Addr
  file : String
  line : UInt64
  isStatement : Bool
  /-- Marks the first address behind a sequence; the row describes no code. -/
  endSequence : Bool
  deriving DecidableEq

/-- The rows of a compilation unit, in program order. -/
abbrev LineTable := List LineRow

namespace LineTable

/-- The row at index `i` is the one that describes the code at `a`, given the
    row behind it. -/
def covers (row next : LineRow) (a : Addr) : Bool :=
  !row.endSequence && row.address ≤ a && a < next.address

/-- The index of the row that describes the code at `a`. -/
def findAddress? : LineTable → Addr → Option Nat
  | row :: next :: rows, a =>
    if covers row next a then some 0
    else (findAddress? (next :: rows) a).map (· + 1)
  | _, _ => none

end LineTable

/-! ## Functions, units, symbols -/

structure Function where
  name : Option String
  low : Addr
  /-- exclusive -/
  high : Addr
  deriving DecidableEq

def Function.contains (f : Function) (a : Addr) : Bool := f.low ≤ a && a < f.high

structure CompilationUnit where
  /-- The name of the main source file. -/
  name : String
  /-- First addresses and addresses behind the last ones. -/
  ranges : List (Addr × Addr)
  functions : List Function
  lineTable : LineTable
  deriving DecidableEq

namespace CompilationUnit

def contains (u : CompilationUnit) (a : Addr) : Bool :=
  u.ranges.any fun (low, high) => low ≤ a && a < high

/-- Whether `file` names the unit's source file. -/
def isNamed (u : CompilationUnit) (file : String) : Bool := Path.endsWith u.name file

end CompilationUnit

inductive SymbolKind where
  | noType
  | object
  | function
  | section
  | file
  | threadLocal
  | unknown
  deriving DecidableEq

def SymbolKind.name : SymbolKind → String
  | .noType => "notype"
  | .object => "object"
  | .function => "func"
  | .section => "section"
  | .file => "file"
  | .threadLocal => "tls"
  | .unknown => "unknown"

/-- What a file says a symbol is. -/
inductive SymbolClass where
  | code
  | data
  | section
  | file
  | label
  | threadLocal
  /-- The file does not say. -/
  | unspecified
  deriving DecidableEq

/-- The kind of a symbol of a class; labels have none of their own. -/
def SymbolKind.ofClass : SymbolClass → SymbolKind
  | .code => .function
  | .data => .object
  | .section => .section
  | .file => .file
  | .threadLocal => .threadLocal
  | .unspecified => .noType
  | .label => .unknown

/-- The table a symbol comes from. -/
inductive SymbolTable where
  | static
  | dynamic
  deriving DecidableEq

/-- A symbol of an executable. -/
structure Symbol where
  table : SymbolTable
  kind : SymbolKind
  name : String
  addr : Addr
  deriving DecidableEq

structure DebugInfo where
  units : List CompilationUnit := []
  symbols : List Symbol := []
  /-- The loader may move the executable. -/
  positionIndependent : Bool := false
  deriving DecidableEq

end SourceDebugger
