/-
  A program with debug information, and a simulated process that runs it,
  stopped at the start of `main`:

      3 void helper(void) {
      4     counter += 1;
      5 }
        ...
      9 int main(void) {
     10     counter = 0;
     11     helper();
     12     counter *= 2;
     13     return counter;
     14 }
-/
import SourceDebugger.DebugInfo
import SourceDebugger.Simulation.Process

namespace SourceDebugger.Fixture

/-- Where the program is loaded. -/
def loadAddress : Addr := 0x555555554000

/-- The frame pointer in `main`. -/
def mainFrame : Addr := 0x7ffe0000

/-- The frame pointer in `helper`. -/
def helperFrame : Addr := 0x7ffdffe0

/-- Where `main` returns to. -/
def mainReturn : Addr := 0x7ffff7c29d90

def sourceFile : String := "/src/prog/main.c"

/-- The runtime address of a static address of the program. -/
def runtime (static : Addr) : Addr := static + loadAddress

/-- A row of the source file. -/
def row (address : Addr) (line : UInt64) (isStatement : Bool := true)
    (endSequence : Bool := false) : LineRow :=
  { address, file := sourceFile, line, isStatement, endSequence }

def lineTable : LineTable :=
  [row 0x1129 9, row 0x1135 10, row 0x113c 11, row 0x1146 12, row 0x114b 13 false,
   row 0x1150 13, row 0x115e 14, row 0x1160 3, row 0x1168 4, row 0x1174 5,
   row 0x1180 5 true true]

def unit : CompilationUnit where
  name := sourceFile
  ranges := [(0x1129, 0x1180)]
  functions := [⟨some "main", 0x1129, 0x1160⟩, ⟨some "helper", 0x1160, 0x1180⟩]
  lineTable := lineTable

def symbols : List Symbol :=
  [⟨.static, .file, "main.c", 0⟩, ⟨.static, .function, "main", 0x1129⟩,
   ⟨.static, .function, "helper", 0x1160⟩, ⟨.static, .object, "counter", 0x4010⟩,
   ⟨.dynamic, .function, "helper", 0x1160⟩, ⟨.dynamic, .noType, "__gmon_start__", 0⟩]

def info : DebugInfo := ⟨[unit], symbols, true⟩

/-- The order in which instructions are executed. -/
def flows : List (List Addr) :=
  [[0x1129, 0x112d, 0x1131, 0x1135, 0x1139, 0x113c, 0x1160],
   [0x1160, 0x1164, 0x1168, 0x116c, 0x1174, 0x117f, 0x1141],
   [0x1141, 0x1146, 0x114b, 0x1150, 0x1155, 0x115e, 0x115f]]

/-- Code of one byte instructions, a stack, and the two return addresses. -/
def memory : Memory :=
  ((((({} : Memory).setBytes (runtime 0x1000) (List.replicate 0x1000 0x90)).setBytes
    mainReturn (List.replicate 16 0x90)).setBytes
    (helperFrame - 0x100) (List.replicate 0x300 0)).setWord
    (mainFrame + 8) mainReturn).setWord (helperFrame + 8) (runtime 0x1141)

def map : MemoryMap :=
  { regions :=
    [{ start := loadAddress, stop := runtime 0x1000,
       permissions := { read := true, isPrivate := true },
       offset := 0, path := some "/tmp/prog" },
     { start := runtime 0x1000, stop := runtime 0x2000,
       permissions := { read := true, execute := true, isPrivate := true },
       offset := 0x1000, path := some "/tmp/prog" }] }

/-- The process, stopped at the start of `main`. -/
def process : Simulated :=
  flows.foldl (fun p chain => p.flow (chain.map runtime))
    { memory, map, registers := (RegisterFile.zero.set .rip (runtime 0x1129)).set .rbp mainFrame }

end SourceDebugger.Fixture
