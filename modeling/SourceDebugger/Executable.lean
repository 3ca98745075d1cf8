/-
  Executables of all formats.

  * `Executable.ofBytes` reads the file of an executable, whose first bytes tell
    the format.
-/
import SourceDebugger.Executable.Coff
import SourceDebugger.Executable.Elf
import SourceDebugger.Executable.MachO
import SourceDebugger.Executable.Xcoff

namespace SourceDebugger.Executable

/-- The smallest number of bytes from which the format is told. -/
def shortest : Nat := 16

/-- The machines of the object files that are known by their first bytes. -/
def objectMarks : List (UInt8 × UInt8) :=
  [(0xc4, 0x01), (0x64, 0xaa), (0x41, 0xa6), (0x4c, 0x01), (0x64, 0x86)]

/-- Reads the file of an executable. -/
def ofBytes (bytes : List UInt8) : Except Malformed Executable := do
  if bytes.length < shortest then .error .badMagic
  match bytes with
  | 0x7f :: 0x45 :: 0x4c :: 0x46 :: _ => Elf.executable bytes
  | 0xfe :: 0xed :: 0xfa :: 0xce :: _ => (·.executable) <$> MachO.ofBytes .big false bytes
  | 0xce :: 0xfa :: 0xed :: 0xfe :: _ => (·.executable) <$> MachO.ofBytes .little false bytes
  | 0xfe :: 0xed :: 0xfa :: 0xcf :: _ => (·.executable) <$> MachO.ofBytes .big true bytes
  | 0xcf :: 0xfa :: 0xed :: 0xfe :: _ => (·.executable) <$> MachO.ofBytes .little true bytes
  | 0x4d :: 0x5a :: _ => (·.executable) <$> Coff.ofProgram bytes
  | 0 :: 0 :: 0xff :: 0xff :: 2 :: 0 :: _ => (·.executable) <$> Coff.ofLargeObject bytes
  | 0x01 :: 0xdf :: _ => (·.executable) <$> Xcoff.ofBytes false bytes
  | 0x01 :: 0xf7 :: _ => (·.executable) <$> Xcoff.ofBytes true bytes
  | a :: b :: _ =>
    if (a, b) ∈ objectMarks then (·.executable) <$> Coff.ofObject bytes
    else .error .badMagic
  | _ => .error .badMagic

end SourceDebugger.Executable
