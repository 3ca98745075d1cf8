/-
  Line programs.  The line table of a unit is written as a program for a small
  machine, whose registers describe a row; some instructions add the row to the
  table.

  * `LineProgram.ofBytes` reads the header of a program: its parameters and its
    lists of directories and files;
  * `Instruction.next` reads an instruction, `LineState.execute` executes it;
  * `LineProgram.rows` are the rows of a program.  Rows of removed code, whose
    address is below that of the rows before it or the last of all, are left
    out.
-/
import SourceDebugger.DebugInfo
import SourceDebugger.Dwarf.Unit
import SourceDebugger.Text.Utf8

namespace SourceDebugger.Dwarf

/-- A file of a line program: its name and the number of its directory. -/
structure LineFile where
  name : Value
  directory : Nat
  deriving DecidableEq

structure LineProgram where
  encoding : Encoding
  /-- What an address is counted in. -/
  unitLength : UInt8
  /-- The number of operations in an instruction, at least one. -/
  operations : UInt8
  /-- Whether rows are statements at the beginning of a sequence. -/
  defaultStatement : Bool
  lineBase : Int
  lineRange : UInt8
  /-- The first opcode that advances both the line and the address. -/
  opcodeBase : UInt8
  /-- The number of operands of the opcodes below, from 1 on. -/
  operandCounts : List UInt8
  /-- The files and directories that are numbered zero up to version 4. -/
  unitFile : Option (List UInt8)
  unitDirectory : Option (List UInt8)
  directories : List Value
  files : List LineFile
  instructions : List UInt8

namespace LineProgram

/-! ## Files and directories -/

/-- The directories or file names of the old format, up to an empty one. -/
def name? : Decoder (Option (List UInt8)) := do
  let name ← Decoder.text
  return if name.isEmpty then none else some name

/-- The rest of a file of the old format. -/
def fileNamed (name : List UInt8) : Decoder LineFile := do
  let directory ← Decoder.unsigned
  let _ ← Decoder.unsigned
  let _ ← Decoder.unsigned
  return ⟨.text name, directory⟩

def file? : Decoder (Option LineFile) := do
  match ← name? with
  | none => return none
  | some name => return some (← fileNamed name)

/-- The parts that entries of the new format consist of: the name. -/
def namePart : Nat := 1

/-- The number of the directory. -/
def directoryPart : Nat := 2

/-- The parts of the entries of a list, with their forms; one is the name. -/
def entryFormat : Decoder (List (Nat × Nat)) := do
  let count ← Decoder.byte
  let parts ← (List.replicate count.toNat ()).mapM fun _ => do
    let part ← Decoder.unsigned
    return (part, ← Decoder.unsigned16)
  if (parts.filter (·.1 == namePart)).length = 1 then return parts
  else Decoder.fail .badLineProgram

/-- An entry of the new format. -/
def entry (e : Encoding) (format : List (Nat × Nat)) : Decoder LineFile := do
  let parts ← format.mapM fun (part, form) => do return (part, ← Value.ofEntryForm e form)
  let name := (parts.lookup namePart).getD (.text [])
  let directory := (parts.filterMap fun (part, v) =>
    if part = directoryPart then v.constant? else none).getLast?
  return ⟨name, (directory.getD 0).toNat⟩

/-- A list of the new format. -/
def entries (e : Encoding) : Decoder (List LineFile) := do
  let format ← entryFormat
  Decoder.times (← Decoder.unsigned) (entry e format)

/-! ## Headers -/

/-- A signed byte. -/
def signedByte (b : UInt8) : Int := b.toInt8.toInt

/-- Reads the lists of directories and files. -/
def lists (e : Encoding) : Decoder (List Value × List LineFile) := do
  if e.version ≤ 4 then
    let directories ← Decoder.many name?
    return (directories.map .text, ← Decoder.many file?)
  else
    let directories ← entries e
    return (directories.map (·.name), ← entries e)

/-- Reads the parameters of a program, whose instructions are given. -/
def parameters (s : Scope) (e : Encoding) (instructions : List UInt8) :
    Decoder LineProgram := do
  let unitLength ← Decoder.byte
  if unitLength = 0 then Decoder.fail .badLineProgram
  let operations ← if 4 ≤ e.version then Decoder.byte else pure 1
  if operations = 0 then Decoder.fail .badLineProgram
  let defaultStatement ← Decoder.byte
  let lineBase ← Decoder.byte
  let lineRange ← Decoder.byte
  if lineRange = 0 then Decoder.fail .badLineProgram
  let opcodeBase ← Decoder.byte
  if opcodeBase = 0 then Decoder.fail .badLineProgram
  let operandCounts ← Decoder.take (opcodeBase.toNat - 1)
  let (directories, files) ← lists e
  return {
    encoding := e, unitLength, operations, defaultStatement := defaultStatement != 0
    lineBase := signedByte lineBase, lineRange, opcodeBase, operandCounts
    unitFile := if e.version ≤ 4 then s.name else none
    unitDirectory := if e.version ≤ 4 then s.directory else none
    directories, files, instructions }

/-- Reads the fields behind the length. -/
def fields (s : Scope) (offsetBytes : Nat) : Decoder LineProgram := do
  let order := s.encoding.order
  let version ← Decoder.number order 2
  if version < 2 ∨ 5 < version then Decoder.fail .unknownVersion
  let addressBytes ← if 5 ≤ version then addressSize else pure s.encoding.addressBytes
  if 5 ≤ version then
    if (← Decoder.byte) ≠ 0 then Decoder.fail .badLineProgram
  let headerLength ← Decoder.number order offsetBytes
  let rest ← get
  Decoder.within headerLength
    (parameters s ⟨order, version, offsetBytes, addressBytes⟩ (rest.drop headerLength))

/-- The line program at a position. -/
def ofBytes (s : Scope) (offset : Nat) : Except Malformed LineProgram :=
  Decoder.runAt s.sections.lines offset do
    let (n, offsetBytes) ← length s.encoding.order
    Decoder.within n (fields s offsetBytes)

/-- The file with a number.  Up to version 4 they are counted from one, and
    zero is the unit's own. -/
def file (p : LineProgram) (n : Nat) : Option LineFile :=
  if p.encoding.version ≤ 4 then
    match n with
    | 0 => p.unitFile.map fun name => ⟨.text name, 0⟩
    | n + 1 => p.files[n]?
  else p.files[n]?

/-- The directory with a number. -/
def directory (p : LineProgram) (n : Nat) : Option Value :=
  if p.encoding.version ≤ 4 then
    match n with
    | 0 => p.unitDirectory.map .text
    | n + 1 => p.directories[n]?
  else p.directories[n]?

/-- The path of a file: the unit's directory, the file's directory, and the
    name, one below the other. -/
def path (p : LineProgram) (s : Scope) (n : Nat) : Except Malformed String := do
  let top := (s.directory.map Utf8.lossy).getD ""
  match p.file n with
  | none => return top
  | some file =>
    let dir ← match p.directory file.directory with
      | some v => (fun d => Path.join top (Utf8.lossy d)) <$> s.text v
      | none => pure top
    return Path.join dir (Utf8.lossy (← s.text file.name))

end LineProgram

/-! ## Instructions -/

namespace LineProgram

inductive Instruction where
  /-- Advances address and line, and adds a row. -/
  | special (opcode : UInt8)
  | copy
  | advance (operations : UInt64)
  | advanceLine (lines : Int)
  | setFile (n : Nat)
  | negateStatement
  /-- Advances the address like the last special opcode. -/
  | advanceConstant
  | advanceFixed (bytes : UInt64)
  | endSequence
  | setAddress (a : Addr)
  | defineFile (file : LineFile)
  /-- Sets a register that rows do not show. -/
  | other
  deriving DecidableEq

namespace Instruction

/-- Reads an instruction of the extended kind. -/
def extended (p : LineProgram) : Decoder Instruction := do
  match (← Decoder.byte).toNat with
  | 1 => return endSequence
  | 2 => return setAddress (← p.encoding.address)
  | 3 =>
    if p.encoding.version ≤ 4 then return defineFile (← fileNamed (← Decoder.text))
    else return other
  | 4 => do
    let _ ← Decoder.unsigned
    return other
  | _ => return other

/-- Reads an instruction. -/
def next (p : LineProgram) : Decoder Instruction := do
  let opcode ← Decoder.byte
  if opcode = 0 then Decoder.within (← Decoder.unsigned) (extended p)
  else if p.opcodeBase ≤ opcode then return special opcode
  else
    match opcode.toNat with
    | 1 => return copy
    | 2 => return advance (UInt64.ofNat (← Decoder.unsigned))
    | 3 => return advanceLine (← Decoder.signed)
    | 4 => return setFile (← Decoder.unsigned)
    | 6 => return negateStatement
    | 7 | 10 | 11 => return other
    | 8 => return advanceConstant
    | 9 => return advanceFixed (UInt64.ofNat (← p.encoding.number 2))
    | 5 | 12 => do
      let _ ← Decoder.unsigned
      return other
    | n => do
      match p.operandCounts[n - 1]? with
      | none => Decoder.fail .endOfData
      | some count =>
        let _ ← (List.replicate count.toNat ()).mapM fun _ => Decoder.unsigned
        return other

end Instruction

/-! ## Execution -/

/-- The registers that rows show. -/
structure LineState where
  address : Addr := 0
  /-- The position of the operation in its instruction. -/
  operation : UInt64 := 0
  file : Nat := 1
  line : UInt64 := 1
  isStatement : Bool
  endSequence : Bool := false
  /-- The rows are of removed code. -/
  isRemoved : Bool := false
  deriving DecidableEq

namespace LineState

variable (p : LineProgram)

/-- The registers at the beginning of a sequence. -/
def initial : LineState := { isStatement := p.defaultStatement }

/-- Advances the line; it does not fall below zero. -/
def advanceLine (r : LineState) (lines : Int) : LineState :=
  if 0 ≤ lines then { r with line := r.line + UInt64.ofNat lines.toNat }
  else { r with line := UInt64.ofNat (r.line.toNat - (-lines).toNat) }

/-- Advances the address by some operations. -/
def advance (r : LineState) (operations : UInt64) : Except Malformed LineState := do
  if r.isRemoved then return r
  let perInstruction := p.operations.toUInt64
  let passed := r.operation + operations
  let (bytes, operation) :=
    if perInstruction = 1 then (p.unitLength.toUInt64 * operations, 0)
    else (p.unitLength.toUInt64 * (passed / perInstruction), passed % perInstruction)
  return { r with address := ← p.encoding.checkedAdd r.address bytes, operation }

/-- The distance of an opcode from the first special one. -/
def adjusted (opcode : UInt8) : UInt8 := opcode - p.opcodeBase

/-- Executes an instruction.  The result says whether it adds the row. -/
def execute (r : LineState) : Instruction → Except Malformed (LineState × Bool)
  | .special opcode => do
    let n := adjusted p opcode
    let r := r.advanceLine (p.lineBase + (n % p.lineRange).toNat)
    return (← r.advance p (n / p.lineRange).toUInt64, true)
  | .copy => .ok (r, true)
  | .advance operations => return (← r.advance p operations, false)
  | .advanceLine lines => .ok (r.advanceLine lines, false)
  | .setFile n => .ok ({ r with file := n }, false)
  | .negateStatement => .ok ({ r with isStatement := !r.isStatement }, false)
  | .advanceConstant => return (← r.advance p (adjusted p 255 / p.lineRange).toUInt64, false)
  | .advanceFixed bytes => do
    if r.isRemoved then return (r, false)
    return ({ r with address := ← p.encoding.checkedAdd r.address bytes, operation := 0 }, false)
  | .endSequence => .ok ({ r with endSequence := true }, true)
  | .setAddress a =>
    if a < r.address ∨ a = p.encoding.lastAddress then .ok ({ r with isRemoved := true }, false)
    else .ok ({ r with isRemoved := false, address := a, operation := 0 }, false)
  | .defineFile _ | .other => .ok (r, false)

/-- The registers behind a row. -/
def afterRow (r : LineState) : LineState := if r.endSequence then initial p else r

end LineState

/-- The program behind an instruction: it may have added a file. -/
def defining (p : LineProgram) : Instruction → LineProgram
  | .defineFile file => { p with files := p.files ++ [file] }
  | _ => p

/-- The row that the registers describe. -/
def row (p : LineProgram) (s : Scope) (r : LineState) : Except Malformed LineRow := do
  return ⟨r.address, ← p.path s r.file, r.line, r.isStatement, r.endSequence⟩

/-- Runs at most `limit` instructions and gives the rows they add. -/
def rowsFrom (s : Scope) : Nat → LineProgram → LineState → List UInt8 →
    Except Malformed (List LineRow)
  | 0, _, _, _ => .ok []
  | limit + 1, p, r, bytes =>
    if bytes.isEmpty then .ok []
    else do
      let (instruction, rest) ← (Instruction.next p).run bytes
      let (r, adds) ← r.execute p instruction
      let p := p.defining instruction
      if !adds then rowsFrom s limit p r rest
      else if r.isRemoved then rowsFrom s limit p (r.afterRow p) rest
      else
        let row ← p.row s r
        let rows ← rowsFrom s limit p (r.afterRow p) rest
        return row :: rows

/-- The rows of a program, in the order in which they are added. -/
def rows (p : LineProgram) (s : Scope) : Except Malformed LineTable :=
  rowsFrom s p.instructions.length p (.initial p) p.instructions

end LineProgram

end SourceDebugger.Dwarf
