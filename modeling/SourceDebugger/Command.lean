/-
  Commands, built from words.  A command word may be abbreviated to any prefix:
  an exact match wins, otherwise the first word of `commandWords` that starts
  with it is taken, so `s` is `step` and `b` is `break`.

  * `Command.ofWords` reads a command, `Place.ofText` the place of a
    breakpoint: `0x` and a number, a file and a line behind the last colon, or
    the name of a function;
  * `number` and `address` read numbers, with the same syntax.
-/
import SourceDebugger.Failure
import SourceDebugger.Register
import SourceDebugger.Text.Quoted

namespace SourceDebugger

/-- The first words of commands, in the order in which abbreviations are
    resolved. -/
def commandWords : List String :=
  ["continue", "break", "delete", "register", "memory", "step", "stepi", "next", "finish",
   "symbol", "info", "maps", "kill", "quit"]

/-- Where to put a breakpoint. -/
inductive Place where
  /-- `0x401126`, a runtime address -/
  | address (addr : Addr)
  /-- `main.c:12` -/
  | line (file : String) (line : UInt64)
  /-- `main` -/
  | function (name : String)
  deriving DecidableEq

inductive Command where
  | continue
  | setBreakpoint (place : Place)
  | deleteBreakpoint (addr : Addr)
  | dumpRegisters
  | readRegister (reg : Register)
  | writeRegister (reg : Register) (value : UInt64)
  /-- Reads a word, or this many bytes of it. -/
  | readMemory (addr : Addr) (size : Option UInt64)
  | writeMemory (addr : Addr) (value : Word)
  | stepIn
  | stepInstruction
  | stepOver
  | stepOut
  | findSymbols (name : String)
  | info
  | maps
  | kill
  | quit
  deriving DecidableEq

/-! ## Reading -/

/-- A number in decimal or, after `0x`, in hexadecimal. -/
def number (text : String) : Except Failure UInt64 :=
  match Numeral.parse? text with
  | some n => .ok n
  | none => .error (.badNumber text)

/-- An address, written like a number. -/
def address (text : String) : Except Failure Addr :=
  match Addr.ofText? text with
  | some a => .ok a
  | none => .error (.badNumber text)

/-- The two sides of the last `sep` of a text. -/
def splitLast? (sep : Char) (cs : List Char) : Option (List Char × List Char) :=
  let back := cs.reverse
  match back.dropWhile (· != sep) with
  | [] => none
  | _ :: front => some (front.reverse, (back.takeWhile (· != sep)).reverse)

def Place.ofText (text : String) : Except Failure Place := do
  let cs := text.toList
  if (Numeral.splitBase cs).1 = 16 then
    return .address (← SourceDebugger.address text)
  match splitLast? ':' cs with
  | some (path, digits) =>
    return .line (String.ofList path) (← number (String.ofList digits))
  | none => return .function text

/-- The word of `candidates` that `word` is or abbreviates. -/
def resolveWord? (word : String) (candidates : List String) : Option String :=
  if word.isEmpty then none
  else (candidates.find? (· == word)).or
    (candidates.find? fun c => word.toList.isPrefixOf c.toList)

/-- The `i`-th word, which is to be a `what`. -/
def word (words : List String) (i : Nat) (what : String) : Except Failure String :=
  match words[i]? with
  | some w => .ok w
  | none => .error (.badCommand ("missing " ++ what))

def register (name : String) : Except Failure Register :=
  match Register.ofName? name with
  | some r => .ok r
  | none => .error (.unknownRegister name)

namespace Command

/-- The commands on registers, by the words behind `register`. -/
def ofRegisterWords (words : List String) : Except Failure Command := do
  let sub ← word words 1 "dump, read or write"
  match resolveWord? sub ["dump", "read", "write"] with
  | some "dump" => return dumpRegisters
  | some "read" => return readRegister (← register (← word words 2 "register"))
  | some "write" =>
    let reg ← register (← word words 2 "register")
    return writeRegister reg (← number (← word words 3 "value"))
  | _ => .error (.badCommand ("register " ++ sub))

/-- The commands on memory, by the words behind `memory`. -/
def ofMemoryWords (words : List String) : Except Failure Command := do
  let sub ← word words 1 "read or write"
  let addr ← address (← word words 2 "address")
  match resolveWord? sub ["read", "write"] with
  | some "read" =>
    match words[3]? with
    | some size => return readMemory addr (some (← number size))
    | none => return readMemory addr none
  | some "write" => return writeMemory addr (← number (← word words 3 "value"))
  | _ => .error (.badCommand ("memory " ++ sub))

/-- Reads a command.  Words behind the ones it needs are ignored. -/
def ofWords (words : List String) : Except Failure Command := do
  let first ← word words 0 "command"
  match resolveWord? first commandWords with
  | some "continue" => return .continue
  | some "break" =>
    return setBreakpoint (← Place.ofText (← word words 1 "breakpoint location"))
  | some "delete" => return deleteBreakpoint (← address (← word words 1 "address"))
  | some "register" => ofRegisterWords words
  | some "memory" => ofMemoryWords words
  | some "step" => return stepIn
  | some "stepi" => return stepInstruction
  | some "next" => return stepOver
  | some "finish" => return stepOut
  | some "symbol" => return findSymbols (← word words 1 "symbol name")
  | some "info" => return info
  | some "maps" => return maps
  | some "kill" => return kill
  | some "quit" => return quit
  | _ => .error (.badCommand ("unknown command: " ++ first))

end Command

/-! ## How log messages show commands -/

def Place.describe : Place → String
  | address a => "Address(" ++ a.brief ++ ")"
  | line file n =>
    "Line \x7b file: " ++ Quoted.string file ++ ", line: " ++ Numeral.decimal n.toNat ++ " \x7d"
  | function name => "Function(" ++ Quoted.string name ++ ")"

def Command.describe : Command → String
  | .continue => "Continue"
  | setBreakpoint place => "SetBreakpoint(" ++ place.describe ++ ")"
  | deleteBreakpoint a => "DelBreakpoint(" ++ a.brief ++ ")"
  | dumpRegisters => "DumpRegisters"
  | readRegister r => "ReadRegister(" ++ r.name ++ ")"
  | writeRegister r v => "WriteRegister(" ++ r.name ++ ", " ++ Numeral.decimal v.toNat ++ ")"
  | readMemory a none => "ReadMemory(" ++ a.brief ++ ", None)"
  | readMemory a (some n) =>
    "ReadMemory(" ++ a.brief ++ ", Some(" ++ Numeral.decimal n.toNat ++ "))"
  | writeMemory a w => "WriteMemory(" ++ a.brief ++ ", " ++ toString w.toInt ++ ")"
  | stepIn => "StepInto"
  | stepInstruction => "StepSingle"
  | stepOver => "StepOver"
  | stepOut => "StepOut"
  | findSymbols name => "GetSymbolsByName(" ++ Quoted.string name ++ ")"
  | info => "Info"
  | maps => "ProcMap"
  | kill => "Kill"
  | quit => "Quit"

end SourceDebugger
