/-
  What can go wrong, by cause.  A tracee refuses an access, a name is in no
  table, a command is malformed, an executable cannot be found or read.

  * `Failure` has a constructor for each cause;
  * `Failure.message` is the one place that words them.
-/
import SourceDebugger.Address
import SourceDebugger.Errno

namespace SourceDebugger

/-- Why a file or a terminal could not be read. -/
inductive IoFailure where
  | system (errno : Errno)
  | notUtf8
  | nulInPath
  | permissionDenied
  | notATerminal
  deriving DecidableEq

/-- What is wrong with an executable or its debug information. -/
inductive Malformed where
  | endOfData
  | badMagic
  | badHeader
  | badSections
  | unknownVersion
  | unknownForm
  | unknownAbbreviation
  | badAbbreviation
  | badAttribute
  | badAddressSize
  | badString
  | badRanges
  | badLineProgram
  | overflow
  deriving DecidableEq

inductive Failure where
  /-- A request to the tracee failed. -/
  | processAccess (errno : Errno)
  /-- A word of the tracee's memory could not be read or written. -/
  | memoryAccess (addr : Addr) (errno : Errno)
  | symbolNotFound (what : String)
  | processExited
  | unexpectedWaitStatus (status : String)
  | breakpointAlreadyEnabled
  | breakpointAlreadyDisabled
  | unknownRegister (name : String)
  | unknownDwarfRegister (number : Nat)
  | unsupportedSize (bytes : UInt64)
  | badCommand (why : String)
  | badNumber (text : String)
  | executableDoesNotExist (path : String)
  | executableIsNotAFile (path : String)
  /-- A text that is handed to the system holds a NUL byte. -/
  | nulInText (position : Nat)
  | io (cause : IoFailure)
  | badExecutable (cause : Malformed)
  | badDebugInfo (cause : Malformed)
  /-- A bare program name is in no directory of the search path. -/
  | programNotFound
  | dialogue (cause : IoFailure)
  deriving DecidableEq

def IoFailure.message : IoFailure → String
  | system e => e.systemText
  | notUtf8 => "stream did not contain valid UTF-8"
  | nulInPath => "file name contained an unexpected NUL byte"
  | permissionDenied => "permission denied"
  | notATerminal => "not a terminal"

def Malformed.message : Malformed → String
  | endOfData => "unexpected end of data"
  | badMagic => "unknown file magic"
  | badHeader => "invalid header"
  | badSections => "invalid section headers"
  | unknownVersion => "unknown version"
  | unknownForm => "unknown attribute form"
  | unknownAbbreviation => "unknown abbreviation"
  | badAbbreviation => "invalid abbreviation"
  | badAttribute => "invalid attribute"
  | badAddressSize => "unsupported address size"
  | badString => "invalid string"
  | badRanges => "invalid address range"
  | badLineProgram => "invalid line program"
  | overflow => "number overflow"

/-- The text that is shown for a failure. -/
def Failure.message : Failure → String
  | processAccess e => "Could not access the debuggee: " ++ e.describe
  | memoryAccess a e =>
    "Could not access debuggee memory at " ++ a.padded ++ ": " ++ e.describe
  | symbolNotFound what => "Symbol not found: " ++ what
  | processExited => "The debuggee has exited"
  | unexpectedWaitStatus status => "Unexpected wait status: " ++ status
  | breakpointAlreadyEnabled => "Tried to enable a breakpoint that was already enabled"
  | breakpointAlreadyDisabled => "Tried to disable a breakpoint that was already disabled"
  | unknownRegister name => "Unknown register: " ++ name
  | unknownDwarfRegister n => "No register for DWARF register number " ++ Numeral.decimal n
  | unsupportedSize n => "Cannot dereference " ++ Numeral.decimal n.toNat ++ " bytes"
  | badCommand why => "Bad command: " ++ why
  | badNumber text => "Could not parse number: " ++ text
  | executableDoesNotExist path => "Executable does not exist: " ++ path
  | executableIsNotAFile path => "Executable is not a file: " ++ path
  | nulInText position =>
    "Could not convert to CString: nul byte found in provided data at position: " ++
      Numeral.decimal position
  | io cause => "IO error: " ++ cause.message
  | badExecutable cause => "Could not parse the executable: " ++ cause.message
  | badDebugInfo cause =>
    "Could not parse the DWARF debug information: " ++ cause.message
  | programNotFound => "Could not find the executable: cannot find binary path"
  | dialogue cause =>
    "Error with the command line interface: IO error: " ++ cause.message

end SourceDebugger
