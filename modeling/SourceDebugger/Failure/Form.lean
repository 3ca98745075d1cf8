/-
  The form in which the program reports the failure that ends it: the kind of
  the failure and its parts, as they are written in a program.

  * `Failure.form` is that form of a failure, `IoFailure.form` of its cause.
-/
import SourceDebugger.Failure
import SourceDebugger.Text.Quoted

namespace SourceDebugger

/-- The kind of failure that an error number of a file operation stands for. -/
def Errno.kind (e : Errno) : String :=
  let kinds : List (Nat × String) :=
    [(1, "PermissionDenied"), (2, "NotFound"), (4, "Interrupted"), (11, "WouldBlock"),
     (12, "OutOfMemory"), (13, "PermissionDenied"), (16, "ResourceBusy"),
     (20, "NotADirectory"), (21, "IsADirectory"), (22, "InvalidInput"), (27, "FileTooLarge"),
     (32, "BrokenPipe"), (38, "Unsupported")]
  (kinds.lookup e.code).getD "Uncategorized"

namespace Form

/-- A value with its parts in parentheses. -/
def parts (name : String) (values : List String) : String :=
  name ++ "(" ++ ", ".intercalate values ++ ")"

/-- A value with named fields. -/
def fields (name : String) (values : List (String × String)) : String :=
  name ++ " \x7b " ++ ", ".intercalate (values.map fun (field, value) => field ++ ": " ++ value) ++
    " \x7d"

end Form

namespace IoFailure

def form : IoFailure → String
  | system e =>
    Form.fields "Os" [("code", Numeral.decimal e.code), ("kind", e.kind),
      ("message", Quoted.string e.text)]
  | notUtf8 =>
    Form.fields "Error" [("kind", "InvalidData"), ("message", Quoted.string notUtf8.message)]
  | nulInPath =>
    Form.fields "Error" [("kind", "InvalidInput"), ("message", Quoted.string nulInPath.message)]
  | permissionDenied => Form.parts "Kind" ["PermissionDenied"]
  | notATerminal =>
    Form.fields "Custom" [("kind", "NotConnected"),
      ("error", Quoted.string notATerminal.message)]

end IoFailure

namespace Failure

def form : Failure → String
  | processAccess e => Form.parts "ProcessAccess" [e.symbol]
  | memoryAccess a e => Form.fields "MemoryAccess" [("addr", a.brief), ("source", e.symbol)]
  | symbolNotFound what => Form.parts "SymbolNotFound" [Quoted.string what]
  | processExited => "ProcessExited"
  | unexpectedWaitStatus status => Form.parts "UnexpectedWaitStatus" [Quoted.string status]
  | breakpointAlreadyEnabled => "BreakpointIsAlreadyEnabled"
  | breakpointAlreadyDisabled => "BreakpointIsAlreadyDisabled"
  | unknownRegister name => Form.parts "UnknownRegister" [Quoted.string name]
  | unknownDwarfRegister n => Form.parts "UnknownDwarfRegister" [Numeral.decimal n]
  | unsupportedSize n => Form.parts "UnsupportedDerefSize" [Numeral.decimal n.toNat]
  | badCommand why => Form.parts "BadCommand" [Quoted.string why]
  | badNumber text => Form.parts "BadNumber" [Quoted.string text]
  | executableDoesNotExist path => Form.parts "ExecutableDoesNotExist" [Quoted.string path]
  | executableIsNotAFile path => Form.parts "ExecutableIsNotAFile" [Quoted.string path]
  | nulInText position => Form.parts "CStringConv" [Numeral.decimal position]
  | io cause => Form.parts "Io" [cause.form]
  | badExecutable cause => Form.parts "Object" [Quoted.string cause.message]
  | badDebugInfo cause => Form.parts "Gimli" [Quoted.string cause.message]
  | programNotFound => Form.parts "Which" ["CannotFindBinaryPath"]
  | dialogue cause => Form.parts "Dialoguer" [Form.parts "IO" [cause.form]]

end Failure

end SourceDebugger
