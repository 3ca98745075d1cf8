/-
  Error numbers and signals of the kernel, and the two ways in which an error
  number is worded: by its symbol and description where a request to the
  tracee failed, by the system's own text where a file operation failed.
-/
import SourceDebugger.Text.Numeral

namespace SourceDebugger

/-- An error number of the kernel. -/
structure Errno where
  code : Nat
  deriving DecidableEq

namespace Errno

def eperm : Errno := ⟨1⟩
def enoent : Errno := ⟨2⟩
def esrch : Errno := ⟨3⟩
def eintr : Errno := ⟨4⟩
def eio : Errno := ⟨5⟩
def e2big : Errno := ⟨7⟩
def enoexec : Errno := ⟨8⟩
def ebadf : Errno := ⟨9⟩
def echild : Errno := ⟨10⟩
def eagain : Errno := ⟨11⟩
def enomem : Errno := ⟨12⟩
def eacces : Errno := ⟨13⟩
def efault : Errno := ⟨14⟩
def eexist : Errno := ⟨17⟩
def enodev : Errno := ⟨19⟩
def enotdir : Errno := ⟨20⟩
def eisdir : Errno := ⟨21⟩
def einval : Errno := ⟨22⟩
def emfile : Errno := ⟨24⟩
def enotty : Errno := ⟨25⟩
def etxtbsy : Errno := ⟨26⟩
def espipe : Errno := ⟨29⟩
def epipe : Errno := ⟨32⟩
def erange : Errno := ⟨34⟩
def enametoolong : Errno := ⟨36⟩
def enosys : Errno := ⟨38⟩
def enotempty : Errno := ⟨39⟩
def enotsock : Errno := ⟨88⟩
def eopnotsupp : Errno := ⟨95⟩
def eafnosupport : Errno := ⟨97⟩
def etimedout : Errno := ⟨110⟩

/-- Number, symbol, description, and the system's text. -/
def table : List (Nat × String × String × String) :=
  [(1, "EPERM", "Operation not permitted", "Operation not permitted"),
   (2, "ENOENT", "No such file or directory", "No such file or directory"),
   (3, "ESRCH", "No such process", "No such process"),
   (4, "EINTR", "Interrupted system call", "Interrupted system call"),
   (5, "EIO", "I/O error", "Input/output error"),
   (8, "ENOEXEC", "Exec format error", "Exec format error"),
   (9, "EBADF", "Bad file number", "Bad file descriptor"),
   (10, "ECHILD", "No child processes", "No child processes"),
   (11, "EAGAIN", "Try again", "Resource temporarily unavailable"),
   (12, "ENOMEM", "Out of memory", "Cannot allocate memory"),
   (13, "EACCES", "Permission denied", "Permission denied"),
   (14, "EFAULT", "Bad address", "Bad address"),
   (16, "EBUSY", "Device or resource busy", "Device or resource busy"),
   (20, "ENOTDIR", "Not a directory", "Not a directory"),
   (21, "EISDIR", "Is a directory", "Is a directory"),
   (22, "EINVAL", "Invalid argument", "Invalid argument"),
   (27, "EFBIG", "File too large", "File too large"),
   (32, "EPIPE", "Broken pipe", "Broken pipe"),
   (38, "ENOSYS", "Function not implemented", "Function not implemented")]

/-- The symbol of an error number and its description. -/
def describe (e : Errno) : String :=
  match table.lookup e.code with
  | some (symbol, description, _) => symbol ++ ": " ++ description
  | none => "UnknownErrno: Unknown errno"

/-- The symbol of an error number. -/
def symbol (e : Errno) : String :=
  match table.lookup e.code with
  | some (symbol, _) => symbol
  | none => "UnknownErrno"

/-- The system's text for an error number. -/
def text (e : Errno) : String :=
  match table.lookup e.code with
  | some (_, _, text) => text
  | none => "Unknown error " ++ Numeral.decimal e.code

/-- The system's text for an error number, with the number. -/
def systemText (e : Errno) : String :=
  e.text ++ " (os error " ++ Numeral.decimal e.code ++ ")"

end Errno

/-- A signal, by its number. -/
structure Signal where
  number : Nat
  deriving DecidableEq

namespace Signal

/-- The names of the signals, from number 1 on. -/
def names : List String :=
  ["SIGHUP", "SIGINT", "SIGQUIT", "SIGILL", "SIGTRAP", "SIGABRT", "SIGBUS", "SIGFPE",
   "SIGKILL", "SIGUSR1", "SIGSEGV", "SIGUSR2", "SIGPIPE", "SIGALRM", "SIGTERM",
   "SIGSTKFLT", "SIGCHLD", "SIGCONT", "SIGSTOP", "SIGTSTP", "SIGTTIN", "SIGTTOU",
   "SIGURG", "SIGXCPU", "SIGXFSZ", "SIGVTALRM", "SIGPROF", "SIGWINCH", "SIGIO",
   "SIGPWR", "SIGSYS"]

def name (s : Signal) : String := names.getD (s.number - 1) ""

/-- The signal with a given name. -/
def ofName? (text : String) : Option Signal :=
  (names.findIdx? (· == text)).map fun i => ⟨i + 1⟩

def sigint : Signal := ⟨2⟩
def sigill : Signal := ⟨4⟩
def sigtrap : Signal := ⟨5⟩
def sigfpe : Signal := ⟨8⟩
def sigbus : Signal := ⟨7⟩
def sigkill : Signal := ⟨9⟩
def sigsegv : Signal := ⟨11⟩
def sigchld : Signal := ⟨17⟩
def sigcont : Signal := ⟨18⟩
def sigstop : Signal := ⟨19⟩

end Signal

end SourceDebugger
