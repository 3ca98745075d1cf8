/-
  Processes as the kernel keeps them.

  * `Child` is a process: its program, and what the kernel knows of it;
  * `Call` is a computation of the kernel for a process, which ends with a
    number or an error number; `Call.load` and `Call.store` access the memory
    of the process;
  * `Arguments` are those of a request.
-/
import SourceDebugger.Machine.Descriptors
import SourceDebugger.Machine.Image
import SourceDebugger.Machine.Signals
import SourceDebugger.Machine.Traits

namespace SourceDebugger.Machine

/-- A process that has ended, and that its parent has not waited for. -/
structure Ended where
  pid : Nat
  /-- How it has ended, as it is told to the parent. -/
  status : Nat
  /-- The parent has got the signal that tells it. -/
  isNoticed : Bool
  deriving DecidableEq

/-- A timer that sends a signal. -/
structure Alarm where
  /-- The time until then, in nanoseconds. -/
  rest : Nat
  /-- The time until the next signal; zero if there is none. -/
  interval : Nat := 0

structure Child where
  pid : Nat
  /-- The number that the next process gets. -/
  nextPid : Nat := pid + 1
  /-- The files that programs are started from. -/
  files : FileTree
  /-- The executable the process was launched with. -/
  executable : String
  thread : Thread
  isTraced : Bool := true
  isAlive : Bool := true
  /-- The process stops behind each instruction. -/
  isStepping : Bool := false
  /-- The trap flag is set for steps, and nobody is to see it. -/
  hidesTrap : Bool := false
  signals : Signals := {}
  descriptors : Descriptors := {}
  /-- The memory behind the program that it has asked for. -/
  heapStart : Nat := 0
  heapStop : Nat := 0
  /-- The permissions that new files do not get. -/
  fileMask : Nat := 0o22
  traits : Traits := {}
  alarm : Option Alarm := none
  /-- What is left of a sleep that a signal has ended, in nanoseconds. -/
  sleep : Option Nat := none
  /-- The processes that it has started and that have ended. -/
  ended : List Ended := []
  /-- The process that has started it, if it is one of these processes. -/
  parent : Option Nat := none
  /-- The signals that it has sent to that one. -/
  toParent : List SentSignal := []
  /-- It uses the memory of its parent. -/
  sharesMemory : Bool := false
  /-- That memory, as it was when the process has left it. -/
  leftMemory : Option AddressSpace := none
  /-- A change of state that nobody has waited for yet. -/
  report : Option Report := none
  /-- What the process has written and nobody has read yet. -/
  output : List (Nat × List UInt8) := []
  /-- How an untraced process has ended. -/
  ending : Option Report := none
  /-- How many instructions it may still execute. -/
  budget : Nat := 10000000

namespace Child

def get (p : Child) (r : Register) : UInt64 := p.thread.get r

def setRegister (p : Child) (r : Register) (v : UInt64) : Child :=
  { p with thread := p.thread.set r v }

/-- The process is gone. -/
def finish (p : Child) : Child := { p with isAlive := false }

/-- The process of a program that has just been started. -/
def ofProgram (pid : Nat) (files : FileTree) (image : Image) (thread : Thread) : Child :=
  { pid, files, executable := image.path, thread, heapStart := image.heapStart
    heapStop := image.heapStart }

end Child

/-- A computation of the kernel for a process. -/
abbrev Call : Type → Type := ExceptT Errno (StateM Child)

namespace Call

/-- An argument of 32 bits. -/
def int (v : UInt64) : Int := Width.long.signed v.toNat

def inspect {α : Type} (f : Child → α) : Call α := do return f (← get)

/-- Bytes of the process. -/
def load (a : Addr) (n : Nat) : Call (List UInt8) := do
  match (← inspect (·.thread.memory.grow a)).load .read a n with
  | .ok bs => return bs
  | .error _ => throw .efault

/-- A number of `n` bytes. -/
def loadNumber (a : Addr) (n : Nat) : Call Nat := do
  return ByteOrder.little.number (← load a n)

def store (a : Addr) (bs : List UInt8) : Call Unit := do
  match (← inspect (·.thread.memory.grow a)).store a bs with
  | .ok memory => modify fun p => { p with thread := { p.thread with memory } }
  | .error _ => throw .efault

/-- Bytes up to a zero byte. -/
def loadText (a : Addr) : Call (List UInt8) := do
  let bytes := (← inspect (·.thread.memory)).accessible .read a pageSize
  if bytes.contains 0 then return bytes.takeWhile (· ≠ 0)
  if bytes.length = pageSize then throw .enametoolong else throw .efault

def ensure (condition : Bool) (e : Errno) : Call Unit :=
  if condition then pure () else throw e

def changeTraits (f : Traits → Traits) : Call Unit :=
  modify fun p => { p with traits := f p.traits }

def traits : Call Traits := inspect (·.traits)

/-- Stores a number of `n` bytes, unless the address is zero. -/
def tell (a : Addr) (n value : Nat) : Call Unit := do
  if a ≠ 0 then store a (littleBytes n value)

/-- Stores zeros where the kernel would tell about the machine. -/
def tellZeros (a : Addr) (n : Nat) : Call Unit := store a (List.replicate n 0)

end Call

/-- The arguments of a request. -/
structure Arguments where
  a : UInt64
  b : UInt64
  c : UInt64
  d : UInt64
  e : UInt64
  f : UInt64

namespace Arguments

variable (x : Arguments)

/-- The arguments of 32 bits. -/
def a32 : Int := Call.int x.a

def b32 : Int := Call.int x.b

def c32 : Int := Call.int x.c

def d32 : Int := Call.int x.d

def e32 : Int := Call.int x.e

end Arguments

end SourceDebugger.Machine
