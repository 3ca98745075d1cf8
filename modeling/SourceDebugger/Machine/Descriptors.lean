/-
  What a process has open: streams by number.

  * `Descriptors.stream?` finds a stream, `Descriptors.insert` gives one the
    lowest number that is free;
  * `Descriptors.execute` closes what does not outlive the program.
-/
import SourceDebugger.Errno

namespace SourceDebugger.Machine

inductive Stream where
  /-- An input that has ended. -/
  | nothing
  /-- The standard output or error, by its number. -/
  | output (stream : Nat)
  /-- The end of a pipe that is read. -/
  | reader (pipe : Nat)
  /-- The end of a pipe that is written. -/
  | writer (pipe : Nat)
  /-- A file, by its position among those that were opened. -/
  | file (number : Nat)
  /-- Something that has no bytes. -/
  | special
  deriving DecidableEq

/-- A file that was opened. -/
structure OpenFile where
  /-- The path from the root, as its parts. -/
  parts : List String
  isDirectory : Bool
  /-- The flags with which it was opened. -/
  flags : Nat
  position : Nat := 0
  deriving DecidableEq

namespace OpenFile

/-- The way of access: 0 to read, 1 to write, 2 for both. -/
def access (f : OpenFile) : Nat := f.flags % 4

def canRead (f : OpenFile) : Bool := f.access = 0 || f.access = 2

def canWrite (f : OpenFile) : Bool := f.access = 1 || f.access = 2

/-- What is written goes to the end. -/
def appends (f : OpenFile) : Bool := f.flags.testBit 10

end OpenFile

structure Descriptors where
  streams : List (Nat × Stream) := [(0, .nothing), (1, .output 1), (2, .output 2)]
  /-- The numbers that are closed when another program is started. -/
  closing : List Nat := []
  /-- The bytes that are written to pipes and not yet read. -/
  pipes : List (List UInt8) := []
  files : List OpenFile := []

namespace Descriptors

/-- The largest number of streams. -/
def limit : Nat := 20000

def stream? (d : Descriptors) (n : Int) : Option Stream :=
  if n < 0 then none else d.streams.lookup n.toNat

def close (d : Descriptors) (n : Nat) : Descriptors :=
  { d with
    streams := d.streams.filter fun (m, _) => m ≠ n
    closing := d.closing.filter (· ≠ n) }

/-- Sets whether a number is closed when another program is started. -/
def setClosing (d : Descriptors) (n : Nat) (value : Bool) : Descriptors :=
  let others := d.closing.filter (· ≠ n)
  { d with closing := if value then n :: others else others }

def insertAt (d : Descriptors) (n : Nat) (s : Stream) : Descriptors :=
  { d.close n with streams := (n, s) :: (d.close n).streams }

/-- The lowest number that is free, from `low` on. -/
def free? (d : Descriptors) (low : Nat) : Option Nat :=
  let numbers := (List.range (d.streams.length + 1)).map (low + ·)
  (numbers.find? fun n => (d.streams.lookup n).isNone).filter (· < limit)

/-- Opens a stream, with the lowest number that is free. -/
def insert (d : Descriptors) (s : Stream) : Except Errno (Nat × Descriptors) :=
  match d.free? 0 with
  | some n => .ok (n, d.insertAt n s)
  | none => .error .emfile

def isRead (d : Descriptors) (pipe : Nat) : Bool := d.streams.any fun (_, s) => s = .reader pipe

def isWritten (d : Descriptors) (pipe : Nat) : Bool := d.streams.any fun (_, s) => s = .writer pipe

/-- The file behind a stream. -/
def file? (d : Descriptors) : Stream → Option OpenFile
  | .file n => d.files[n]?
  | _ => none

/-- Another program is started. -/
def execute (d : Descriptors) : Descriptors := d.closing.foldl (·.close ·) d

end Descriptors

end SourceDebugger.Machine
