/-
  The signals of a process: those that it has not got yet, and those that it
  does not want to get now.

  * `Signals.send` adds a signal, `Signals.take?` gives the next one that the
    process gets;
  * `SignalEffect.of` is what a signal does to a process that does not handle
    it.
-/
import SourceDebugger.Bytes

namespace SourceDebugger.Machine

/-- What a signal does to a process that does not handle it. -/
inductive SignalEffect where
  | terminate
  | suspend
  | nothing
  deriving DecidableEq

/-- The effect of a signal by default. -/
def SignalEffect.of (s : Signal) : SignalEffect :=
  if s.number ∈ [17, 18, 23, 28] then .nothing
  else if s.number ∈ [19, 20, 21, 22] then .suspend
  else .terminate

/-- A signal that was sent. -/
structure SentSignal where
  signal : Signal
  code : Int
  /-- It was sent to a thread, not to its process. -/
  isDirect : Bool
  deriving DecidableEq

structure Signals where
  sent : List SentSignal := []
  /-- A bit for each signal that has to wait, from number 1 on. -/
  blocked : Nat := 0
  /-- What the process wants to be done about signals, by their numbers, as it
      has said it. -/
  actions : List (Nat × List UInt8) := []

namespace Signals

/-- The bit of a signal in a set of signals. -/
def bit (s : Signal) : Nat := 2 ^ (s.number - 1)

/-- Signals that cannot be blocked or handled. -/
def unblockable : Nat := bit .sigkill + bit .sigstop

/-- A set of signals without those of another one. -/
def without (a b : Nat) : Nat := a - (a &&& b)

def blocks (g : Signals) (s : Signal) : Bool := g.blocked.testBit (s.number - 1)

/-- Adds a signal.  One that waits already does not wait twice, unless its number
    is one of those that queue. -/
def send (g : Signals) (s : SentSignal) : Signals :=
  let isThere := g.sent.any fun t => t.signal = s.signal && t.isDirect = s.isDirect
  if isThere && s.signal.number < 32 then g else { g with sent := g.sent ++ [s] }

/-- The set of the signals that wait. -/
def waiting (g : Signals) : Nat :=
  (g.sent.filter fun s => g.blocks s.signal).foldl (fun set s => set ||| bit s.signal) 0

/-- The one of two signals that a process gets first. -/
def earlier (a b : SentSignal) : SentSignal :=
  if a.isDirect = b.isDirect then if b.signal.number < a.signal.number then b else a
  else if a.isDirect then a else b

/-- The next signal that the process gets. -/
def take? (g : Signals) : Option (SentSignal × Signals) :=
  match g.sent.filter fun s => !g.blocks s.signal with
  | [] => none
  | s :: rest =>
    let first := rest.foldl earlier s
    some (first, { g with sent := g.sent.erase first })

/-- A fault cannot wait: its signal is not blocked any more. -/
def force (g : Signals) (s : Signal) : Signals :=
  { g with blocked := without g.blocked (bit s) }

/-- The number that stands for a signal that is to be ignored. -/
def ignoring : Nat := 1

/-- A process does not want a signal. -/
def ignores (g : Signals) (s : Signal) : Bool :=
  match g.actions.lookup s.number with
  | some action => ByteOrder.little.number (action.take 8) = ignoring
  | none => false

/-- Another program is started, which handles no signals yet. -/
def execute (g : Signals) : Signals :=
  { g with actions := g.actions.filter fun (n, _) => g.ignores ⟨n⟩ }

end Signals

end SourceDebugger.Machine
