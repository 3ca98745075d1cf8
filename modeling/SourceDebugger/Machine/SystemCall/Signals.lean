/-
  Requests of a process that concern signals.

  * `Call.send` sends a signal to a process;
  * `Call.onSignals?` is the request with a number.
-/
import SourceDebugger.Machine.SystemCall.Time

namespace SourceDebugger.Machine.Call

/-- The largest number of a signal. -/
def lastSignal : Int := 64

/-- The size of a set of signals. -/
def signalSetSize : Nat := 8

def changeSignals (f : Signals → Signals) : Call Unit :=
  modify fun p => { p with signals := f p.signals }

/-! ## Sending -/

/-- The first process of the system. -/
def firstPid : Int := 1

/-- Sends a signal to a process; number 0 only asks whether it could be sent.  Of
    the others only the first process and the parent can be reached, and the first
    one takes no signals. -/
def send (pid signal code : Int) (isDirect : Bool) : Call Int := do
  let p ← get
  let parent := p.parent.map Int.ofNat
  ensure (pid = p.pid || pid = firstPid || some pid = parent) .esrch
  ensure (0 ≤ signal && signal ≤ lastSignal) .einval
  let sent : SentSignal := ⟨⟨signal.toNat⟩, code, isDirect⟩
  if signal ≠ 0 then
    if pid = p.pid then changeSignals (·.send sent)
    else if some pid = parent then modify fun p => { p with toParent := p.toParent ++ [sent] }
  return 0

/-- Sends a signal to a process, or to those of a group. -/
def kill (pid signal : Int) : Call Int := do
  let p ← get
  if pid = -1 then
    ensure (0 ≤ signal && signal ≤ lastSignal) .einval
    return 0
  let isGroup := pid = 0 || (pid = -(p.pid : Int) && p.traits.leadsGroup)
  send (if isGroup then p.pid else pid) signal 0 false

/-- Sends a signal to a thread. -/
def killThread (tid signal : Int) : Call Int := do
  ensure (0 < tid) .einval
  send tid signal (-6) true

/-- Sends a signal to a thread of a process. -/
def killThreadOf (pid tid signal : Int) : Call Int := do
  ensure (0 < pid && 0 < tid) .einval
  ensure (pid = tid) .esrch
  killThread tid signal

/-- The number of bytes of what is told about a signal. -/
def informationSize : Nat := 128

/-- What a process says that a signal is told with: its code.  That of other senders
    cannot be told to others. -/
def loadCode (pid : Int) (information : Addr) : Call Int := do
  let bytes ← load information informationSize
  let code := Width.long.signed (ByteOrder.little.number ((bytes.drop 8).take 4))
  ensure (pid = (← inspect (·.pid)) || (code < 0 && code ≠ -6)) .eperm
  return code

/-- Sends a signal with what it is told with. -/
def queue (pid signal : Int) (information : Addr) : Call Int := do
  let code ← loadCode pid information
  ensure (0 < pid) .esrch
  send pid signal code false

def queueThread (pid tid signal : Int) (information : Addr) : Call Int := do
  let code ← loadCode tid information
  ensure (0 < pid && 0 < tid) .einval
  ensure (pid = tid) .esrch
  send tid signal code true

/-! ## Receiving -/

/-- Changes the set of signals that have to wait, and tells the old one. -/
def block (how : Int) (new old : Addr) (size : UInt64) : Call Int := do
  ensure (size.toNat = signalSetSize) .einval
  let before ← inspect (·.signals.blocked)
  if new ≠ 0 then
    let set ← loadNumber new signalSetSize
    let set := Signals.without set Signals.unblockable
    match how with
    | 0 => changeSignals ({ · with blocked := before ||| set })
    | 1 => changeSignals ({ · with blocked := Signals.without before set })
    | 2 => changeSignals ({ · with blocked := set })
    | _ => throw .einval
  if old ≠ 0 then store old (littleBytes signalSetSize before)
  return 0

/-- Tells which signals have to wait. -/
def pending (a : Addr) (size : UInt64) : Call Int := do
  ensure (size.toNat ≤ signalSetSize) .einval
  store a (littleBytes size.toNat (← inspect (·.signals.waiting)))
  return 0

/-- The size of what a process says about a signal. -/
def actionSize : Nat := 32

/-- Changes what is to be done about a signal, and tells what it was. -/
def handle (signal : Int) (new old : Addr) (size : UInt64) : Call Int := do
  ensure (size.toNat = signalSetSize) .einval
  let action ← if new = 0 then pure none else some <$> load new actionSize
  let isFixed := signal = Signal.sigkill.number || signal = Signal.sigstop.number
  ensure (0 < signal && signal ≤ lastSignal && !(isFixed && action.isSome)) .einval
  let actions ← inspect (·.signals.actions)
  let before := (actions.lookup signal.toNat).getD (List.replicate actionSize 0)
  match action with
  | some action =>
    changeSignals ({ · with
      actions := (signal.toNat, action) :: actions.filter fun (n, _) => n ≠ signal.toNat })
  | none => pure ()
  if old ≠ 0 then store old before
  return 0

/-- Takes a signal out of those of a set that wait, or waits for one. -/
def await (set information time : Addr) (size : UInt64) : Call Int := do
  ensure (size.toNat = signalSetSize) .einval
  let set ← loadNumber set signalSetSize
  let time ← if time = 0 then pure none else some <$> loadTime time second
  let sent ← inspect (·.signals.sent)
  match sent.find? fun s => set.testBit (s.signal.number - 1) with
  | some found =>
    changeSignals fun g => { g with sent := g.sent.erase found }
    if information ≠ 0 then
      store information (littleBytes 4 found.signal.number ++ littleBytes 4 0 ++
        littleBytes 4 (Width.long.ofInt found.code) ++ List.replicate 116 0)
    return found.signal.number
  | none =>
    match ← wait time with
    | some _ => throw .eintr
    | none => throw .eagain

/-! ## The stack of signals -/

/-- The smallest size of a stack for signals. -/
def smallestStack : Nat := 2048

/-- Changes the memory on which signals are handled, and tells the old one. -/
def changeStack (new old : Addr) : Call Int := do
  let before := (← traits).signalStack
  let after ← if new = 0 then pure before else do
    let bytes ← load new 24
    let start := Word.ofBytes (bytes.take 8)
    let flags := ByteOrder.little.number ((bytes.drop 8).take 4)
    let size := ByteOrder.little.number (bytes.drop 16)
    let kind := flags % 2 ^ 31
    ensure (kind < 3) .einval
    ensure (kind = 2 || smallestStack ≤ size) .enomem
    pure (if kind = 2 then { flags := flags : SignalStack } else ⟨start, flags, size⟩)
  changeTraits ({ · with signalStack := after })
  if old ≠ 0 then
    let flags := before.flags / 2 ^ 31 * 2 ^ 31 + if before.size = 0 then 2 else 0
    store old (Word.bytes before.start ++ littleBytes 8 flags ++ littleBytes 8 before.size)
  return 0

/-! ## All requests -/

/-- The request about signals with a number. -/
def onSignals? (number : Nat) (x : Arguments) : Option (Call Int) :=
  match number with
  | 13 => some (handle x.a32 x.b x.c x.d)
  | 14 => some (block x.a32 x.b x.c x.d)
  | 62 => some (kill x.a32 x.b32)
  | 127 => some (pending x.a x.b)
  | 128 => some (await x.a x.b x.c x.d)
  | 129 => some (queue x.a32 x.b32 x.c)
  | 130 => some do
    ensure (x.b.toNat = signalSetSize) .einval
    let _ ← load x.a signalSetSize
    pause
  | 131 => some (changeStack x.a x.b)
  | 200 => some (killThread x.a32 x.b32)
  | 234 => some (killThreadOf x.a32 x.b32 x.c32)
  | 297 => some (queueThread x.a32 x.b32 x.c32 x.d)
  | _ => none

end SourceDebugger.Machine.Call
