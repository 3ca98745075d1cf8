/-
  Requests of a process that concern time.  Time passes only while a process
  waits.

  * `Call.wait` lets a process wait, until a signal comes;
  * `Call.onTime?` is the request with a number.
-/
import SourceDebugger.Machine.Child

namespace SourceDebugger.Machine.Call

/-- The nanoseconds of a second. -/
def second : Nat := 1000000000

/-! ## Waiting -/

/-- The errors that ask for the request to be made again: with a new time, or as it
    was. -/
def againWithRest : Errno := ⟨516⟩

def again : Errno := ⟨514⟩

/-- The code of the signal that tells the end of a process, by its status. -/
def endCode (status : Nat) : Int := if status % 128 = 0 then 1 else 2

/-- The ends of processes that have not been told yet are told. -/
def notice : Call Unit := do
  let news := (← inspect (·.ended)).filter (!·.isNoticed)
  modify fun p => { p with
    ended := p.ended.map ({ · with isNoticed := true })
    signals := news.foldl (fun g e => g.send ⟨.sigchld, endCode e.status, false⟩) p.signals }

/-- A signal is there that the process gets. -/
def isInterrupted : Call Bool := inspect fun p => p.signals.take?.isSome

/-- Lets some nanoseconds pass. -/
def pass (time : Nat) : Call Unit :=
  modify fun p => { p with alarm := p.alarm.map fun a => { a with rest := a.rest - time } }

/-- The timer sends its signal. -/
def ring (a : Alarm) : Call Unit :=
  modify fun p => { p with
    alarm := if a.interval = 0 then none else some { a with rest := a.interval }
    signals := p.signals.send ⟨⟨14⟩, 128, false⟩ }

/-- Waits for some nanoseconds, or without an end, but not longer than until a
    signal comes: then what is left of the time. -/
def wait (time : Option Nat) : Call (Option Nat) := do
  notice
  if ← isInterrupted then return some (time.getD 0)
  match ← inspect (·.alarm) with
  | some a =>
    if time.all (a.rest < ·) then
      ring a
      return some (time.getD 0 - a.rest)
    else
      pass (time.getD 0)
      return none
  | none => return none

/-- Sleeps for some nanoseconds.  A signal ends the sleep, and what is left of it
    is kept. -/
def sleepFor (time : Nat) (rest : Addr) : Call Int := do
  match ← wait (some time) with
  | none => return 0
  | some left =>
    if rest ≠ 0 then
      store rest (littleBytes 8 (left / second) ++ littleBytes 8 (left % second))
    modify ({ · with sleep := some left })
    throw againWithRest

/-- Goes on with a sleep. -/
def sleepOn : Call Int := do
  match ← inspect (·.sleep) with
  | some left => sleepFor left 0
  | none => throw .eintr

/-- Waits for a signal. -/
def pause : Call Int := do
  match ← wait none with
  | some _ => throw again
  | none => throw .eintr

/-! ## Times -/

/-- The nanoseconds of a time: seconds, and nanoseconds or microseconds, a whole
    second of which has `parts`. -/
def loadTime (a : Addr) (parts : Nat) : Call Nat := do
  let bytes ← load a 16
  let seconds := ByteOrder.little.number (bytes.take 8)
  let rest := ByteOrder.little.number (bytes.drop 8)
  ensure (seconds < 2 ^ 63 && rest < parts) .einval
  return seconds * second + rest * (second / parts)

/-- The bytes of a time in seconds and microseconds. -/
def timeBytes (time : Nat) : List UInt8 :=
  littleBytes 8 (time / second) ++ littleBytes 8 (time % second / 1000)

/-- The clocks that can be read. -/
def clocks : List Int := [0, 1, 2, 3, 4, 5, 6, 7, 8, 9, 11]

/-- Sleeps for a time of a clock. -/
def sleepByClock (clock flags : Int) (time rest : Addr) : Call Int := do
  ensure (clocks.contains clock && clock ≠ 3) .einval
  ensure (!([4, 5, 6] : List Int).contains clock) .eopnotsupp
  let time ← loadTime time second
  if flags % 2 = 1 then return 0
  sleepFor time rest

/-- The seconds of a time, rounded, but not to zero. -/
def roundedSeconds (time : Nat) : Nat :=
  if 0 < time ∧ time < second then 1 else (time + second / 2) / second

/-- Sets the timer, and tells the seconds that were left. -/
def setAlarm (seconds : UInt64) : Call Int := do
  let left := ((← inspect (·.alarm)).map (·.rest)).getD 0
  let seconds := seconds.toNat % 2 ^ 32
  modify ({ · with alarm := if seconds = 0 then none else some { rest := seconds * second } })
  return roundedSeconds left

/-- The bytes of the timer, the time until the next signal first. -/
def alarmBytes (alarm : Option Alarm) : List UInt8 :=
  match alarm with
  | some a => timeBytes a.interval ++ timeBytes a.rest
  | none => List.replicate 32 0

def tellAlarm (kind : Int) (a : Addr) : Call Int := do
  ensure (0 ≤ kind && kind < 3) .einval
  let alarm ← inspect (·.alarm)
  store a (alarmBytes (if kind = 0 then alarm else none))
  return 0

/-- Sets a timer; those that measure the time of computing never end. -/
def setTimer (kind : Int) (new old : Addr) : Call Int := do
  let alarm ← if new = 0 then pure none else do
    let interval ← loadTime new 1000000
    let rest ← loadTime (new + 16) 1000000
    pure (if rest = 0 then none else some { rest, interval : Alarm })
  ensure (0 ≤ kind && kind < 3) .einval
  let before ← inspect (·.alarm)
  if kind = 0 then modify ({ · with alarm })
  if old ≠ 0 then store old (alarmBytes (if kind = 0 then before else none))
  return 0

/-! ## All requests -/

/-- The request about time with a number. -/
def onTime? (number : Nat) (x : Arguments) : Option (Call Int) :=
  match number with
  | 34 => some pause
  | 35 => some do sleepFor (← loadTime x.a second) x.b
  | 36 => some (tellAlarm x.a32 x.b)
  | 37 => some (setAlarm x.a)
  | 38 => some (setTimer x.a32 x.b x.c)
  | 96 => some do
    if x.a ≠ 0 then tellZeros x.a 16
    if x.b ≠ 0 then tellZeros x.b 8
    return 0
  | 100 => some do
    if x.a ≠ 0 then tellZeros x.a 32
    return 0
  | 201 => some do
    if x.a ≠ 0 then tellZeros x.a 8
    return 0
  | 219 => some sleepOn
  | 228 => some do
    ensure (clocks.contains x.a32) .einval
    tellZeros x.b 16
    return 0
  | 229 => some do
    ensure (clocks.contains x.a32) .einval
    if x.b ≠ 0 then store x.b (littleBytes 16 (2 ^ 64))
    return 0
  | 230 => some (sleepByClock x.a32 x.b32 x.c x.d)
  | _ => none

end SourceDebugger.Machine.Call
