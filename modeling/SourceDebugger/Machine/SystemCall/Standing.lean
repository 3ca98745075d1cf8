/-
  Requests of a process that concern itself: for whom it acts, how it is treated,
  and what it may use.

  * `Call.onStanding?` is the request with a number.
-/
import SourceDebugger.Machine.Child

namespace SourceDebugger.Machine.Call

/-! ## Users and groups -/

/-- The process may act for anybody. -/
def isPrivileged : Call Bool := do return (← traits).users.effective = 0

/-- The user, or the group, that an argument names; none if nothing is to
    change. -/
def identityOf (n : Int) : Option Nat := if n = -1 then none else some (Width.long.ofInt n)

/-- Acts for somebody. -/
def setIdentity (i : Identity) (n : Int) : Call Identity := do
  let some n := identityOf n | throw .einval
  if ← isPrivileged then return ⟨n, n, n, n⟩
  ensure (n = i.real || n = i.saved) .eperm
  return i.setEffective n

def setRealEffective (i : Identity) (real effective : Int) : Call Identity := do
  let (real, effective) := (identityOf real, identityOf effective)
  let isFree ← isPrivileged
  ensure (isFree || real.all fun n => n = i.real || n = i.effective) .eperm
  ensure (isFree || effective.all i.includes) .eperm
  let new := { i.setEffective (effective.getD i.effective) with real := real.getD i.real }
  let isSaved := real.isSome || effective.any (· ≠ i.real)
  return { new with saved := if isSaved then new.effective else i.saved }

def setAll (i : Identity) (real effective saved : Int) : Call Identity := do
  let (real, effective, saved) := (identityOf real, identityOf effective, identityOf saved)
  let isFree ← isPrivileged
  ensure (isFree || [real, effective, saved].all fun n => n.all i.includes) .eperm
  return { i.setEffective (effective.getD i.effective) with
    real := real.getD i.real, saved := saved.getD i.saved }

/-- Tells the three numbers. -/
def tellAll (i : Identity) (real effective saved : Addr) : Call Int := do
  store real (littleBytes 4 i.real)
  store effective (littleBytes 4 i.effective)
  store saved (littleBytes 4 i.saved)
  return 0

def setUsers (f : Identity → Call Identity) : Call Int := do
  let users ← f (← traits).users
  changeTraits ({ · with users })
  return 0

def setGroups (f : Identity → Call Identity) : Call Int := do
  let groups ← f (← traits).groups
  changeTraits ({ · with groups })
  return 0

/-- Sets the one that counts for files, if that may be, and tells the old one. -/
def forFiles (i : Identity) (n : Int) : Call (Int × Identity) := do
  let new := Width.long.ofInt n
  let isFree ← isPrivileged
  let may := n ≠ -1 && (isFree || i.includes new || new = i.forFiles)
  return (i.forFiles, if may then { i with forFiles := new } else i)

/-! ## Processes -/

def pid : Call Int := do return (← get).pid

/-- The number that stands for what the process belongs to and does not lead. -/
def foreignPid : Call Int := do return (← get).pid - 1

def processGroup : Call Int := do
  if (← traits).leadsGroup then pid else foreignPid

def session : Call Int := do
  if (← traits).leadsSession then pid else foreignPid

/-- An answer about a process, of which only this one is known. -/
def about (n : Int) (act : Call Int) : Call Int := do
  ensure (n = 0 || n = (← pid)) .esrch
  act

/-- Starts a session. -/
def startSession : Call Int := do
  ensure (!(← traits).leadsGroup) .eperm
  changeTraits ({ · with leadsGroup := true, leadsSession := true })
  pid

def setProcessGroup (n group : Int) : Call Int := do
  let own ← pid
  ensure (0 ≤ group) .einval
  ensure (n = 0 || n = own) .esrch
  ensure (!(← traits).leadsSession) .eperm
  ensure (group = 0 || group = own) .eperm
  changeTraits ({ · with leadsGroup := true })
  return 0

/-! ## Scheduling -/

/-- Tells how nice a process is, counted downwards from 20. -/
def niceness (kind n : Int) : Call Int := do
  ensure (0 ≤ kind && kind < 3) .einval
  ensure (n = 0 || (kind = 0 && n = (← pid))) .esrch
  return 20 - (← traits).niceness

def setNiceness (kind n value : Int) : Call Int := do
  ensure (0 ≤ kind && kind < 3) .einval
  ensure (n = 0 || (kind = 0 && n = (← pid))) .esrch
  changeTraits ({ · with niceness := min 19 (max (-20) value) })
  return 0

/-- The priorities of the ways of scheduling: the lowest and the highest one. -/
def prioritiesOf (policy : Int) : Call (Int × Int) :=
  match policy with
  | 1 | 2 => return (1, 99)
  | 0 | 3 | 5 | 6 | 7 => return (0, 0)
  | _ => throw .einval

/-- A question about the scheduling of a process. -/
def aboutScheduling (n : Int) (act : Call Int) : Call Int := do
  ensure (0 ≤ n) .einval
  about n act

/-! ## Limits -/

def limitOf (n : Int) : Call Limit := do
  let limits := (← traits).limits
  match if n < 0 then none else limits[n.toNat]? with
  | some limit => return limit
  | none => throw .einval

def limitBytes (l : Limit) : List UInt8 := littleBytes 8 l.current ++ littleBytes 8 l.largest

def loadLimit (a : Addr) : Call Limit := do
  return ⟨← loadNumber a 8, ← loadNumber (a + 8) 8⟩

def setLimit (n : Int) (limit : Limit) : Call Unit := do
  let _ ← limitOf n
  ensure (limit.current ≤ limit.largest) .einval
  changeTraits fun t => { t with limits := t.limits.set n.toNat limit }

/-- Sets a limit, and tells the old one. -/
def changeLimit (n kind : Int) (new old : Addr) : Call Int := do
  let limit ← if new = 0 then pure none else some <$> loadLimit new
  about n do
    let before ← limitOf kind
    match limit with
    | some limit => setLimit kind limit
    | none => pure ()
    if old ≠ 0 then store old (limitBytes before)
    return 0

/-! ## Traits -/

/-- The name of the program. -/
def programName : Call (List UInt8) := do
  let name := (← traits).name
  if !name.isEmpty then return name
  let parts := FileTree.partsOf (← inspect (·.executable))
  return ((parts.getLast?.getD "").toUTF8.toList).take 15

/-- Sets something that can be on or off. -/
def setSwitch (value : UInt64) (f : Bool → Traits → Traits) : Call Int := do
  ensure (value < 2) .einval
  changeTraits (f (value = 1))
  return 0

def ofSwitch (b : Bool) : Int := if b then 1 else 0

/-- Tells or changes what the process has told about itself. -/
def trait (x : Arguments) : Call Int := do
  let rest := x.c = 0 && x.d = 0 && x.e = 0
  match x.a32 with
  | 1 =>
    ensure (x.b ≤ 64) .einval
    changeTraits ({ · with deathSignal := x.b.toNat })
    return 0
  | 2 =>
    store x.b (littleBytes 4 (← traits).deathSignal)
    return 0
  | 3 => return ofSwitch (← traits).isDumpable
  | 4 => setSwitch x.b fun b t => { t with isDumpable := b }
  | 7 => return ofSwitch (← traits).keepsRights
  | 8 => setSwitch x.b fun b t => { t with keepsRights := b }
  | 13 | 27 => return 0
  | 14 =>
    ensure (x.b = 0) .einval
    return 0
  | 15 =>
    let bytes := (← inspect (·.thread.memory)).accessible .read x.b 15
    ensure (bytes.length = 15 || bytes.contains 0) .efault
    changeTraits ({ · with name := bytes.takeWhile (· ≠ 0) })
    return 0
  | 16 =>
    let name ← programName
    store x.b (name ++ List.replicate (16 - name.length) 0)
    return 0
  | 21 => return 0
  | 22 =>
    ensure (x.b = 1 || x.b = 2) .einval
    ensure (x.b = 1) .efault
    changeTraits ({ · with isStrict := true })
    return 0
  | 23 =>
    ensure (x.b ≤ 40) .einval
    return 1
  | 25 =>
    store x.b (littleBytes 4 1)
    return 0
  | 26 =>
    ensure (x.b = 1 || x.b = 2) .einval
    return 0
  | 29 =>
    changeTraits ({ · with slack := if Width.quad.signed x.b.toNat ≤ 0 then 50000 else x.b.toNat })
    return 0
  | 30 => return (← traits).slack
  | 34 =>
    ensure (x.b = 0 && rest) .einval
    return 2
  | 36 =>
    changeTraits ({ · with isReaper := x.b ≠ 0 })
    return 0
  | 37 =>
    store x.b (littleBytes 4 (ofSwitch (← traits).isReaper).toNat)
    return 0
  | 38 =>
    ensure (x.b = 1 && rest) .einval
    changeTraits ({ · with isConfined := true })
    return 0
  | 39 =>
    ensure (x.b = 0 && rest) .einval
    return ofSwitch (← traits).isConfined
  | 41 =>
    ensure (x.d = 0 && x.e = 0) .einval
    return 0
  | 42 =>
    ensure (x.b = 0 && rest) .einval
    return 0
  | _ => throw .einval

/-- Changes how the process is treated, and tells the old way. -/
def setPersonality (n : UInt64) : Call Int := do
  let old := (← traits).personality
  let new := n.toNat % 2 ^ 32
  if new ≠ 0xffffffff then changeTraits ({ · with personality := new })
  return old

/-- Changes the permissions that new files do not get, and tells the old ones. -/
def setFileMask (mask : Int) : Call Int := do
  let old ← inspect (·.fileMask)
  modify ({ · with fileMask := (mask % 0o1000).toNat })
  return old

/-- Reads or writes the base of a segment. -/
def segmentBase (command : Int) (a : UInt64) : Call Int := do
  let setBase (r : Register) : Call Int := do
    ensure (a.toNat < userTop) .eperm
    modify (·.setRegister r a)
    return 0
  let tell (r : Register) : Call Int := do
    store a (Word.bytes (← inspect (·.get r)))
    return 0
  match command with
  | 0x1001 => setBase .gs_base
  | 0x1002 => setBase .fs_base
  | 0x1003 => tell .fs_base
  | 0x1004 => tell .gs_base
  | 0x1011 => return 1
  | _ => throw .einval

/-! ## The machine -/

/-- Draws bytes. -/
def draw (a size : UInt64) (flags : Int) : Call Int := do
  ensure (0 ≤ flags && flags < 8 && flags % 8 < 6) .einval
  let count := min size.toNat (2 ^ 20)
  store a (List.replicate count 0x5a)
  return count

/-- The fields of the name of the system, each of 65 bytes. -/
def systemName : List String := ["Linux", "localhost", "6.1.0", "#1 SMP", "x86_64", "(none)"]

def nameBytes : List UInt8 :=
  systemName.flatMap fun field =>
    let bytes := field.toUTF8.toList
    bytes ++ List.replicate (65 - bytes.length) 0

/-- Waits for a change of a number in memory, or tells those that wait. -/
def futex (a : Addr) (operation : Int) (value : UInt64) (time : Addr) : Call Int := do
  let command := operation % 128
  let isPrivate := operation.toNat.testBit 7
  let value := value.toNat % 2 ^ 32
  match command with
  | 0 | 9 =>
    let time ← if time = 0 then pure false else do
      let bytes ← load time 16
      let rest := ByteOrder.little.number (bytes.drop 8)
      ensure ((ByteOrder.little.number (bytes.take 8)) < 2 ^ 63 && rest < 1000000000) .einval
      pure true
    ensure (a.toNat % 4 = 0) .einval
    ensure ((← loadNumber a 4) = value) .eagain
    if time then throw .etimedout else throw .eintr
  | 1 | 10 | 3 | 4 =>
    ensure (a.toNat % 4 = 0) .einval
    if !isPrivate then
      let _ ← load a 4
    return 0
  | _ => throw .enosys

/-! ## All requests -/

/-- The request about users and groups with a number. -/
def onIdentity? (number : Nat) (x : Arguments) : Option (Call Int) :=
  match number with
  | 102 => some do return (← traits).users.real
  | 104 => some do return (← traits).groups.real
  | 105 => some (setUsers (setIdentity · x.a32))
  | 106 => some (setGroups (setIdentity · x.a32))
  | 107 => some do return (← traits).users.effective
  | 108 => some do return (← traits).groups.effective
  | 113 => some (setUsers (setRealEffective · x.a32 x.b32))
  | 114 => some (setGroups (setRealEffective · x.a32 x.b32))
  | 115 => some do
    ensure (0 ≤ x.a32) .einval
    return 0
  | 116 => some do
    ensure (← isPrivileged) .eperm
    ensure (x.a.toNat % 2 ^ 32 ≤ 65536) .einval
    let _ ← load x.b (4 * (x.a.toNat % 2 ^ 32))
    return 0
  | 117 => some (setUsers (setAll · x.a32 x.b32 x.c32))
  | 118 => some do tellAll (← traits).users x.a x.b x.c
  | 119 => some (setGroups (setAll · x.a32 x.b32 x.c32))
  | 120 => some do tellAll (← traits).groups x.a x.b x.c
  | 122 => some do
    let (old, users) ← forFiles (← traits).users x.a32
    changeTraits ({ · with users })
    return old
  | 123 => some do
    let (old, groups) ← forFiles (← traits).groups x.a32
    changeTraits ({ · with groups })
    return old
  | _ => none

/-- The request about processes and their scheduling with a number. -/
def onProcesses? (number : Nat) (x : Arguments) : Option (Call Int) :=
  match number with
  | 24 => some (return 0)
  | 39 | 186 | 218 => some pid
  | 110 => some do return ((← inspect (·.parent)).map Int.ofNat).getD (← foreignPid)
  | 109 => some (setProcessGroup x.a32 x.b32)
  | 111 => some processGroup
  | 112 => some startSession
  | 121 => some (about x.a32 processGroup)
  | 124 => some (about x.a32 session)
  | 140 => some (niceness x.a32 x.b32)
  | 141 => some (setNiceness x.a32 x.b32 x.c32)
  | 142 => some do
    ensure (x.b ≠ 0) .einval
    aboutScheduling x.a32 do
      ensure ((← loadNumber x.b 4) = 0) .einval
      return 0
  | 143 => some do
    ensure (x.b ≠ 0) .einval
    aboutScheduling x.a32 do
      store x.b (littleBytes 4 0)
      return 0
  | 144 => some do
    ensure (x.c ≠ 0 && 0 ≤ x.b32) .einval
    aboutScheduling x.a32 do
      let priority := Width.long.signed (← loadNumber x.c 4)
      let (least, most) ← prioritiesOf x.b32
      ensure (least ≤ priority && priority ≤ most) .einval
      return 0
  | 145 => some (aboutScheduling x.a32 (return 0))
  | 146 => some do return (← prioritiesOf x.a32).2
  | 147 => some do return (← prioritiesOf x.a32).1
  | 148 => some (aboutScheduling x.a32 do
      store x.b (littleBytes 16 0)
      return 0)
  | _ => none

/-- The request about the process itself with a number. -/
def onStanding? (number : Nat) (x : Arguments) : Option (Call Int) :=
  match number with
  | 63 => some do
    store x.a nameBytes
    return 0
  | 95 => some (setFileMask x.a32)
  | 97 => some do
    let limit ← limitOf x.a32
    store x.b (limitBytes limit)
    return 0
  | 98 => some do
    ensure (x.a32 = 0 || x.a32 = 1 || x.a32 = -1) .einval
    tellZeros x.b 144
    return 0
  | 99 => some do
    tellZeros x.a 112
    return 0
  | 101 => some (throw .eperm)
  | 135 => some (setPersonality x.a)
  | 157 => some (trait x)
  | 158 => some (segmentBase x.a32 x.b)
  | 160 => some do
    let limit ← loadLimit x.b
    setLimit x.a32 limit
    return 0
  | 202 => some (futex x.a x.b32 x.c x.d)
  | 273 => some do
    ensure (x.b = 24) .einval
    return 0
  | 302 => some (changeLimit x.a32 x.b32 x.c x.d)
  | 309 => some do
    tell x.a 4 0
    tell x.b 4 0
    return 0
  | 318 => some (draw x.a x.b x.c32)
  | _ => onIdentity? number x <|> onProcesses? number x

end SourceDebugger.Machine.Call
