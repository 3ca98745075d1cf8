/-
  Computations that change where the program goes on, its stack, its flags as a
  whole, or its segments.
-/
import SourceDebugger.Machine.Execution.Arithmetic

namespace SourceDebugger.Machine.Execution

/-! ## Frames and returns -/

def leave (w : Width) : Execution Unit := do
  set .rsp ((← get).get .rbp)
  write w (.register .rbp) (← pop w)

/-- Makes a frame of so many bytes, which holds the frames around it to a
    depth. -/
def enter (w : Width) (size depth : Nat) : Execution Unit := do
  let depth := depth % 32
  push w (← read w (.register .rbp))
  let frame := (← get).get .rsp
  let base := (← get).get .rbp
  let distance := UInt64.ofNat w.bytes
  for i in List.range (depth - 1) do
    push w (← loadFrom true w.bytes (base - distance * UInt64.ofNat (i + 1)))
  if depth ≠ 0 then push w (frame.toNat % w.modulus)
  write w (.register .rbp) frame.toNat
  set .rsp ((← get).get .rsp - UInt64.ofNat size)
  let _ ← loadFrom true 1 ((← get).get .rsp)

def ret (drop : UInt64) : Execution Unit := do
  goTo (UInt64.ofNat (← pop .quad))
  set .rsp ((← get).get .rsp + drop)

/-- Returns to a segment, which has to be that of the program. -/
def returnFar (w : Width) (drop : UInt64) : Execution Unit := do
  let a ← pop w
  let segment ← pop w
  if segment % 2 ^ 16 ≠ Thread.codeSegment.toNat then fault .protection
  goTo (UInt64.ofNat a)
  set .rsp ((← get).get .rsp + drop)

/-- The flags that a program can change. -/
def changeableFlags : Nat := 0x244dd5

/-- Loads the flags. -/
def loadFlags (w : Width) (n : Nat) : Execution Unit := do
  let old := ((← get).get .eflags).toNat
  let mask := changeableFlags % w.modulus
  set .eflags (UInt64.ofNat (old - (old &&& mask) + (n &&& mask)))

/-- Returns from an interrupt. -/
def returnInterrupt (w : Width) : Execution Unit := do
  let a ← pop w
  let segment ← pop w
  let flags ← pop w
  let top ← pop w
  let stack ← pop w
  if segment % 2 ^ 16 ≠ Thread.codeSegment.toNat ∨ stack % 2 ^ 16 ≠ Thread.stackSegment.toNat then
    fault .protection
  goTo (UInt64.ofNat a)
  loadFlags w flags
  set .rsp (UInt64.ofNat top)

/-! ## Flags as a whole -/

def pushFlags (w : Width) : Execution Unit := do
  let flags := ((← get).get .eflags).toNat
  push w (flags - (flags &&& Flag.again.mask.toNat))

def popFlags (w : Width) : Execution Unit := do loadFlags w (← pop w)

/-- The flags in the lowest byte. -/
def lowFlags : Nat := 0xd5

/-- Copies flags to the second lowest byte of the accumulator. -/
def copyFlags : Execution Unit := do
  write .byte (.secondByte .rax) (((← get).get .eflags).toNat % 256)

def storeFlags : Execution Unit := do
  let n ← read .byte (.secondByte .rax)
  let old := ((← get).get .eflags).toNat
  set .eflags (UInt64.ofNat (old - (old &&& lowFlags) + (n &&& lowFlags)))

/-! ## Segments -/

def loadSegment (segment : Register) (selector : Nat) : Execution Unit := do
  match (← get).loadSegment? segment (UInt64.ofNat (selector % 2 ^ 16)) with
  | some t => modify fun _ => t
  | none => fault .protection

/-- How an instruction ends that has loaded a segment. -/
def afterSegment (segment : Register) : Completion := if segment = .ss then .joined else .done

def popSegment (w : Width) (segment : Register) : Execution Unit := do
  loadSegment segment (← pop w)

/-- Asks about a segment; the zero flag tells whether there is an answer. -/
def askSegment (question : SegmentQuestion) (w : Width) (target source : Operand) :
    Execution Unit := do
  let selector := UInt64.ofNat (← read .half source)
  let isKnown := Thread.isDataSegment selector
  let isData := selector / 4 = Thread.stackSegment / 4
  match question with
  | .isReadable => setFlags [(.zero, isKnown)]
  | .isWritable => setFlags [(.zero, isData)]
  | .rights | .limit =>
    setFlags [(.zero, isKnown)]
    let value :=
      if question = .limit then 0xffffffff
      else if isData then 0xcff300
      else if selector / 4 = Thread.codeSegment / 4 then 0xaffb00
      else if selector / 4 = 8 then 0xcffb00 else 0x40f500
    if isKnown then write w target value

/-- An address and a segment, from memory. -/
def readFar (w : Width) (place : Location) : Execution (Nat × Nat) := do
  let a ← read w (.memory place)
  let behind := { place with displacement := place.displacement + UInt64.ofNat w.bytes }
  return (a, ← read .half (.memory behind))

def loadFar (w : Width) (segment : Register) (target : Operand) (place : Location) :
    Execution Unit := do
  let (a, selector) ← readFar w place
  loadSegment segment selector
  write w target a

/-- Goes on in a segment, which has to be that of the program. -/
def jumpFar (isCall : Bool) (w : Width) (place : Location) : Execution Unit := do
  let (a, selector) ← readFar w place
  if selector ≠ Thread.codeSegment.toNat then fault .protection
  if isCall then
    let next := (← get).pc
    push w ((← get).get .cs).toNat
    push w next.toNat
  goTo (UInt64.ofNat a)

/-! ## Jumps -/

def jumpIf (c : Condition) (offset : UInt64) : Execution Unit := do
  if (← get).holds c then skip offset

/-- Jumps if a count is zero. -/
def jumpIfZero (w : Width) (offset : UInt64) : Execution Unit := do
  if (← read w (.register .rcx)) = 0 then skip offset

/-- Decreases a count, and jumps unless it is zero then; perhaps only if the last
    comparison has found equality, or has not. -/
def loop (w : Width) (isEqual : Option Bool) (offset : UInt64) : Execution Unit := do
  let count := ((← read w (.register .rcx)) + w.modulus - 1) % w.modulus
  write w (.register .rcx) count
  let isZero ← flag .zero
  if count ≠ 0 && isEqual.all (· == isZero) then skip offset

def callTo (target : Operand) : Execution Unit := do
  let a ← read .quad target
  pushNext
  goTo (UInt64.ofNat a)

end SourceDebugger.Machine.Execution
