/-
  Computations on vectors.
-/
import SourceDebugger.Machine.Execution
import SourceDebugger.Machine.Lanes

namespace SourceDebugger.Machine.Execution

variable {α : Type}

/-- The events that operands alone tell. -/
def operandEvents : Nat := 7

/-- Computes as the control of the program says, and stops it for events that are
    not masked.  If operands stop it, nothing has been computed. -/
def floating (act : Floating α) : Execution α := do
  let before := (← get).control
  let (a, after) := act.run { before with raised := 0 }
  let early := { after with raised := after.raised &&& operandEvents }
  let noted := if early.stopCode?.isSome then early else after
  let control := { after with raised := before.raised ||| noted.raised }
  if noted.stopCode?.isSome then fault (.floating (control.stopCode?.getD 0))
  modify ({ · with control })
  return a

/-- The values that an operation reads.  Places in memory may have to be
    aligned. -/
def readVectors (isAligned : Bool) (sources : List (Operand × Nat)) : Execution (List Nat) :=
  sources.mapM fun (operand, n) => do
    match operand with
    | .memory place =>
      let a := (← get).addressOf place
      if isAligned && a.toNat % n ≠ 0 then fault .protection
    | _ => pure ()
    readBytes n operand

def vector (op : VectorOperation) : Execution Unit := do
  match op.target with
  | .memory place =>
    let a := (← get).addressOf place
    if op.isAligned && a.toNat % op.size ≠ 0 then fault .protection
  | _ => pure ()
  let values ← readVectors op.isAligned op.sources
  writeBytes op.size op.target (← floating (op.apply values))

def vectorTest (op : VectorTest) : Execution Unit := do
  let values ← readVectors op.isAligned op.sources
  let (n, flags) ← floating (op.apply values)
  setFlags flags
  match op.target with
  | some (target, size) => writeBytes size target n
  | none => pure ()

/-! ## Lane by lane -/

/-- A place further on. -/
def further (place : Location) (distance : Nat) : Location :=
  { place with displacement := place.displacement + UInt64.ofNat distance }

/-- The mask of a lane is negative. -/
def isChosen (bits mask i : Nat) : Bool := (Lanes.lane bits mask i).testBit (bits - 1)

/-- The number of bytes of a vector, as a result replaces them. -/
def wholeVector : Nat := 32

def loadLanes (bits count : Nat) (mask target : Operand) (place : Location) : Execution Unit := do
  let mask ← readBytes (count * bits / 8) mask
  let n := bits / 8
  let lanes ← (List.range count).mapM fun i =>
    if isChosen bits mask i then readBytes n (.memory (further place (n * i))) else pure 0
  writeBytes wholeVector target (Lanes.join bits lanes)

def storeLanes (bits count : Nat) (mask source : Operand) (place : Location) :
    Execution Unit := do
  let mask ← readBytes (count * bits / 8) mask
  let value ← readBytes (count * bits / 8) source
  let n := bits / 8
  (List.range count).forM fun i => do
    if isChosen bits mask i then
      writeBytes n (.memory (further place (n * i))) (Lanes.lane bits value i)

def gatherLanes (bits indexBits count target index mask : Nat) (place : Location) (scale : Nat) :
    Execution Unit := do
  let old ← readBytes (count * bits / 8) (.vector target)
  let chosen ← readBytes (count * bits / 8) (.vector mask)
  let indexes ← readBytes (count * indexBits / 8) (.vector index)
  let lanes ← (List.range count).mapM fun i => do
    if isChosen bits chosen i then
      let distance := Lanes.signed indexBits (Lanes.lane indexBits indexes i) * scale
      readBytes (bits / 8) (.memory (further place (Lanes.ofInt 64 distance)))
    else return Lanes.lane bits old i
  writeBytes wholeVector (.vector target) (Lanes.join bits lanes)
  writeBytes wholeVector (.vector mask) 0

/-- Clears vector registers, or the upper halves of them. -/
def clearVectors (keepsLower : Bool) : Execution Unit :=
  modify fun t => { t with
    vectors := t.vectors.map fun n => if keepsLower then n % 2 ^ 128 else 0 }

end SourceDebugger.Machine.Execution
