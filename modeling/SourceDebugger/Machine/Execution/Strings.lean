/-
  Computations on strings in memory, element by element.  A repeated one does a
  single element at a time: until the last one the program stays at the
  instruction.
-/
import SourceDebugger.Machine.Execution.Arithmetic

namespace SourceDebugger.Machine.Execution

/-- The string that results go to. -/
def targetString (source : Location) : Location :=
  { base := some .rdi, isShort := source.isShort }

/-- Goes on to the next element of a string. -/
def moveOn (w : Width) (addressWidth : Width) (r : Register) : Execution Unit := do
  let a := (← get).get r
  let distance := UInt64.ofNat w.bytes
  let next := if ← flag .direction then a - distance else a + distance
  write addressWidth (.register r) next.toNat

/-- The width of the addresses of a place. -/
def addressWidthOf (place : Location) : Width := if place.isShort then .long else .quad

/-- Does one element. -/
def stringElement (op : StringOperation) (w : Width) (place : Location) : Execution Unit := do
  let source : Operand := .memory place
  let target : Operand := .memory (targetString place)
  let next := moveOn w (addressWidthOf place)
  match op with
  | .move =>
    write w target (← read w source)
    next .rsi
    next .rdi
  | .compare =>
    let _ ← difference w (← read w source) (← read w target) 0
    next .rsi
    next .rdi
  | .store =>
    write w target (← read w low)
    next .rdi
  | .load =>
    write w low (← read w source)
    next .rsi
  | .scan =>
    let _ ← difference w (← read w low) (← read w target) 0
    next .rdi

/-- Whether a comparison ends the repetition. -/
def stops (op : StringOperation) (repetition : Repetition) : Execution Bool := do
  let isEqual ← flag .zero
  return (op = .compare || op = .scan) &&
    (match repetition with
    | .whileEqual => !isEqual
    | .untilEqual => isEqual)

/-- Does an element, or all of them, one by one: while some are left the program
    goes back to the instruction at `start`, and nobody sees the flags. -/
def string (op : StringOperation) (w : Width) (place : Location)
    (repetition : Option Repetition) (start : Addr) : Execution Unit := do
  match repetition with
  | none => stringElement op w place
  | some repetition =>
    let addressWidth := addressWidthOf place
    let count ← read addressWidth (.register .rcx)
    if count = 0 then pure ()
    else
      let flags := (← get).get .eflags
      stringElement op w place
      write addressWidth (.register .rcx) (count - 1)
      if 1 < count && !(← stops op repetition) then
        set .rip start
        set .eflags flags
        setFlags [(.again, true)]

end SourceDebugger.Machine.Execution
