/-
  Operations on the floating-point stack whose operand is an angle.  One that is
  too large is left alone, and marked.

  * `FloatingStack.turn` replaces an angle by a function of it;
  * `FloatingStack.turnBoth` replaces it by one and pushes another one.
-/
import SourceDebugger.Machine.FloatingStack.Operations
import SourceDebugger.Machine.Transcendental

namespace SourceDebugger.Machine.FloatingStack

/-- Angles from two to this power on are too large. -/
def angleLimit : Int := 63

def isTooLarge : Number → Bool
  | .finite _ m e => m ≠ 0 && angleLimit ≤ Transcendental.topExponent m e
  | _ => false

/-- Marks an angle that was too large, or not. -/
def markAngle (s : FloatingStack) (isTooLarge : Bool) : FloatingStack :=
  s.setStatus condition2 (if isTooLarge then condition2 else 0)

/-- Replaces the angle on top by a function of it. -/
def turn (s : FloatingStack) (op : Number → Floating Number) : FloatingStack :=
  match s.operand? 0 with
  | none => s.afterFault false (·.put 0 Extended.indefinite)
  | some a =>
    if a.value.any isTooLarge then (s.setUp false).markAngle true
    else (s.markAngle false).settle 0 false (s.computedEach .extended a op)

/-- Replaces the angle on top by a function of it, and pushes another one. -/
def turnBoth (s : FloatingStack) (below above : Number → Floating Number) : FloatingStack :=
  let both (s : FloatingStack) (a b : Nat) : FloatingStack := (s.put 0 a).push b
  match s.operand? 0 with
  | none => s.afterFault false (both · Extended.indefinite Extended.indefinite)
  | some a =>
    if s.isFull then s.afterFault true (both · Extended.indefinite Extended.indefinite)
    else if a.value.any isTooLarge then (s.setUp false).markAngle true
    else
      let o := s.computedEach .extended a below
      let p := s.computedEach .extended a above
      (s.markAngle false).finish { o with events := o.events ||| p.events } fun s =>
        both s o.result p.result

end SourceDebugger.Machine.FloatingStack
