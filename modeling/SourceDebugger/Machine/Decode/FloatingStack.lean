/-
  The operations on the floating-point stack: eight bytes that begin one, and a
  byte behind it for a place in memory or for registers.

  * `Reader.stackOperation` reads such an operation.
-/
import SourceDebugger.Machine.Decode.Integer
import SourceDebugger.Machine.FloatingStack.Angles

namespace SourceDebugger.Machine.Reader

/-- The four operations of arithmetic, two of which also come with the operands
    exchanged, by a field. -/
def stackArithmetic? (field : Nat) : Option (Number → Number → Floating Number) :=
  match field with
  | 0 => some Number.add
  | 1 => some Number.multiply
  | 4 => some fun x y => Number.add x y.negate
  | 5 => some fun x y => Number.add y x.negate
  | 6 => some Number.divide
  | 7 => some fun x y => Number.divide y x
  | _ => none

/-- Arithmetic with a number, or a comparison with it. -/
def stackBinary (field : Nat) (source : StackSource) : StackOperation :=
  match stackArithmetic? field with
  | some op => .arithmetic op 0 false source
  | none => .compare true (field - 2) false source

/-- Arithmetic whose result goes to a register below the top. -/
def stackInto (field depth : Nat) (pops : Bool) : StackOperation :=
  match stackArithmetic? field with
  | some op => .arithmetic op depth pops (.depth depth)
  | none => .compare true (field - 2 + if pops then 1 else 0) false (.depth depth)

/-! ## Memory -/

/-- An operation on a place in memory. -/
def stackMemory? (m : Modifiers) (op field : Nat) (place : Location) : Option StackOperation :=
  match op, field with
  | 0xd8, n => some (stackBinary n (.number .single place))
  | 0xda, n => some (stackBinary n (.integer .long place))
  | 0xdc, n => some (stackBinary n (.number .double place))
  | 0xde, n => some (stackBinary n (.integer .half place))
  | 0xd9, 0 => some (.load (.number .single place))
  | 0xd9, 2 => some (.store .single false place)
  | 0xd9, 3 => some (.store .single true place)
  | 0xd9, 4 => some (.loadEnvironment m.isHalf place)
  | 0xd9, 5 => some (.loadControl place)
  | 0xd9, 6 => some (.storeEnvironment m.isHalf place)
  | 0xd9, 7 => some (.storeControl place)
  | 0xdb, 0 => some (.load (.integer .long place))
  | 0xdb, 1 => some (.storeInteger .long true true place)
  | 0xdb, 2 => some (.storeInteger .long false false place)
  | 0xdb, 3 => some (.storeInteger .long false true place)
  | 0xdb, 5 => some (.load (.extended place))
  | 0xdb, 7 => some (.storeExtended place)
  | 0xdd, 0 => some (.load (.number .double place))
  | 0xdd, 1 => some (.storeInteger .quad true true place)
  | 0xdd, 2 => some (.store .double false place)
  | 0xdd, 3 => some (.store .double true place)
  | 0xdd, 4 => some (.loadAll m.isHalf place)
  | 0xdd, 6 => some (.storeAll m.isHalf place)
  | 0xdd, 7 => some (.storeStatus (.memory place))
  | 0xdf, 0 => some (.load (.integer .half place))
  | 0xdf, 1 => some (.storeInteger .half true true place)
  | 0xdf, 2 => some (.storeInteger .half false false place)
  | 0xdf, 3 => some (.storeInteger .half false true place)
  | 0xdf, 4 => some (.load (.decimal place))
  | 0xdf, 5 => some (.load (.integer .quad place))
  | 0xdf, 6 => some (.storeDecimal place)
  | 0xdf, 7 => some (.storeInteger .quad false true place)
  | _, _ => none

/-! ## Registers -/

/-- The constants that can be loaded, with more digits than any register has. -/
def stackConstants : List Number :=
  [.finite false 1 0,
   .finite false 0xd49a784bcd1b8afe492bf6ff4 (-98),
   .finite false 0xb8aa3b295c17f0bbbe87fed06 (-99),
   .finite false 0xc90fdaa22168c234c4c6628b8 (-98),
   .finite false 0x9a209a84fbcff7988f8959ac0 (-101),
   .finite false 0xb17217f7d1cf79abc9e3b3980 (-100),
   .finite false 0 0]

/-- The operations on the number on top, by the six lowest bits. -/
def stackUnary? (n : Nat) : Option (FloatingStack → FloatingStack) :=
  match n with
  | 0x20 => some (·.sign (!·))
  | 0x21 => some (·.sign fun _ => false)
  | 0x25 => some (·.examine)
  | 0x30 => some fun s => s.each .extended fun x => return Transcendental.powerMinusOne x
  | 0x31 => some fun s => s.pair (fun x y => Transcendental.timesLogarithm y x) 1 true
  | 0x32 => some fun s => s.turnBoth Transcendental.tangent fun _ => return .ofInt 1
  | 0x33 => some fun s => s.pair (fun x y => Transcendental.angle y x) 1 true
  | 0x34 => some (·.split)
  | 0x35 => some (·.remainder true)
  | 0x36 => some fun s => (s.rotate 7).setUp false
  | 0x37 => some fun s => (s.rotate 1).setUp false
  | 0x38 => some (·.remainder false)
  | 0x39 => some fun s => s.pair (fun x y => Transcendental.timesLogarithmAbove y x) 1 true
  | 0x3a => some fun s => s.each s.precision Number.squareRoot
  | 0x3c => some (·.toIntegral)
  | 0x3b => some fun s => s.turnBoth Transcendental.sine Transcendental.cosine
  | 0x3d => some fun s => s.pair FloatingStack.scaled 0 false
  | 0x3e => some fun s => s.turn Transcendental.sine
  | 0x3f => some fun s => s.turn Transcendental.cosine
  | _ => none

/-- An operation on registers. -/
def stackRegister? (op field depth : Nat) : Option StackOperation :=
  let condition (n : Nat) (isNegated : Bool) : Condition :=
    ⟨[FlagTest.carry, .zero, .carryOrZero, .parity].getD n .carry, isNegated⟩
  match op, field with
  | 0xd8, n => some (stackBinary n (.depth depth))
  | 0xdc, n => some (stackInto n depth false)
  | 0xde, 3 => if depth = 1 then some (.compare true 2 false (.depth 1)) else none
  | 0xde, n => some (stackInto n depth true)
  | 0xd9, 0 => some (.load (.depth depth))
  | 0xd9, 1 | 0xdd, 1 | 0xdf, 1 => some (.change (·.exchange depth))
  | 0xd9, 2 => if depth = 0 then some (.change id) else none
  | 0xd9, 3 | 0xdd, 3 | 0xdf, 2 | 0xdf, 3 => some (.change (·.copy depth true))
  | 0xd9, 5 => (stackConstants[depth]?).map fun x => .load (.constant x)
  | 0xd9, n =>
    if n * 8 + depth = 0x24 then some (.compare true 0 false (.constant (.finite false 0 0)))
    else (stackUnary? (n * 8 + depth)).map .change
  | 0xda, 5 => if depth = 1 then some (.compare false 2 false (.depth 1)) else none
  | 0xda, n => if n < 4 then some (.moveIf (condition n false) depth) else none
  | 0xdb, 4 =>
    match depth with
    | 2 => some (.changeAtOnce (·.setStatus 0x7f 0))
    | 3 => some (.changeAtOnce (·.emptied))
    | 0 | 1 | 4 => some (.changeAtOnce id)
    | _ => none
  | 0xdb, 5 => some (.compare false 0 true (.depth depth))
  | 0xdb, 6 => some (.compare true 0 true (.depth depth))
  | 0xdb, n => if n < 4 then some (.moveIf (condition n true) depth) else none
  | 0xdd, 0 => some (.change (·.free depth))
  | 0xdd, 2 => some (.change (·.copy depth false))
  | 0xdd, 4 => some (.compare false 0 false (.depth depth))
  | 0xdd, 5 => some (.compare false 1 false (.depth depth))
  | 0xdf, 0 => some (.change fun s => (s.free depth).rotate 1)
  | 0xdf, 4 => if depth = 0 then some (.storeStatus (.register .rax)) else none
  | 0xdf, 5 => some (.compare false 1 true (.depth depth))
  | 0xdf, 6 => some (.compare true 1 true (.depth depth))
  | _, _ => none

/-- An operation on the floating-point stack, by the byte that begins it. -/
def stackOperation (m : Modifiers) (op : Nat) : Reader Instruction := do
  let f ← form m
  let code := op % 8 * 2 ^ 8 + f.mode * 2 ^ 6 + f.field * 2 ^ 3 + f.other
  let found := if f.isMemory then stackMemory? m op f.field f.place
    else stackRegister? op f.field f.other
  return (found.map (Instruction.stack code)).getD undefined

end SourceDebugger.Machine.Reader
