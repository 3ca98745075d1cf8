/-
  Computations on integers, and the flags that they leave.

  * `Execution.binary` and `Execution.unary` are sums, differences and bitwise
    operations; `Execution.multiply` and its siblings are products and
    quotients;
  * `Execution.setResult` sets the flags that any result has.
-/
import SourceDebugger.Machine.Execution

namespace SourceDebugger.Machine.Execution

variable {α : Type}

/-- Whether the number of ones in the lowest byte is even. -/
def isEven (n : Nat) : Bool :=
  ((List.range 8).filter fun i => n.testBit i).length % 2 = 0

/-- The flags that any result has. -/
def setResult (w : Width) (n : Nat) : Execution Unit :=
  setFlags [(.zero, n % w.modulus = 0), (.sign, w.isNegative n), (.parity, isEven n)]

/-! ## Sums and differences -/

/-- The sum of two values and a carry. -/
def sum (w : Width) (a b carry : Nat) : Execution Nat := do
  let n := (a + b + carry) % w.modulus
  setResult w n
  setFlags [(.carry, w.modulus ≤ a + b + carry), (.adjust, 16 ≤ a % 16 + b % 16 + carry),
    (.overflow, w.isNegative a == w.isNegative b && w.isNegative n != w.isNegative a)]
  return n

/-- The difference of two values, less a borrow. -/
def difference (w : Width) (a b borrow : Nat) : Execution Nat := do
  let n := (a + 2 * w.modulus - b - borrow) % w.modulus
  setResult w n
  setFlags [(.carry, a < b + borrow), (.adjust, a % 16 < b % 16 + borrow),
    (.overflow, w.isNegative a != w.isNegative b && w.isNegative n != w.isNegative a)]
  return n

/-- A result without carry and overflow. -/
def bitwise (w : Width) (n : Nat) : Execution Nat := do
  setResult w n
  setFlags [(.carry, false), (.adjust, false), (.overflow, false)]
  return n

/-- The value of a flag that is added. -/
def carryOf (f : Flag) : Execution Nat := do return if ← flag f then 1 else 0

def binary (op : Binary) (w : Width) (target source : Operand) : Execution Unit := do
  let a ← read w target
  let b ← read w source
  match op with
  | .add => write w target (← sum w a b 0)
  | .addCarry => write w target (← sum w a b (← carryOf .carry))
  | .subtract => write w target (← difference w a b 0)
  | .subtractBorrow => write w target (← difference w a b (← carryOf .carry))
  | .compare => discard (difference w a b 0)
  | .and => write w target (← bitwise w (a &&& b))
  | .or => write w target (← bitwise w (a ||| b))
  | .xor => write w target (← bitwise w (a ^^^ b))
  | .test => discard (bitwise w (a &&& b))

/-- Runs a computation, but keeps the carry. -/
def keepingCarry (act : Execution α) : Execution α := do
  let carry ← flag .carry
  let a ← act
  setFlags [(.carry, carry)]
  return a

def unary (op : Unary) (w : Width) (target : Operand) : Execution Unit := do
  let a ← read w target
  match op with
  | .increment => write w target (← keepingCarry (sum w a 1 0))
  | .decrement => write w target (← keepingCarry (difference w a 1 0))
  | .not => write w target (w.modulus - 1 - a)
  | .negate => write w target (← difference w 0 a 0)
  | .swapBytes =>
    write w target (if w = .half then 0 else ByteOrder.big.number (littleBytes w.bytes a))

/-- Adds with one of two flags as the carry, and changes no other one. -/
def addWith (f : Flag) (w : Width) (target source : Operand) : Execution Unit := do
  let n := (← read w target) + (← read w source) + (← carryOf f)
  write w target (n % w.modulus)
  setFlags [(f, w.modulus ≤ n)]

/-! ## Products and quotients -/

/-- The flags of a product, which tell whether it fits into its width. -/
def setProduct (w : Width) (n : Nat) (fits : Bool) : Execution Unit := do
  setResult w n
  setFlags [(.carry, !fits), (.overflow, !fits), (.adjust, false), (.zero, false)]

def multiply (w : Width) (target a b : Operand) : Execution Unit := do
  let product := w.signed (← read w a) * w.signed (← read w b)
  let n := w.ofInt product
  setProduct w n (w.signed n = product)
  write w target n

/-- The two halves of products and dividends. -/
def low : Operand := .register .rax

def high (w : Width) : Operand := if w = .byte then .secondByte .rax else .register .rdx

/-- The value of a width, read as a signed number or not. -/
def valueOf (isSigned : Bool) (w : Width) (n : Nat) : Int := if isSigned then w.signed n else n

def multiplyWide (isSigned : Bool) (w : Width) (source : Operand) : Execution Unit := do
  let product := valueOf isSigned w (← read w low) * valueOf isSigned w (← read w source)
  let n := w.ofInt product
  setProduct w n (valueOf isSigned w n = product)
  write w low n
  write w (high w) (w.ofInt (product / w.modulus))

/-- The product of the data register and a value, which keeps the flags. -/
def multiplyQuietly (w : Width) (highTarget lowTarget source : Operand) : Execution Unit := do
  let product := (← read w (.register .rdx)) * (← read w source)
  write w lowTarget (product % w.modulus)
  write w highTarget (product / w.modulus)

/-- The quotient is cut toward zero; it has to fit. -/
def divide (isSigned : Bool) (w : Width) (source : Operand) : Execution Unit := do
  let divisor := valueOf isSigned w (← read w source)
  let dividend := valueOf isSigned w (← read w (high w)) * w.modulus + (← read w low)
  if divisor = 0 then fault .division
  let quotient := dividend.tdiv divisor
  if valueOf isSigned w (w.ofInt quotient) ≠ quotient then fault .division
  write w low (w.ofInt quotient)
  write w (high w) (w.ofInt (dividend.tmod divisor))

/-! ## Exchanges -/

def exchange (w : Width) (a b : Operand) : Execution Unit := do
  let (x, y) := (← read w a, ← read w b)
  write w a y
  write w b x

def exchangeAdd (w : Width) (target source : Operand) : Execution Unit := do
  let (x, y) := (← read w target, ← read w source)
  let n ← sum w x y 0
  write w source x
  write w target n

/-- Replaces a value if it is that of the accumulator; otherwise that becomes
    the value.  The value is written in any case. -/
def compareExchange (w : Width) (target source : Operand) : Execution Unit := do
  let (old, new) := (← read w target, ← read w source)
  let expected ← read w low
  let _ ← difference w expected old 0
  if old = expected then write w target new
  else
    if target matches .memory _ then write w target old
    write w low old

/-- Replaces two values if they are those of two registers. -/
def compareExchangePair (w : Width) (place : Location) : Execution Unit := do
  let a := (← get).addressOf place
  let isStack := isStackPlace place
  if w = .quad && a.toNat % 16 ≠ 0 then fault .protection
  let old ← loadFrom isStack (2 * w.bytes) a
  let pair (low high : Register) : Execution Nat := do
    return (← read w (.register low)) + (← read w (.register high)) * w.modulus
  let new ← pair .rbx .rcx
  let isSame := old = (← pair .rax .rdx)
  storeTo isStack (2 * w.bytes) a (if isSame then new else old)
  if !isSame then
    write w (.register .rax) (old % w.modulus)
    write w (.register .rdx) (old / w.modulus)
  setFlags [(.zero, isSame)]

end SourceDebugger.Machine.Execution
