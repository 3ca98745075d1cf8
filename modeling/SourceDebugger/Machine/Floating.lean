/-
  Floating-point numbers of any binary format: their arithmetic is exact, and
  what does not fit is rounded once, at the end.

  * `Number` is a value without a format; `Format.decode` and `Format.round` go
    from the bits to the value and back;
  * `Floating` is a computation that rounds as the `Control` of the processor
    says and notes there what happened: a number that is no number, a division
    by zero, a result too large, too small or inexact;
  * `Format.add` and its siblings compute on bits.
-/
import SourceDebugger.Arithmetic

namespace SourceDebugger.Machine

/-- How results that do not fit are rounded. -/
inductive Rounding where
  | nearest
  | down
  | up
  | towardZero
  deriving DecidableEq

/-- What may happen in a computation, in the order of the control word. -/
inductive FloatingEvent where
  | invalid
  | denormal
  | divisionByZero
  | overflow
  | underflow
  | inexact
  deriving DecidableEq

def FloatingEvent.bit : FloatingEvent → Nat
  | invalid => 1
  | denormal => 2
  | divisionByZero => 4
  | overflow => 8
  | underflow => 16
  | inexact => 32

/-- How the processor computes, and what has happened. -/
structure Control where
  rounding : Rounding := .nearest
  /-- Results that are too small become zero. -/
  flushesToZero : Bool := false
  /-- Operands that are too small count as zero. -/
  denormalsAreZero : Bool := false
  /-- The events that do not stop the program. -/
  masked : Nat := 63
  raised : Nat := 0
  deriving DecidableEq

namespace Control

def roundingOf (n : Nat) : Rounding :=
  [Rounding.nearest, .down, .up, .towardZero].getD (n % 4) .nearest

def numberOf : Rounding → Nat
  | .nearest => 0
  | .down => 1
  | .up => 2
  | .towardZero => 3

/-- The control of vector instructions, from its register. -/
def ofWord (n : Nat) : Control where
  rounding := roundingOf (n / 2 ^ 13)
  flushesToZero := n.testBit 15
  denormalsAreZero := n.testBit 6
  masked := n / 2 ^ 7 % 64
  raised := n % 64

def toWord (c : Control) : Nat :=
  c.raised + (if c.denormalsAreZero then 2 ^ 6 else 0) + c.masked * 2 ^ 7 +
    numberOf c.rounding * 2 ^ 13 + (if c.flushesToZero then 2 ^ 15 else 0)

def masks (c : Control) (e : FloatingEvent) : Bool := c.masked &&& e.bit ≠ 0

def has (c : Control) (e : FloatingEvent) : Bool := c.raised &&& e.bit ≠ 0

/-- The code of the signal for the events that stop the program. -/
def stopCode? (c : Control) : Option Int :=
  let stopping (e : FloatingEvent) := c.has e && !c.masks e
  if stopping .invalid then some 7
  else if stopping .divisionByZero then some 3
  else if stopping .overflow then some 4
  else if stopping .underflow || stopping .denormal then some 5
  else if stopping .inexact then some 6
  else none

end Control

/-- A computation on floating-point numbers. -/
abbrev Floating : Type → Type := StateM Control

namespace Floating

def raise (e : FloatingEvent) : Floating Unit :=
  modify fun c => { c with raised := c.raised ||| e.bit }

def raiseIf (condition : Bool) (e : FloatingEvent) : Floating Unit :=
  if condition then raise e else pure ()

end Floating

/-! ## Numbers -/

/-- A value.  What stands for no number carries 63 bits, the highest of which
    keeps it from being an invalid operand. -/
inductive Number where
  | nan (isNegative : Bool) (payload : Nat)
  | infinite (isNegative : Bool)
  /-- The significand times a power of two. -/
  | finite (isNegative : Bool) (significand : Nat) (exponent : Int)
  deriving DecidableEq

namespace Number

open Floating

def isNan : Number → Bool
  | nan .. => true
  | _ => false

/-- The bit that makes an operand valid that is no number. -/
def quietBit : Nat := 2 ^ 62

def isSignalling : Number → Bool
  | nan _ payload => !payload.testBit 62
  | _ => false

def isZero : Number → Bool
  | finite _ 0 _ => true
  | _ => false

def isNegative : Number → Bool
  | nan b _ => b
  | infinite b => b
  | finite b .. => b

def negate : Number → Number
  | nan b n => nan b n
  | infinite b => infinite !b
  | finite b m e => finite (!b) m e

/-- The result of operations that have none. -/
def indefinite : Number := nan true quietBit

/-- The number that is no number, as a result. -/
def quiet : Number → Number
  | nan b payload => nan b (payload ||| quietBit)
  | x => x

/-- The result of an invalid operation. -/
def invalid : Floating Number := do
  raise .invalid
  return indefinite

/-- The first of some operands that is no number, as a result. -/
def nan? (xs : List Number) : Option Number := (xs.find? isNan).map quiet

/-- Applies an operation to numbers; an operand that is none is the result. -/
def unlessNan (xs : List Number) (act : Floating Number) : Floating Number :=
  match nan? xs with
  | some x => do
    raiseIf (xs.any isSignalling) .invalid
    return x
  | none => act

/-- A significand, negated for negative numbers. -/
def signed (isNegative : Bool) (m : Nat) : Int := if isNegative then -(m : Int) else m

def add (x y : Number) : Floating Number := unlessNan [x, y] do
  match x, y with
  | infinite a, infinite b => if a = b then return x else invalid
  | infinite _, _ => return x
  | _, infinite _ => return y
  | finite a 0 e, finite b 0 _ =>
    let isDown := (← get).rounding = Rounding.down
    return finite (if a = b then a else isDown) 0 e
  | finite a m e, finite b n g =>
    let low := min e g
    let sum := signed a (m * 2 ^ (e - low).toNat) + signed b (n * 2 ^ (g - low).toNat)
    let isDown := (← get).rounding = Rounding.down
    if sum = 0 then return finite isDown 0 0
    return finite (sum < 0) sum.natAbs low
  | _, _ => return x

def multiply (x y : Number) : Floating Number := unlessNan [x, y] do
  let sign := x.isNegative != y.isNegative
  match x, y with
  | finite _ m e, finite _ n g => return finite sign (m * n) (e + g)
  | _, _ => if x.isZero || y.isZero then invalid else return infinite sign

/-- The product of two numbers, added to a third one. -/
def multiplyAdd (x y z : Number) : Floating Number := unlessNan [x, y, z] do
  add (← multiply x y) z

/-- More bits than any format has. -/
def extraBits : Nat := 160

/-- Marks an inexact result by a bit below all others. -/
def sticky (n : Nat) (isExact : Bool) : Nat := 2 * n + (if isExact then 0 else 1)

/-- The quotient, with a bit for what is left. -/
def divide (x y : Number) : Floating Number := unlessNan [x, y] do
  let sign := x.isNegative != y.isNegative
  match x, y with
  | infinite _, infinite _ => invalid
  | infinite _, _ => return infinite sign
  | _, infinite _ => return finite sign 0 0
  | finite _ m e, finite _ n g =>
    if n = 0 then
      if m = 0 then invalid
      else do
        raise .divisionByZero
        return infinite sign
    else
      let shifted := m * 2 ^ (extraBits + n.log2)
      return finite sign (sticky (shifted / n) (shifted % n = 0))
        (e - g - (extraBits + n.log2 : Nat) - 1)
  | _, _ => return x

/-- The largest number whose square is at most `n`, from its bits: each one is
    set if the square stays small enough. -/
def rootBits (n : Nat) : Nat → Nat → Nat
  | 0, root => root
  | k + 1, root =>
    let larger := root + 2 ^ k
    rootBits n k (if larger * larger ≤ n then larger else root)

def rootOf (n : Nat) : Nat := rootBits n (n.log2 / 2 + 1) 0

def squareRoot (x : Number) : Floating Number := unlessNan [x] do
  match x with
  | finite _ 0 _ | infinite false => return x
  | finite false m e =>
    let even := e - 2 * extraBits - (e % 2)
    let shifted := m * 2 ^ (e - even).toNat
    let root := rootOf shifted
    return finite false (sticky root (root * root = shifted)) (even / 2 - 1)
  | _ => invalid

/-- The rule for cutting off the last bits of a significand: what is left, and
    whether it is exact. -/
def cut (rounding : Rounding) (isNegative : Bool) (m : Nat) (bits : Nat) : Nat × Bool :=
  let low := m / 2 ^ bits
  let rest := m % 2 ^ bits
  let isUp : Bool := match rounding with
    | .nearest => 2 ^ bits < 2 * rest + low % 2
    | .down => isNegative && rest ≠ 0
    | .up => !isNegative && rest ≠ 0
    | .towardZero => false
  (if isUp then low + 1 else low, rest = 0)

/-- The next whole number. -/
def toIntegral (rounding : Rounding) (x : Number) : Number × Bool :=
  match x with
  | finite sign m e =>
    if e < 0 then
      let (n, isExact) := cut rounding sign m e.natAbs
      (finite sign n 0, isExact)
    else (x, true)
  | _ => (x, true)

/-- The value of a finite number that is whole. -/
def toInt? : Number → Option Int
  | finite sign m e => some (signed sign (m * 2 ^ e.toNat))
  | _ => none

def ofInt (n : Int) : Number := finite (n < 0) n.natAbs 0

/-- The order of two numbers; none if one is no number. -/
def compare? (x y : Number) : Option Ordering :=
  match x, y with
  | nan .., _ | _, nan .. => none
  | infinite a, infinite b => some (compare b.toNat a.toNat)
  | infinite a, _ => some (if a then .lt else .gt)
  | _, infinite b => some (if b then .gt else .lt)
  | finite a m e, finite b n g =>
    let low := min e g
    some (compare (signed a (m * 2 ^ (e - low).toNat)) (signed b (n * 2 ^ (g - low).toNat)))

end Number

/-! ## Formats -/

/-- A binary format: a sign, an exponent, and a fraction behind a one that is
    not kept. -/
structure Format where
  exponentBits : Nat
  fractionBits : Nat
  deriving DecidableEq

namespace Format

open Floating

def half : Format := ⟨5, 10⟩

def single : Format := ⟨8, 23⟩

def double : Format := ⟨11, 52⟩

/-- The format of the registers for floating-point numbers, but that the one in
    front of the fraction is kept there. -/
def extended : Format := ⟨15, 63⟩

variable (f : Format)

def bits : Nat := 1 + f.exponentBits + f.fractionBits

def bytes : Nat := f.bits / 8

/-- The exponent of the last bit of the smallest numbers. -/
def lowestExponent : Int := 2 - 2 ^ (f.exponentBits - 1) - f.fractionBits

/-- The bits of the infinite number. -/
def infinityBits : Nat := (2 ^ f.exponentBits - 1) * 2 ^ f.fractionBits

def signBit : Nat := 2 ^ (f.exponentBits + f.fractionBits)

def isNegative (n : Nat) : Bool := n.testBit (f.exponentBits + f.fractionBits)

/-- The value of some bits. -/
def decode (n : Nat) : Number :=
  let sign := f.isNegative n
  let exponent := n / 2 ^ f.fractionBits % 2 ^ f.exponentBits
  let fraction := n % 2 ^ f.fractionBits
  if exponent = 2 ^ f.exponentBits - 1 then
    if fraction = 0 then .infinite sign else .nan sign (fraction * 2 ^ (63 - f.fractionBits))
  else if exponent = 0 then .finite sign fraction f.lowestExponent
  else .finite sign (2 ^ f.fractionBits + fraction) (f.lowestExponent + exponent - 1)

/-- The value is smaller than those with a one in front of the fraction. -/
def isDenormal (n : Nat) : Bool :=
  n / 2 ^ f.fractionBits % 2 ^ f.exponentBits = 0 && n % 2 ^ f.fractionBits ≠ 0

/-- The bits with a sign. -/
def withSign (isNegative : Bool) (n : Nat) : Nat := if isNegative then f.signBit + n else n

/-- The result that is too large. -/
def overflowed (isNegative : Bool) : Floating Nat := do
  raise .overflow
  raise .inexact
  let isInfinite : Bool := match (← get).rounding with
    | .nearest => true
    | .down => isNegative
    | .up => !isNegative
    | .towardZero => false
  return f.withSign isNegative (if isInfinite then f.infinityBits else f.infinityBits - 1)

/-- Rounds a significand at the highest exponent that keeps all its bits, but
    not below `low`. -/
def roundAt (isNegative : Bool) (m : Nat) (e low : Int) : Floating (Nat × Int × Bool) := do
  let last := max (e + m.log2 - f.fractionBits) low
  if last ≤ e then return (m * 2 ^ (e - last).toNat, last, true)
  let (n, isExact) := Number.cut (← get).rounding isNegative m (last - e).toNat
  return (n, last, isExact)

/-- Whether a number is too small, even if it is rounded without regard to the
    lowest exponent. -/
def isTiny (isNegative : Bool) (m : Nat) (e : Int) : Floating Bool := do
  let (n, last, _) ← f.roundAt isNegative m e (e + m.log2 - f.fractionBits)
  return last + n.log2 < f.lowestExponent + f.fractionBits

/-- The bits of a number, rounded. -/
def round : Number → Floating Nat
  | .nan sign payload =>
    return f.withSign sign (f.infinityBits + payload / 2 ^ (63 - f.fractionBits))
  | .infinite sign => return f.withSign sign f.infinityBits
  | .finite sign 0 _ => return f.withSign sign 0
  | .finite sign m e => do
    let (n, last, isExact) ← f.roundAt sign m e f.lowestExponent
    let position := (last - f.lowestExponent).toNat * 2 ^ f.fractionBits + n
    if f.infinityBits ≤ position then f.overflowed sign
    else
      let isTiny ← f.isTiny sign m e
      let control ← get
      if isTiny && control.flushesToZero && control.masks .underflow then
        raise .underflow
        raise .inexact
        return f.withSign sign 0
      raiseIf (isTiny && (!isExact || !control.masks .underflow)) .underflow
      raiseIf (!isExact) .inexact
      return f.withSign sign position

/-- Reads operands.  Very small ones count as zero, or are noted unless the
    operation is not done. -/
def reading {α : Type} (ns : List Nat) (act : List Number → Floating α) : Floating α := do
  let areZero := (← get).denormalsAreZero
  let read (n : Nat) : Number :=
    if areZero && f.isDenormal n then .finite (f.isNegative n) 0 0 else f.decode n
  let xs := ns.map read
  let before := (← get).raised
  modify ({ · with raised := 0 })
  let a ← act xs
  let raised := (← get).raised
  let stops := xs.any (·.isNan) || raised &&& 5 ≠ 0
  raiseIf (!areZero && ns.any f.isDenormal && !stops) .denormal
  modify fun c => { c with raised := c.raised ||| before }
  return a

/-! ## Operations on bits -/

def binary (op : Number → Number → Floating Number) (a b : Nat) : Floating Nat :=
  f.reading [a, b] fun xs => do f.round (← op (xs.getD 0 .indefinite) (xs.getD 1 .indefinite))

def add : Nat → Nat → Floating Nat := f.binary Number.add

def subtract : Nat → Nat → Floating Nat := f.binary fun x y => Number.add x y.negate

def multiply : Nat → Nat → Floating Nat := f.binary Number.multiply

def divide : Nat → Nat → Floating Nat := f.binary Number.divide

def squareRoot (a : Nat) : Floating Nat :=
  f.reading [a] fun xs => do f.round (← Number.squareRoot (xs.getD 0 .indefinite))

/-- The product of two numbers, added to a third one; signs may be changed. -/
def multiplyAdd (negatesProduct negatesSum : Bool) (a b c : Nat) : Floating Nat :=
  f.reading [a, b, c] fun xs => do
    let (x, y, z) := (xs.getD 0 .indefinite, xs.getD 1 .indefinite, xs.getD 2 .indefinite)
    let x := if negatesProduct then x.negate else x
    let z := if negatesSum then z.negate else z
    f.round (← Number.multiplyAdd x y z)

/-- How two numbers are ordered.  An operand that is no number is invalid, or
    only one that asks for that. -/
def compare (isStrict : Bool) (a b : Nat) : Floating (Option Ordering) :=
  f.reading [a, b] fun xs => do
    let (x, y) := (xs.getD 0 .indefinite, xs.getD 1 .indefinite)
    raiseIf (xs.any (·.isSignalling) || (isStrict && xs.any (·.isNan))) .invalid
    return Number.compare? x y

/-- The first number if it has an order to the second, which is the result
    otherwise. -/
def choose (order : Ordering) (a b : Nat) : Floating Nat := do
  let areZero := (← get).denormalsAreZero
  let read (n : Nat) : Nat :=
    if areZero && f.isDenormal n then f.withSign (f.isNegative n) 0 else n
  match ← f.compare true a b with
  | some found => return read (if found = order then a else b)
  | none => return read b

/-- The number in another format. -/
def convert (g : Format) (a : Nat) : Floating Nat :=
  f.reading [a] fun xs => do
    let x := xs.getD 0 .indefinite
    raiseIf x.isSignalling .invalid
    g.round x.quiet

/-- The whole number of so many bits; the smallest one if there is none. -/
def toSigned (rounding : Rounding) (width : Nat) (a : Nat) : Floating Nat := do
  let x := f.decode a
  let x : Number :=
    if (← get).denormalsAreZero && f.isDenormal a then .finite x.isNegative 0 0 else x
  let (x, isExact) := x.toIntegral rounding
  match x.toInt? with
  | some n =>
    if -(2 ^ (width - 1) : Int) ≤ n ∧ n < 2 ^ (width - 1) then
      raiseIf (!isExact) .inexact
      return (n % 2 ^ width).toNat
  | none => pure ()
  raise .invalid
  return 2 ^ (width - 1)

/-- The number with the value of a signed whole number. -/
def ofSigned (n : Int) : Floating Nat := f.round (.ofInt n)

/-- The next whole number, in the same format. -/
def toIntegral (rounding : Rounding) (notesInexact : Bool) (a : Nat) : Floating Nat := do
  let x := f.decode a
  let x : Number :=
    if (← get).denormalsAreZero && f.isDenormal a then .finite x.isNegative 0 0 else x
  raiseIf x.isSignalling .invalid
  let (y, isExact) := x.toIntegral rounding
  raiseIf (notesInexact && !isExact) .inexact
  f.round y.quiet

end Format

end SourceDebugger.Machine
