/-
  Floating-point numbers of 80 bits, as the floating-point stack keeps them: a
  sign, an exponent of 15 bits, and a significand of 64 bits whose first bit is
  kept although it only tells whether the exponent is zero.

  * `Extended.value?` is the value of such a number; `Extended.ofNumber` are the
    bits of a value that fits, `Extended.round` those of any value;
  * `Extended.chosenNan` is the result of an operation on operands that are no
    numbers.
-/
import SourceDebugger.Machine.Floating

namespace SourceDebugger.Machine.Extended

/-- The number of bytes. -/
def bytes : Nat := 10

def significand (n : Nat) : Nat := n % 2 ^ 64

def exponent (n : Nat) : Nat := n / 2 ^ 64 % 2 ^ 15

/-- The exponent of what is no finite number. -/
def lastExponent : Nat := 2 ^ 15 - 1

def isNegative (n : Nat) : Bool := n.testBit 79

/-- A number with another sign. -/
def withSign (isNegative : Bool) (n : Nat) : Nat :=
  n % 2 ^ 79 + if isNegative then 2 ^ 79 else 0

/-- The value of some bits; none if the first bit of the significand is missing. -/
def value? (n : Nat) : Option Number :=
  let sign := isNegative n
  let lowest := Format.extended.lowestExponent
  if exponent n = 0 then some (.finite sign (significand n) lowest)
  else if !n.testBit 63 then none
  else if exponent n = lastExponent then
    if n % 2 ^ 63 = 0 then some (.infinite sign) else some (.nan sign (n % 2 ^ 63))
  else some (.finite sign (significand n) (lowest + exponent n - 1))

def isDenormal (n : Nat) : Bool := exponent n = 0 && significand n ≠ 0

def isZero (n : Nat) : Bool := n % 2 ^ 79 = 0

/-- Inserts the first bit of the significand. -/
def ofFormat (n : Nat) : Nat :=
  let first := if n / 2 ^ 63 % 2 ^ 15 = 0 then 0 else 2 ^ 63
  n / 2 ^ 63 * 2 ^ 64 + first + n % 2 ^ 63

/-- The bits of a value that fits. -/
def ofNumber (x : Number) : Nat := ofFormat ((Format.extended.round x).run {}).1

/-- The result of operations that have none. -/
def indefinite : Nat := ofNumber .indefinite

/-- Rounds to the significand of a format. -/
def round (precision : Format) (x : Number) : Floating Nat := do
  return ofNumber (precision.decode (← precision.round x))

/-- Of two operands, at least one of which is no number, the one that becomes the
    result: one that is no invalid operand, then the larger one, then the
    positive one. -/
def chosenNan (x y : Number) : Number :=
  match x, y with
  | .nan a n, .nan b k =>
    if x.isSignalling != y.isSignalling then if x.isSignalling then y else x
    else if n = k then .nan (a && b) n
    else if n < k then y else x
  | .nan .., _ => x
  | _, _ => y

end SourceDebugger.Machine.Extended
