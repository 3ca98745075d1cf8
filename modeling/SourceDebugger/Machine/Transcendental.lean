/-
  Powers, logarithms and angles.  The values are sums of series in fixed point,
  with many more bits than a format has, so that rounding them is as good as
  rounding the exact value.

  * `Transcendental.powerMinusOne` is 2 to a number, less one;
  * `Transcendental.logarithm` is the logarithm to base 2 of a number, or of one
    more than it;
  * `Transcendental.sine`, `Transcendental.cosine` and `Transcendental.tangent`
    are functions of an angle, `Transcendental.angle` is that of a point.
-/
import SourceDebugger.Machine.Floating

namespace SourceDebugger.Machine.Transcendental

open Number

/-! ## Fixed point

A number stands for itself divided by a power of two, which is told by the number
of bits behind the point. -/

variable (bits : Nat)

/-- The number one. -/
def one : Int := 2 ^ bits

def product (a b : Int) : Int := (a * b).tdiv (one bits)

def quotient (a b : Int) : Int := (a * one bits).tdiv b

def root (a : Int) : Int := rootOf (a * one bits).toNat

/-- The number with a significand and an exponent. -/
def ofParts (isNegative : Bool) (m : Nat) (e : Int) : Int :=
  let size := if 0 ≤ e + bits then m * 2 ^ (e + bits).toNat else m / 2 ^ (e + bits).natAbs
  signed isNegative size

/-- A number that was cut off, as a value. -/
def toNumber (n : Int) : Number := finite (n < 0) (sticky n.natAbs false) (-(bits : Int) - 1)

/-- The sum of the values of some states, each of which follows from the one before
    it, up to one that is zero. -/
def sum (value next : Nat → Int → Int) : Nat → Nat → Int → Int
  | 0, _, _ => 0
  | n + 1, k, a => if a = 0 then 0 else value k a + sum value next n (k + 1) (next k a)

/-- The sum of a series whose terms become smaller by half at least. -/
def series (value next : Nat → Int → Int) (first : Int) : Int :=
  sum value next (bits + 2) 0 first

/-! ## Series -/

/-- The angle with a small tangent, or with `isHyperbolic` half the logarithm of
    the quotient of one more and one less. -/
def arcSeries (isHyperbolic : Bool) (z : Int) : Int :=
  let square := product bits z z
  let factor := if isHyperbolic then square else -square
  series bits (fun k a => a.tdiv (2 * k + 1)) (fun _ a => product bits a factor) z

/-- The natural logarithm of two. -/
def logarithmOfTwo : Int := 2 * arcSeries bits true ((one bits).tdiv 3)

/-- The angle of half a turn. -/
def halfTurn : Int :=
  16 * arcSeries bits false ((one bits).tdiv 5) - 4 * arcSeries bits false ((one bits).tdiv 239)

/-- The exponential of a number, less one. -/
def exponentialMinusOne (x : Int) : Int :=
  series bits (fun _ a => a) (fun k a => (product bits a x).tdiv (k + 2)) x

/-- The sine of a small angle. -/
def sineSeries (x : Int) : Int :=
  let square := product bits x x
  series bits (fun _ a => a)
    (fun k a => -(product bits a square).tdiv ((2 * k + 2) * (2 * k + 3))) x

/-- The cosine of a small angle. -/
def cosineSeries (x : Int) : Int :=
  let square := product bits x x
  series bits (fun _ a => a)
    (fun k a => -(product bits a square).tdiv ((2 * k + 1) * (2 * k + 2))) (one bits)

/-- The angle with a tangent between zero and one: a larger one is halved some
    times first. -/
def arcTangent : Nat → Int → Int
  | 0, z => arcSeries bits false z
  | n + 1, z =>
    if 8 * z < one bits then arcSeries bits false z
    else
      let hypotenuse := root bits (one bits + product bits z z)
      2 * arcTangent n (quotient bits z (one bits + hypotenuse))

/-! ## Values -/

/-- The bits behind the point that are enough for numbers that are not small. -/
def enough : Nat := 200

/-- The exponent of the highest bit. -/
def topExponent (m : Nat) (e : Int) : Int := m.log2 + e

/-- The bits behind the point that are enough for a number. -/
def bitsFor (m : Nat) (e : Int) : Nat := enough + (-topExponent m e).toNat

/-- The value 2 to the power of a number, less one.  The number lies between -1 and
    1; others stay as they are. -/
def powerMinusOne (x : Number) : Number :=
  match x with
  | finite _ 0 _ => x
  | finite isNegative m e =>
    let bits := bitsFor m e
    let fixed := ofParts bits isNegative m e
    if one bits < fixed.natAbs then x
    else if fixed = one bits then ofInt 1
    else if fixed = -one bits then finite true 1 (-1)
    else toNumber bits (exponentialMinusOne bits (product bits fixed (logarithmOfTwo bits)))
  | infinite true => finite true 1 0
  | _ => x

/-- The logarithm to base 2 of a positive number; it is exact for powers of two. -/
def logarithmOf (m : Nat) (e : Int) : Number :=
  let top := topExponent m e
  if m = 2 ^ m.log2 then ofInt top
  else
    -- the number between 2/3 and 4/3 that differs by a power of two
    let isHigh := 2 * 2 ^ m.log2 < 3 * (m - 2 ^ m.log2)
    let exponent := if isHigh then top + 1 else top
    let place := if isHigh then m.log2 + 1 else m.log2
    let distance : Int := m - 2 ^ place
    let bits := bitsFor distance.natAbs (-(place : Int))
    let (distance, rest) := (ofParts bits (distance < 0) distance.natAbs (-(place : Int)), one bits)
    let natural := 2 * arcSeries bits true (quotient bits distance (2 * rest + distance))
    toNumber bits (exponent * rest + quotient bits natural (logarithmOfTwo bits))

/-- The logarithm to base 2 of one more than a number, which is not much smaller or
    larger than one. -/
def logarithmAbove (isNegative : Bool) (m : Nat) (e : Int) : Number :=
  if m = 0 then finite isNegative 0 0
  else
    let bits := bitsFor m e
    let x := ofParts bits isNegative m e
    let natural := 2 * arcSeries bits true (quotient bits x (2 * one bits + x))
    toNumber bits (quotient bits natural (logarithmOfTwo bits))

/-- The logarithm of a number; none if it is negative. -/
def logarithm? : Number → Option Number
  | finite _ 0 _ => some (infinite true)
  | finite false m e => some (logarithmOf m e)
  | infinite false => some (infinite false)
  | _ => none

/-- A number times a logarithm. -/
def timesLogarithm (y x : Number) : Floating Number :=
  match logarithm? x with
  | none => invalid
  | some log => do
    match y with
    | finite _ m _ => if x.isZero && m ≠ 0 then Floating.raise .divisionByZero
    | _ => pure ()
    multiply y log

/-- A number times the logarithm of one more than another one. -/
def timesLogarithmAbove (y x : Number) : Floating Number :=
  match x with
  | finite isNegative m e => multiply y (logarithmAbove isNegative m e)
  | infinite false => multiply y x
  | _ => invalid

/-! ## Angles -/

/-- Half a turn, as angles are reduced by it: with 64 bits behind the point. -/
def reducingHalfTurn : Nat := 0x3243f6a8885a308d3

/-- An angle as a number of quarter turns, and the rest, which is at most the half
    of one. -/
def reduced (bits : Nat) (x : Int) : Int × Int :=
  let quarter : Int := reducingHalfTurn * 2 ^ (bits - 65)
  let turns := (2 * x + quarter) / (2 * quarter)
  (turns, x - turns * quarter)

/-- The bits that are enough for an angle: it may be close to a quarter turn. -/
def bitsForAngle (m : Nat) (e : Int) : Nat := bitsFor m e + 80

/-- Sine and cosine. -/
def sineAndCosine (bits : Nat) (x : Int) : Int × Int :=
  let (turns, rest) := reduced bits x
  let (s, c) := (sineSeries bits rest, cosineSeries bits rest)
  match turns % 4 with
  | 0 => (s, c)
  | 1 => (c, -s)
  | 2 => (-s, -c)
  | _ => (-c, s)

/-- A function of an angle by its sine and cosine. -/
def ofAngle (f : Nat → Int × Int → Int) (x : Number) : Floating Number :=
  match x with
  | finite isNegative m e =>
    let bits := bitsForAngle m e
    return toNumber bits (f bits (sineAndCosine bits (ofParts bits isNegative m e)))
  | _ => invalid

def sine (x : Number) : Floating Number :=
  if x.isZero then return x else ofAngle (fun _ v => v.1) x

def cosine (x : Number) : Floating Number :=
  if x.isZero then return ofInt 1 else ofAngle (fun _ v => v.2) x

def tangent (x : Number) : Floating Number :=
  if x.isZero then return x else ofAngle (fun bits v => quotient bits v.1 v.2) x

/-- A part of half a turn: four quarters of it. -/
def partOfHalfTurn (isNegative : Bool) (quarters : Nat) : Number :=
  let n := (halfTurn enough) * quarters / 4
  toNumber enough (if isNegative then -n else n)

/-- The angle of a point at finite distances, the vertical and the horizontal
    one. -/
def angleOf (isNegative isLeft : Bool) (m n : Nat) (e g : Int) : Number :=
  let difference := topExponent n g - topExponent m e
  let bits := enough + difference.toNat
  -- the larger distance becomes one
  let scale := max (topExponent m e) (topExponent n g)
  let y := ofParts bits false m (e - scale)
  let x := ofParts bits false n (g - scale)
  let near := if y ≤ x then arcTangent bits 4 (quotient bits y x)
    else halfTurn bits / 2 - arcTangent bits 4 (quotient bits x y)
  let all := if isLeft then halfTurn bits - near else near
  toNumber bits (if isNegative then -all else all)

/-- The angle of a point. -/
def angle (y x : Number) : Floating Number :=
  let sign := y.isNegative
  let isLeft := x.isNegative
  match y, x with
  | infinite _, infinite _ => return partOfHalfTurn sign (if isLeft then 3 else 1)
  | infinite _, _ => return partOfHalfTurn sign 2
  | _, infinite _ => return if isLeft then partOfHalfTurn sign 4 else finite sign 0 0
  | finite _ m e, finite _ n g =>
    if m = 0 then return if isLeft then partOfHalfTurn sign 4 else finite sign 0 0
    else if n = 0 then return partOfHalfTurn sign 2
    else return angleOf sign isLeft m n e g
  | _, _ => return y

end SourceDebugger.Machine.Transcendental
