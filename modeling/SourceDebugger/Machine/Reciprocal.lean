/-
  Approximate reciprocals of single numbers and of their roots.

  The fraction of a result has twelve bits.  They are those of the reciprocal,
  rounded, of a number in the middle between those that have the same first
  bits as the operand.
-/
import SourceDebugger.Machine.Floating

namespace SourceDebugger.Machine.Reciprocal

/-- The quotient, rounded to the nearest number. -/
def roundedQuotient (n d : Nat) : Nat := (2 * n + d) / (2 * d)

/-- The number with an exponent and the first twelve bits of the fraction. -/
def single (isNegative : Bool) (exponent fraction : Nat) : Nat :=
  (if isNegative then 2 ^ 31 else 0) + exponent * 2 ^ 23 + fraction * 2 ^ 11

/-- The reciprocal of a normal number, by its exponent and fraction.  Results
    that are too small become zero. -/
def ofNormal (isNegative : Bool) (exponent fraction : Nat) : Nat :=
  let middle := 2 ^ 12 + 2 * (fraction / 2 ^ 12) + 1
  if 253 ≤ exponent then single isNegative 0 0
  else single isNegative (253 - exponent) (roundedQuotient (2 ^ 25) middle - 2 ^ 12)

/-- The reciprocal of the root of a normal number. -/
def ofRoot (exponent fraction : Nat) : Nat :=
  let isOdd := exponent % 2 = 0
  let middle := (2 ^ 11 + 2 * (fraction / 2 ^ 13) + 1) * if isOdd then 2 else 1
  let root := (Number.rootOf (2 ^ 39 / middle) + 1) / 2
  single false ((380 - exponent) / 2) (root - 2 ^ 12)

/-- The approximate reciprocal of a number or of its root.  Very small operands
    count as zero. -/
def approximate (isRoot : Bool) (a : Nat) : Nat :=
  let isNegative := a.testBit 31
  let exponent := a / 2 ^ 23 % 2 ^ 8
  let fraction := a % 2 ^ 23
  if exponent = 255 ∧ fraction ≠ 0 then a ||| 2 ^ 22
  else if exponent = 0 then single isNegative 255 0
  else if isRoot && isNegative then single true 255 (2 ^ 11)
  else if exponent = 255 then single isNegative 0 0
  else if isRoot then ofRoot exponent fraction
  else ofNormal isNegative exponent fraction

end SourceDebugger.Machine.Reciprocal
