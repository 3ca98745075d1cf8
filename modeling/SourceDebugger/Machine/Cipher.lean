/-
  Arithmetic with bytes as polynomials over two elements, and the rounds of a
  block cipher that is built on it.

  * `Polynomial.multiply` and `Polynomial.inverse` compute modulo a polynomial of
    degree eight, `Polynomial.affine` multiplies the bits of a byte by a matrix;
  * `Cipher.encrypt` and `Cipher.decrypt` are one round on a block of 16 bytes,
    `Cipher.assistKey` is a step towards the keys of the rounds.
-/
import SourceDebugger.Machine.Lanes

namespace SourceDebugger.Machine

namespace Polynomial

/-- Multiplies by the variable. -/
def shift (a : Nat) : Nat := if a < 128 then 2 * a else 2 * a ^^^ 0x11b

/-- The product of two polynomials. -/
def multiply (a b : Nat) : Nat :=
  ((List.range 8).foldl (fun (sum, a) i => (if b.testBit i then sum ^^^ a else sum, shift a))
    (0, a)).1

/-- The inverse: the power to 254, the product of all squares but the first one.
    That of zero is zero. -/
def inverse (a : Nat) : Nat :=
  ((List.range 7).foldl (fun (product, power) _ =>
    let square := multiply power power
    (multiply product square, square)) (1, a)).1

/-- The parity of the bits that two bytes have in common. -/
def parity (a b : Nat) : Bool :=
  (List.range 8).foldl (fun p i => p != (a &&& b).testBit i) false

/-- Multiplies the bits of a byte by a matrix, whose rows are the bytes of a
    number, the highest one first, and adds a byte. -/
def affine (matrix added a : Nat) : Nat :=
  (List.range 8).foldl (fun n i =>
    if parity (Lanes.lane 8 matrix (7 - i)) a != added.testBit i then n + 2 ^ i else n) 0

end Polynomial

namespace Cipher

/-! ## Steps of a round -/

/-- The byte that replaces another one. -/
def substitute (a : Nat) : Nat :=
  Polynomial.affine 0xf1e3c78f1f3e7cf8 0x63 (Polynomial.inverse a)

def substituteBack (a : Nat) : Nat :=
  Polynomial.inverse (Polynomial.affine 0xa44992254a942952 0x05 a)

/-- The bytes of a block: four columns of four. -/
def bytes (block : Nat) : List Nat := Lanes.split 8 16 block

def ofBytes (bs : List Nat) : Nat := Lanes.join 8 bs

/-- Moves the bytes of each row by its number, to the front or to the back. -/
def moveRows (isBack : Bool) (block : Nat) : Nat :=
  ofBytes ((List.range 16).map fun i =>
    let (row, column) := (i % 4, i / 4)
    Lanes.lane 8 block (row + 4 * ((if isBack then column + 4 - row else column + row) % 4)))

/-- Multiplies each column by a matrix, whose rows are the moved factors. -/
def mixWith (factors : List Nat) (block : Nat) : Nat :=
  ofBytes ((List.range 16).map fun i =>
    (List.range 4).foldl (fun sum k =>
      let factor := factors.getD ((k + 4 - i % 4) % 4) 0
      sum ^^^ Polynomial.multiply factor (Lanes.lane 8 block (i / 4 * 4 + k))) 0)

def mix : Nat → Nat := mixWith [2, 3, 1, 1]

def mixBack : Nat → Nat := mixWith [14, 11, 13, 9]

/-! ## Rounds -/

/-- A round, or the last one. -/
def encrypt (isLast : Bool) (block key : Nat) : Nat :=
  let moved := ofBytes ((bytes (moveRows false block)).map substitute)
  (if isLast then moved else mix moved) ^^^ key

/-- A round backwards, or the last one. -/
def decrypt (isLast : Bool) (block key : Nat) : Nat :=
  let moved := ofBytes ((bytes (moveRows true block)).map substituteBack)
  (if isLast then moved else mixBack moved) ^^^ key

/-- The words from which the keys of the rounds are made. -/
def assistKey (constant a : Nat) : Nat :=
  let replaced (i : Nat) : Nat := Lanes.map 8 substitute 4 (Lanes.lane 32 a i)
  let rotated (x : Nat) : Nat := x / 2 ^ 8 + x % 2 ^ 8 * 2 ^ 24
  Lanes.join 32
    [replaced 1, rotated (replaced 1) ^^^ constant, replaced 3, rotated (replaced 3) ^^^ constant]

end Cipher

end SourceDebugger.Machine
