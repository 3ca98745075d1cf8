/-
  Comparisons of two texts in vectors, character by character.

  * `TextComparison` is what a comparison does, as a number of eight bits says;
  * `TextComparison.found` are the characters of the second text that it finds,
    `TextComparison.flags` what it tells in the flags.
-/
import SourceDebugger.Machine.Instruction
import SourceDebugger.Machine.Lanes

namespace SourceDebugger.Machine

/-- How texts are compared, by two bits. -/
inductive TextRelation where
  /-- A character is one of those of the first text. -/
  | isAny
  /-- A character lies between two neighbours in the first text. -/
  | isBetween
  /-- Characters at the same place are equal. -/
  | isEqual
  /-- The first text begins here. -/
  | begins
  deriving DecidableEq

structure TextComparison where
  /-- The number of bits of a character. -/
  bits : Nat
  isSigned : Bool
  relation : TextRelation
  /-- What is found is reversed, perhaps only where the second text is. -/
  isReversed : Bool
  onlyText : Bool
  /-- The highest of what is found counts, or whole characters are marked. -/
  isOther : Bool

namespace TextComparison

def ofNumber (n : Nat) : TextComparison where
  bits := if n.testBit 0 then 16 else 8
  isSigned := n.testBit 1
  relation := [TextRelation.isAny, .isBetween, .isEqual].getD (n / 4 % 4) .begins
  isReversed := n.testBit 4
  onlyText := n.testBit 5
  isOther := n.testBit 6

variable (c : TextComparison)

/-- The number of characters in a vector. -/
def count : Nat := 128 / c.bits

def character (a i : Nat) : Int :=
  let x := Lanes.lane c.bits a i
  if c.isSigned then Lanes.signed c.bits x else x

/-- The length of a text that ends at a zero. -/
def length (a : Nat) : Nat :=
  ((List.range c.count).find? fun i => Lanes.lane c.bits a i = 0).getD c.count

/-- The length that a number gives, whatever its sign. -/
def lengthOf (n : Int) : Nat := min n.natAbs c.count

/-- Whether the relation holds for the character at a place of the second text. -/
def holdsAt (a b lengthA lengthB i : Nat) : Bool :=
  let x := c.character a
  let y := c.character b
  match c.relation with
  | .isAny => i < lengthB && (List.range lengthA).any fun j => x j = y i
  | .isBetween =>
    i < lengthB && (List.range (lengthA / 2)).any fun j => x (2 * j) ≤ y i && y i ≤ x (2 * j + 1)
  | .isEqual =>
    if i < lengthA && i < lengthB then x i = y i else lengthA ≤ i && lengthB ≤ i
  | .begins =>
    (List.range (c.count - i)).all fun j =>
      lengthA ≤ j || (i + j < lengthB && x j = y (i + j))

/-- What is found, for each place. -/
def found (a b lengthA lengthB : Nat) : List Bool :=
  (List.range c.count).map fun i =>
    let isReversed := c.isReversed && (!c.onlyText || i < lengthB)
    c.holdsAt a b lengthA lengthB i != isReversed

/-- The first place where something is found, or the last one. -/
def position (found : List Bool) : Nat :=
  let places := (List.range c.count).filter fun i => found.getD i false
  (if c.isOther then places.getLast? else places.head?).getD c.count

/-- A mark at each place where something is found. -/
def marks (found : List Bool) : Nat :=
  let (bits, mark) := if c.isOther then (c.bits, 2 ^ c.bits - 1) else (1, 1)
  Lanes.join bits (found.map fun b => if b then mark else 0)

def flags (found : List Bool) (lengthA lengthB : Nat) : List (Flag × Bool) :=
  [(.carry, found.any id), (.zero, lengthB < c.count), (.sign, lengthA < c.count),
   (.overflow, found.headD false), (.adjust, false), (.parity, false)]

end TextComparison

end SourceDebugger.Machine
