/-
  Vectors as numbers, and functions on their lanes.  The lowest bits of the
  number are the first lane.

  * `Lanes.split` and `Lanes.join` go from a vector to its lanes and back;
  * `Lanes.zip` applies a function to pairs of lanes, `Lanes.blocks` a function
    to the blocks of 16 bytes that wide vectors consist of.
-/
import SourceDebugger.Machine.Floating

namespace SourceDebugger.Machine.Lanes

/-- A function of two vectors, by the number of their bytes. -/
abbrev Function := Nat → Nat → Nat → Nat

/-! ## Vectors and lanes -/

/-- The lane at a position. -/
def lane (bits n i : Nat) : Nat := n / 2 ^ (bits * i) % 2 ^ bits

/-- The lanes of a vector of so many bytes. -/
def split (bits bytes n : Nat) : List Nat :=
  (List.range (8 * bytes / bits)).map (lane bits n)

def join (bits : Nat) (lanes : List Nat) : Nat :=
  lanes.foldr (fun x n => n * 2 ^ bits + x % 2 ^ bits) 0

/-- A vector with one lane replaced. -/
def replace (bits n i x : Nat) : Nat :=
  n - lane bits n i * 2 ^ (bits * i) + x % 2 ^ bits * 2 ^ (bits * i)

/-- A vector with its lowest bits replaced. -/
def replaceLow (bits n x : Nat) : Nat := replace bits n 0 x

def map (bits : Nat) (f : Nat → Nat) (bytes a : Nat) : Nat :=
  join bits ((split bits bytes a).map f)

def zip (bits : Nat) (f : Nat → Nat → Nat) : Function := fun bytes a b =>
  join bits (List.zipWith f (split bits bytes a) (split bits bytes b))

/-- Applies a function to blocks of 16 bytes. -/
def blocks (f : Function) : Function := fun bytes a b =>
  if bytes ≤ 16 then f bytes a b
  else join 128 (List.zipWith (f 16) (split 128 bytes a) (split 128 bytes b))

/-- Pairs of neighbours. -/
def pairs : List Nat → List (Nat × Nat)
  | a :: b :: rest => (a, b) :: pairs rest
  | _ => []

/-! ## Signed lanes -/

def signed (bits n : Nat) : Int := if n < 2 ^ (bits - 1) then n else (n : Int) - 2 ^ bits

def ofInt (bits : Nat) (x : Int) : Nat := (x % 2 ^ bits).toNat

/-- The nearest number that a lane can hold. -/
def saturateSigned (bits : Nat) (x : Int) : Nat :=
  ofInt bits (max (-(2 ^ (bits - 1) : Int)) (min x (2 ^ (bits - 1) - 1)))

def saturateUnsigned (bits : Nat) (x : Int) : Nat := (max 0 (min x (2 ^ bits - 1))).toNat

/-- A function of signed lanes. -/
def zipSigned (bits : Nat) (f : Int → Int → Int) : Function :=
  zip bits fun x y => ofInt bits (f (signed bits x) (signed bits y))

/-- Lanes with all bits set where something holds. -/
def test (bits : Nat) (f : Nat → Nat → Bool) : Function :=
  zip bits fun x y => if f x y then 2 ^ bits - 1 else 0

/-! ## Sums and products -/

def add (bits : Nat) : Function := zip bits (· + ·)

def subtract (bits : Nat) : Function := zip bits fun x y => x + 2 ^ bits - y

def addSaturated (bits : Nat) (isSigned : Bool) : Function := zip bits fun x y =>
  if isSigned then saturateSigned bits (signed bits x + signed bits y)
  else saturateUnsigned bits (x + y)

def subtractSaturated (bits : Nat) (isSigned : Bool) : Function := zip bits fun x y =>
  if isSigned then saturateSigned bits (signed bits x - signed bits y) else x - y

def average (bits : Nat) : Function := zip bits fun x y => (x + y + 1) / 2

def multiplyLow (bits : Nat) : Function := zip bits (· * ·)

def multiplyHigh (bits : Nat) (isSigned : Bool) : Function := zip bits fun x y =>
  if isSigned then ofInt bits (signed bits x * signed bits y / 2 ^ bits) else x * y / 2 ^ bits

/-- The products of fractions of 15 bits, rounded. -/
def multiplyRounded : Function :=
  zip 16 fun x y => ofInt 16 ((signed 16 x * signed 16 y / 2 ^ 14 + 1) / 2)

/-- The products of every second lane. -/
def multiplyWide (isSigned : Bool) : Function := zip 64 fun x y =>
  if isSigned then ofInt 64 (signed 32 (x % 2 ^ 32) * signed 32 (y % 2 ^ 32))
  else x % 2 ^ 32 * (y % 2 ^ 32)

/-- Sums of the products of neighbours. -/
def multiplyAdd : Function := zip 32 fun x y =>
  let product (i : Nat) : Int := signed 16 (lane 16 x i) * signed 16 (lane 16 y i)
  ofInt 32 (product 0 + product 1)

/-- Sums of the products of neighbours, the first ones unsigned. -/
def multiplyAddBytes : Function := zip 16 fun x y =>
  let product (i : Nat) : Int := (lane 8 x i : Int) * signed 8 (lane 8 y i)
  saturateSigned 16 (product 0 + product 1)

/-- Sums of the distances of bytes. -/
def distances : Function := zip 64 fun x y =>
  (List.zipWith (fun p q => max p q - min p q) (split 8 8 x) (split 8 8 y)).sum

/-- A function of neighbours, first those of one vector, then those of the
    other. -/
def horizontal (bits : Nat) (f : Int → Int → Nat) : Function := blocks fun bytes a b =>
  join bits ((pairs (split bits bytes a ++ split bits bytes b)).map fun (x, y) =>
    f (signed bits x) (signed bits y))

/-! ## Comparisons and choices -/

def equal (bits : Nat) : Function := test bits (· == ·)

def greater (bits : Nat) : Function := test bits fun x y => signed bits y < signed bits x

def smaller (bits : Nat) (isSigned : Bool) : Function :=
  if isSigned then zipSigned bits min else zip bits min

def larger (bits : Nat) (isSigned : Bool) : Function :=
  if isSigned then zipSigned bits max else zip bits max

/-- Changes signs as the signs of other lanes say. -/
def withSigns (bits : Nat) : Function := zipSigned bits fun x y => x * y.sign

def absolute (bits : Nat) (bytes a : Nat) : Nat :=
  map bits (fun x => (signed bits x).natAbs) bytes a

/-- Lanes of the second vector where a lane of the mask is negative. -/
def blend (bits bytes a b mask : Nat) : Nat :=
  join bits (List.zipWith (fun (x, y) m => if m.testBit (bits - 1) then y else x)
    ((split bits bytes a).zip (split bits bytes b)) (split bits bytes mask))

/-- Lanes of the second vector where a bit of a number is set. -/
def choose (bits : Nat) (mask : Nat) : Function := fun bytes a b =>
  join bits (((split bits bytes a).zip (split bits bytes b)).mapIdx fun i (x, y) =>
    if mask.testBit i then y else x)

/-- The highest bits of the lanes, as a number. -/
def signs (bits bytes a : Nat) : Nat :=
  join 1 ((split bits bytes a).map fun x => x / 2 ^ (bits - 1))

/-! ## Bits -/

def ones (bytes : Nat) : Nat := 256 ^ bytes - 1

def and : Function := fun _ a b => a &&& b

def andNot : Function := fun bytes a b => (ones bytes - a) &&& b

def or : Function := fun _ a b => a ||| b

def xor : Function := fun _ a b => a ^^^ b

def shiftLeft (bits count : Nat) (bytes a : Nat) : Nat :=
  map bits (fun x => if bits ≤ count then 0 else x * 2 ^ count) bytes a

def shiftRight (bits count : Nat) (bytes a : Nat) : Nat :=
  map bits (fun x => if bits ≤ count then 0 else x / 2 ^ count) bytes a

def shiftSigned (bits count : Nat) (bytes a : Nat) : Nat :=
  map bits (fun x => ofInt bits (signed bits x / 2 ^ (min count (bits - 1)))) bytes a

/-- Moves bytes within blocks. -/
def moveBytes (isLeft : Bool) (count : Nat) (bytes a : Nat) : Nat :=
  map 128 (fun x =>
    if 16 ≤ count then 0 else if isLeft then x * 256 ^ count else x / 256 ^ count) bytes a

/-- The bytes behind a position of two blocks that follow each other. -/
def align (count : Nat) : Function := blocks fun bytes a b =>
  (a * 256 ^ bytes + b) / 256 ^ count % 256 ^ bytes

/-! ## Order -/

/-- Packs lanes into lanes of half their size. -/
def pack (bits : Nat) (f : Int → Nat) : Function := blocks fun bytes a b =>
  join (bits / 2) ((split bits bytes a ++ split bits bytes b).map fun x => f (signed bits x))

/-- The lanes of one half of two vectors, in turns. -/
def interleave (bits : Nat) (isHigh : Bool) : Function := blocks fun bytes a b =>
  let half (n : Nat) : List Nat :=
    let lanes := split bits bytes n
    if isHigh then lanes.drop (lanes.length / 2) else lanes.take (lanes.length / 2)
  join bits ((half a).zip (half b) |>.flatMap fun (x, y) => [x, y])

/-- Lanes at the positions that two bits each of a number say. -/
def shuffle (bits : Nat) (order : Nat) (bytes a : Nat) : Nat :=
  let count := 8 * bytes / bits
  join bits ((List.range count).map fun i => lane bits a (order / 4 ^ i % 4))

/-- A function of each block. -/
def eachBlock (f : Nat → Nat) (bytes a : Nat) : Nat := map 128 f bytes a

/-- Bytes at the positions that the bytes of another vector say; none where they
    are negative. -/
def shuffleBytes : Function := blocks fun bytes a b =>
  join 8 ((split 8 bytes b).map fun i => if i.testBit 7 then 0 else lane 8 a (i % bytes))

/-- Two lanes of one vector, then two of another. -/
def shuffleSingles (order : Nat) : Function := blocks fun _ a b =>
  join 32 ([(a, 0), (a, 1), (b, 2), (b, 3)].map fun (n, i) => lane 32 n (order / 4 ^ i % 4))

/-- A lane of one vector, then one of another; each block has two bits. -/
def shuffleDoubles (order : Nat) : Function := fun bytes a b =>
  join 64 ((List.range (bytes / 8)).map fun i =>
    let base := i / 2 * 2
    lane 64 (if i % 2 = 0 then a else b) (base + order / 2 ^ i % 2))

/-- Widens the first lanes. -/
def widen (isSigned : Bool) (narrow wide : Nat) (bytes a : Nat) : Nat :=
  join wide ((split narrow (bytes * narrow / wide) a).map fun x =>
    if isSigned then ofInt wide (signed narrow x) else x)

/-- The first lane, everywhere. -/
def spread (bits bytes a : Nat) : Nat :=
  join bits (List.replicate (8 * bytes / bits) (lane bits a 0))

/-! ## Computations with numbers -/

/-- Computes with pairs of lanes. -/
def compute (bits : Nat) (f : Nat → Nat → Floating Nat) (bytes a b : Nat) : Floating Nat := do
  let lanes ← ((split bits bytes a).zip (split bits bytes b)).mapM fun (x, y) => f x y
  return join bits lanes

/-- Computes with lanes. -/
def computeEach (bits : Nat) (f : Nat → Floating Nat) (bytes a : Nat) : Floating Nat := do
  return join bits (← (split bits bytes a).mapM f)

end SourceDebugger.Machine.Lanes
