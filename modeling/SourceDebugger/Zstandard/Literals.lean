/-
  The literal bytes of a block of Zstandard data: as they are, one byte many
  times, or in a prefix code that is written in front of them or was written in
  an earlier block.

  * `PrefixCode.read?` reads a prefix code, `PrefixCode.decode?` a stream in it;
  * `Literals.read?` reads the literals at the beginning of a block.
-/
import SourceDebugger.Zstandard.StateCode

namespace SourceDebugger.Zstandard

/-- A prefix code: for each length from one on, the bytes whose codes have it,
    in the order of their codes.  Longer codes come before shorter ones. -/
structure PrefixCode where
  symbols : List (List Nat)
  deriving DecidableEq

namespace PrefixCode

/-- The longest code has this many bits. -/
def maxLength : Nat := 11

/-- The code with the given weights.  A symbol of weight `w` has `2 ^ (w - 1)`
    parts of the code space, one of weight zero does not occur; the weight of
    the last symbol is what the others leave. -/
def ofWeights? (weights : List Nat) : Option PrefixCode :=
  let used := (weights.map fun w => 2 ^ w / 2).sum
  let longest := digits used
  let left := 2 ^ longest - used
  if weights.any (maxLength < ·) ∨ used = 0 ∨ maxLength < longest ∨ 2 ^ left.log2 ≠ left then none
  else
    let weights := weights ++ [digits left]
    some ⟨(List.range longest).map fun i =>
      (weights.zipIdx.filter fun (w, _) => w ≠ 0 ∧ longest + 1 - w = i + 1).map (·.2)⟩

/-- Reads weights with two states in turn until the bits do not suffice for the
    next state, at most `limit`. -/
def weightsFrom (code : StateCode) : Nat → CodeState → CodeState → BitReader (List Nat)
  | 0, _, _ => BitReader.fail
  | limit + 1, s, t => do
    if ← BitReader.has s.width then
      return s.symbol :: (← weightsFrom code limit t (← code.follow s))
    else return [s.symbol, t.symbol]

/-- The most weights that are written. -/
def maxWeights : Nat := 255

/-- Reads the weights of a code, and gives the data behind them. -/
def weights? (bytes : List UInt8) : Option (List Nat × List UInt8) := do
  let (first, bytes) ← match bytes with
    | [] => none
    | b :: bytes => some (b.toNat, bytes)
  if first < 128 then
    if bytes.length < first then none
    let (code, stream) ← StateCode.read? 20 255 (bytes.take first)
    let read : BitReader (List Nat) := do
      let s ← code.enter
      let t ← code.enter
      weightsFrom code maxWeights s t
    let (weights, _) ← read.run (← backward? stream)
    return (weights, bytes.drop first)
  else
    let count := first - 127
    let size := (count + 1) / 2
    if bytes.length < size then none
    let halves := (bytes.take size).flatMap fun b => [b.toNat / 16, b.toNat % 16]
    return (halves.take count, bytes.drop size)

/-- Reads a code, and gives the data behind it. -/
def read? (bytes : List UInt8) : Option (PrefixCode × List UInt8) := do
  let (weights, rest) ← weights? bytes
  return (← ofWeights? weights, rest)

/-- Where the codes of a length begin, given the symbols of longer codes:
    `symbols` is from the longest length on. -/
def firsts : Nat → List (List Nat) → List (Nat × List Nat)
  | _, [] => []
  | first, symbols :: shorter => (first, symbols) :: firsts ((first + symbols.length) / 2) shorter

/-- For each length from one on, the first code and the symbols. -/
def levels (code : PrefixCode) : List (Nat × List Nat) :=
  (firsts 0 code.symbols.reverse).reverse

/-- Reads bits until they are the code of a symbol; `word` are the bits read. -/
def symbolFrom (word : Nat) : List (Nat × List Nat) → BitReader Nat
  | [] => BitReader.fail
  | (first, symbols) :: longer => do
    let word := 2 * word + (← BitReader.high 1)
    match if first ≤ word then symbols[word - first]? else none with
    | some symbol => return symbol
    | none => symbolFrom word longer

/-- The symbols that all bits stand for, at most `limit`. -/
def all (levels : List (Nat × List Nat)) : Nat → BitReader (List UInt8)
  | 0 => return []
  | limit + 1 => do
    if ← BitReader.has 1 then
      let symbol ← symbolFrom 0 levels
      return UInt8.ofNat symbol :: (← all levels limit)
    else return []

/-- The bytes that a stream stands for. -/
def decode? (code : PrefixCode) (stream : List UInt8) : Option (List UInt8) := do
  let bits ← backward? stream
  (·.1) <$> (all code.levels bits.length).run bits

end PrefixCode

namespace Literals

/-- The number that bytes denote, the lowest first. -/
def number (bytes : List UInt8) : Nat := bytes.foldr (fun b n => n * 256 + b.toNat) 0

/-- The first `n` bytes and those behind them. -/
def split? (n : Nat) (bytes : List UInt8) : Option (List UInt8 × List UInt8) :=
  if n ≤ bytes.length then some (bytes.splitAt n) else none

/-- The parts into which four streams are split; the sizes of three stand in
    front of them. -/
def fourStreams? (bytes : List UInt8) : Option (List (List UInt8)) := do
  let (sizes, bytes) ← split? 6 bytes
  let (a, bytes) ← split? (number (sizes.take 2)) bytes
  let (b, bytes) ← split? (number ((sizes.drop 2).take 2)) bytes
  let (c, d) ← split? (number (sizes.drop 4)) bytes
  return [a, b, c, d]

/-- Literals in a prefix code, which is `code?` or stands in front of them. -/
def decode? (code? : Option PrefixCode) (isSplit : Bool) (bytes : List UInt8) :
    Option (List UInt8 × PrefixCode) := do
  let (code, bytes) ← match code? with
    | some code => some (code, bytes)
    | none => PrefixCode.read? bytes
  let streams ← if isSplit then fourStreams? bytes else some [bytes]
  return ((← streams.mapM code.decode?).flatten, code)

/-- Reads the literals of a block.  `code?` is the last prefix code of an
    earlier block; the result has the one for later blocks, and the rest of the
    block. -/
def read? (code? : Option PrefixCode) (block : List UInt8) :
    Option (List UInt8 × Option PrefixCode × List UInt8) := do
  let first ← block.head?
  let kind := first.toNat % 4
  let form := first.toNat / 4 % 4
  if kind < 2 then
    -- a size, then the bytes, or one byte that is repeated
    let width := if form = 1 then 2 else if form = 3 then 3 else 1
    let (header, rest) ← split? width block
    let size := number header / (if width = 1 then 8 else 16)
    if kind = 0 then
      let (literals, rest) ← split? size rest
      return (literals, code?, rest)
    else
      let (b, rest) ← split? 1 rest
      return (List.replicate size (b.headD 0), code?, rest)
  else
    -- two sizes, before and after decoding
    let (width, bits) := if form < 2 then (3, 10) else if form = 2 then (4, 14) else (5, 18)
    let (header, rest) ← split? width block
    let sizes := number header / 16
    let (data, rest) ← split? (sizes / 2 ^ bits) rest
    let earlier ← if kind = 2 then some none else code?.map some
    let (literals, code) ← decode? earlier (form ≠ 0) data
    if literals.length ≠ sizes % 2 ^ bits then none
    return (literals, some code, rest)

end Literals

end SourceDebugger.Zstandard
