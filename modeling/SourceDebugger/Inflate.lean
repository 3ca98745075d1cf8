/-
  Decompression of zlib data: a header, blocks of literal bytes and references
  to earlier output, and a checksum.

  * `Huffman.ofLengths?` is the prefix code with given code lengths,
    `Huffman.decode` reads a symbol of it;
  * `Inflate.zlib?` decompresses to a size that is known beforehand.  Reading
    stops where the input ends or where output beyond that size would begin.
-/
import SourceDebugger.Arithmetic

namespace SourceDebugger

/-- A canonical prefix code: for each length from one on, the symbols whose
    codes have it, in the order of their codes. -/
structure Huffman where
  symbols : List (List Nat)

namespace Inflate

/-- Why decompression stops early. -/
inductive Stop where
  | malformed
  /-- No input is left, or no room for output. -/
  | paused
  deriving DecidableEq

structure State where
  /-- The bits that are not read yet, in the order in which they are used. -/
  bits : List Bool
  output : Array UInt8 := #[]

abbrev Reader : Type → Type := EStateM Stop State

/-- The bits of bytes, the lowest of each byte first. -/
def bitsOf (bytes : List UInt8) : List Bool :=
  bytes.flatMap fun b => (List.range 8).map fun i => b.toNat.testBit i

namespace Reader

def bad {α : Type} : Reader α := throw .malformed

def bit : Reader Bool := fun s =>
  match s.bits with
  | [] => .error .paused s
  | b :: bits => .ok b { s with bits }

/-- A number of `n` bits, the lowest first. -/
def number : Nat → Reader Nat
  | 0 => pure 0
  | n + 1 => do
    let b ← bit
    return b.toNat + 2 * (← number n)

/-- Goes on to the next whole byte. -/
def align : Reader Unit := modify fun s => { s with bits := s.bits.drop (s.bits.length % 8) }

/-- How many more steps can be made: each takes a bit. -/
def stepsLeft : Reader Nat := return (← get).bits.length + 1

end Reader

end Inflate

namespace Huffman

open Inflate

/-- The longest code has this many bits. -/
def maxLength : Nat := 15

/-- What a code is for. -/
inductive Use where
  | lengths
  | literals
  | distances
  deriving DecidableEq

/-- The code with the given length for each symbol, zero for a symbol that does
    not occur.  The codes must fill the code space; only a code for literals or
    distances may have a single symbol, with one bit.  Without any symbol, each
    bit is a length of zero, or no distance. -/
def ofLengths? (use : Use) (lengths : List Nat) : Option Huffman :=
  let longest := lengths.foldl max 0
  let space := (lengths.map fun n => if n = 0 then 0 else 2 ^ (maxLength - n)).sum
  let code : Huffman := ⟨(List.range longest).map fun i =>
    (lengths.zipIdx.filter fun (n, _) => n == i + 1).map (·.2)⟩
  if longest = 0 then some ⟨[if use = .lengths then [0, 0] else []]⟩
  else if space = 2 ^ maxLength ∨ (space < 2 ^ maxLength ∧ use ≠ .lengths ∧ longest = 1) then
    some code
  else none

/-- Reads bits until they are the code of a symbol.  `code` are the bits read,
    `first` is the first code of the present length. -/
def decodeFrom (code first : Nat) : List (List Nat) → Reader Nat
  | [] => Reader.bad
  | symbols :: longer => do
    let code := 2 * code + (← Reader.bit).toNat
    let first := 2 * first
    match symbols[code - first]? with
    | some symbol => return symbol
    | none => decodeFrom code (first + symbols.length) longer

/-- Reads a symbol. -/
def decode (h : Huffman) : Reader Nat := decodeFrom 0 0 h.symbols

end Huffman

namespace Inflate

/-! ## Codes -/

/-- Base and number of extra bits of the lengths of references, from symbol 257
    on. -/
def lengthCodes : List (Nat × Nat) :=
  [(3, 0), (4, 0), (5, 0), (6, 0), (7, 0), (8, 0), (9, 0), (10, 0), (11, 1), (13, 1),
   (15, 1), (17, 1), (19, 2), (23, 2), (27, 2), (31, 2), (35, 3), (43, 3), (51, 3),
   (59, 3), (67, 4), (83, 4), (99, 4), (115, 4), (131, 5), (163, 5), (195, 5), (227, 5),
   (258, 0)]

/-- Base and number of extra bits of distances. -/
def distanceCodes : List (Nat × Nat) :=
  [(1, 0), (2, 0), (3, 0), (4, 0), (5, 1), (7, 1), (9, 2), (13, 2), (17, 3), (25, 3),
   (33, 4), (49, 4), (65, 5), (97, 5), (129, 6), (193, 6), (257, 7), (385, 7), (513, 8),
   (769, 8), (1025, 9), (1537, 9), (2049, 10), (3073, 10), (4097, 11), (6145, 11),
   (8193, 12), (12289, 12), (16385, 13), (24577, 13)]

/-- The order in which the lengths of the code length code are written. -/
def lengthOrder : List Nat := [16, 17, 18, 0, 8, 7, 9, 6, 10, 5, 11, 4, 12, 3, 13, 2, 14, 1, 15]

/-- The codes of blocks that bring none of their own. -/
def fixedLengths : List Nat :=
  List.replicate 144 8 ++ List.replicate 112 9 ++ List.replicate 24 7 ++ List.replicate 8 8

/-- The symbol that ends a block. -/
def endOfBlock : Nat := 256

def codeOf (use : Huffman.Use) (lengths : List Nat) : Reader Huffman :=
  match Huffman.ofLengths? use lengths with
  | some h => pure h
  | none => Reader.bad

/-- Reads `count` code lengths; three symbols repeat a length. -/
def codeLengths (h : Huffman) (count : Nat) : Nat → List Nat → Reader (List Nat)
  | 0, _ => Reader.bad
  | limit + 1, lengths => do
    if lengths.length = count then return lengths
    if count < lengths.length then Reader.bad
    let symbol ← h.decode
    if symbol < 16 then codeLengths h count limit (lengths ++ [symbol])
    else if symbol = 16 then
      let n ← Reader.number 2
      match lengths.getLast? with
      | none => Reader.bad
      | some last => codeLengths h count limit (lengths ++ List.replicate (n + 3) last)
    else if symbol = 17 then
      let n ← Reader.number 3
      codeLengths h count limit (lengths ++ List.replicate (n + 3) 0)
    else
      let n ← Reader.number 7
      codeLengths h count limit (lengths ++ List.replicate (n + 11) 0)

/-- Reads the codes of a block: one for literals and lengths, one for
    distances. -/
def dynamicCodes : Reader (Huffman × Huffman) := do
  let literals := (← Reader.number 5) + 257
  let distances := (← Reader.number 5) + 1
  let count := (← Reader.number 4) + 4
  if 286 < literals ∨ 30 < distances then Reader.bad
  let written ← (List.replicate count ()).mapM fun _ => Reader.number 3
  let lengthOf (i : Nat) : Nat := ((lengthOrder.zip written).lookup i).getD 0
  let h ← codeOf .lengths ((List.range 19).map lengthOf)
  let all ← codeLengths h (literals + distances) (literals + distances + 1) []
  if all[endOfBlock]? = some 0 then Reader.bad
  return (← codeOf .literals (all.take literals), ← codeOf .distances (all.drop literals))

/-! ## Blocks -/

variable (size : Nat)

/-- Stops if there is no room for output. -/
def room : Reader Unit := do
  if size ≤ (← get).output.size then throw .paused

/-- Adds a byte to the output. -/
def put (b : UInt8) : Reader Unit := do
  room size
  modify fun s => { s with output := s.output.push b }

/-- Adds `n` bytes, each a copy of the one `distance` before it. -/
def copy (distance : Nat) : Nat → Reader Unit
  | 0 => pure ()
  | n + 1 => do
    let output := (← get).output
    match output[output.size - distance]? with
    | none => Reader.bad
    | some b => do
      put size b
      copy distance n

/-- Adds the `n` bytes that follow. -/
def stored : Nat → Reader Unit
  | 0 => pure ()
  | n + 1 => do
    room size
    put size (UInt8.ofNat (← Reader.number 8))
    stored n

/-- A base with extra bits. -/
def extended (codes : List (Nat × Nat)) (i : Nat) : Reader Nat := do
  match codes[i]? with
  | none => Reader.bad
  | some (base, bits) => return base + (← Reader.number bits)

/-- Reads literals and references until the end of the block, at most `limit`. -/
def symbols (literal distance : Huffman) : Nat → Reader Unit
  | 0 => Reader.bad
  | limit + 1 => do
    let symbol ← literal.decode
    if symbol < endOfBlock then
      put size (UInt8.ofNat symbol)
      symbols literal distance limit
    else if symbol ≠ endOfBlock then
      let length ← extended lengthCodes (symbol - endOfBlock - 1)
      let back ← extended distanceCodes (← distance.decode)
      room size
      if (← get).output.size < back then Reader.bad
      copy size back length
      symbols literal distance limit

/-- Reads blocks until the last one, at most `limit`. -/
def blocks : Nat → Reader Unit
  | 0 => Reader.bad
  | limit + 1 => do
    let isLast ← Reader.bit
    match ← Reader.number 2 with
    | 0 => do
      Reader.align
      let n ← Reader.number 16
      let complement ← Reader.number 16
      if n + complement ≠ 0xffff then Reader.bad
      stored size n
    | 1 => do
      let literal ← codeOf .literals fixedLengths
      let distance ← codeOf .distances (List.replicate 32 5)
      symbols size literal distance (← Reader.stepsLeft)
    | 2 => do
      let (literal, distance) ← dynamicCodes
      symbols size literal distance (← Reader.stepsLeft)
    | _ => Reader.bad
    if !isLast then blocks limit

/-- The checksum of the output. -/
def checksum (output : Array UInt8) : Nat :=
  let (a, b) := output.foldl (fun (a, b) byte =>
    let a := (a + byte.toNat) % 65521
    (a, (b + a) % 65521)) (1, 0)
  b * 65536 + a

/-- A preset dictionary is named behind the header; there is none. -/
def dictionary : Reader Unit := do
  let _ ← Reader.number 32
  Reader.bad

/-- Reads header, blocks and checksum. -/
def stream : Reader Unit := do
  let method ← Reader.number 8
  let flags ← Reader.number 8
  if (method * 256 + flags) % 31 ≠ 0 ∨ method % 16 ≠ 8 ∨ 7 < method / 16 then Reader.bad
  if flags.testBit 5 then dictionary
  blocks size (← Reader.stepsLeft)
  Reader.align
  let sum ← (List.replicate 4 ()).mapM fun _ => Reader.number 8
  if sum.foldl (fun n b => n * 256 + b) 0 ≠ checksum (← get).output then Reader.bad

/-- The `size` bytes that zlib data stands for, none if the data stands for
    fewer or is malformed as far as it is read. -/
def zlib? (data : List UInt8) : Option (List UInt8) :=
  let output (s : State) : Option (List UInt8) :=
    if s.output.size = size then some s.output.toList else none
  match (stream size).run { bits := bitsOf data } with
  | .ok _ s => output s
  | .error .paused s => output s
  | .error .malformed _ => none

end Inflate

end SourceDebugger
