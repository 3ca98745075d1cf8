/-
  The sequences of a block of Zstandard data.  Each tells how many literals are
  output next, and which earlier output follows them.

  * `Sequences.read?` reads the sequences behind the literals of a block;
  * `Sequences.output?` carries them out.
-/
import SourceDebugger.Zstandard.Literals

namespace SourceDebugger.Zstandard

/-- A step of a block: literals, then a copy of `length` bytes.  The offset is
    one of the last three if it is small. -/
structure CopyStep where
  literals : Nat
  length : Nat
  offset : Nat
  deriving DecidableEq

/-- The kinds of numbers in a step. -/
inductive StepPart where
  | literals
  | offset
  | length
  deriving DecidableEq

namespace StepPart

/-- The codes of a kind of number: a base and the number of bits that are added
    to it. -/
def values : StepPart → List (Nat × Nat)
  | literals =>
    (List.range 16).map (·, 0) ++
    [(16, 1), (18, 1), (20, 1), (22, 1), (24, 2), (28, 2), (32, 3), (40, 3), (48, 4), (64, 6),
     (128, 7), (256, 8), (512, 9), (1024, 10), (2048, 11), (4096, 12), (8192, 13), (16384, 14),
     (32768, 15), (65536, 16)]
  | length =>
    (List.range 32).map (· + 3, 0) ++
    [(35, 1), (37, 1), (39, 1), (41, 1), (43, 2), (47, 2), (51, 3), (59, 3), (67, 4), (83, 4),
     (99, 5), (131, 7), (259, 8), (515, 9), (1027, 10), (2051, 11), (4099, 12), (8195, 13),
     (16387, 14), (32771, 15), (65539, 16)]
  | offset => (List.range 32).map fun n => (2 ^ n, n)

/-- The largest code that is written with a block. -/
def maxLog : StepPart → Nat
  | offset => 8
  | _ => 9

/-- The code that is used where a block brings none. -/
def usualCode : StepPart → StateCode
  | literals => .ofProbabilities 6
    [4, 3, 2, 2, 2, 2, 2, 2, 2, 2, 2, 2, 2, 1, 1, 1, 2, 2, 2, 2, 2, 2, 2, 2, 2, 3, 2, 1, 1, 1, 1,
     1, -1, -1, -1, -1]
  | length => .ofProbabilities 6
    [1, 4, 3, 2, 2, 2, 2, 2, 2, 1, 1, 1, 1, 1, 1, 1, 1, 1, 1, 1, 1, 1, 1, 1, 1, 1, 1, 1, 1, 1, 1,
     1, 1, 1, 1, 1, 1, 1, 1, 1, 1, 1, 1, 1, 1, 1, -1, -1, -1, -1, -1, -1, -1]
  | offset => .ofProbabilities 5
    [1, 1, 1, 1, 1, 1, 2, 2, 2, 1, 1, 1, 1, 1, 1, 1, 1, 1, 1, 1, 1, 1, 1, 1, -1, -1, -1, -1, -1]

/-- Reads the number with a code. -/
def value (p : StepPart) (code : Nat) : BitReader Nat := do
  match p.values[code]? with
  | some (base, bits) => return base + (← BitReader.high bits)
  | none => BitReader.fail

end StepPart

/-- The codes that later blocks may use again. -/
structure StepCodes where
  literals : Option StateCode := none
  offset : Option StateCode := none
  length : Option StateCode := none

namespace Sequences

/-- Reads the number of sequences. -/
def count? : List UInt8 → Option (Nat × List UInt8)
  | [] => none
  | a :: bytes =>
    if a < 128 then some (a.toNat, bytes)
    else if a < 255 then
      match bytes with
      | b :: bytes => some ((a.toNat - 128) * 256 + b.toNat, bytes)
      | [] => none
    else
      match bytes with
      | b :: c :: bytes => some (b.toNat + c.toNat * 256 + 0x7f00, bytes)
      | _ => none

/-- Reads the code for a kind of number in one of four ways. -/
def code? (p : StepPart) (mode : Nat) (earlier : Option StateCode) (bytes : List UInt8) :
    Option (StateCode × List UInt8) :=
  match mode with
  | 0 => some (p.usualCode, bytes)
  | 1 =>
    match bytes with
    | b :: bytes => some (.constant b.toNat, bytes)
    | [] => none
  | 2 => StateCode.read? p.maxLog (p.values.length - 1) bytes
  | _ => earlier.map (·, bytes)

/-- Reads `n` sequences from the present states; the last one is not followed
    by other states. -/
def steps (literals offset length : StateCode) :
    Nat → CodeState → CodeState → CodeState → BitReader (List CopyStep)
  | 0, _, _, _ => return []
  | n + 1, ls, os, ms => do
    let o ← StepPart.offset.value os.symbol
    let m ← StepPart.length.value ms.symbol
    let l ← StepPart.literals.value ls.symbol
    let step : CopyStep := ⟨l, m, o⟩
    if n = 0 then return [step]
    let ls ← literals.follow ls
    let ms ← length.follow ms
    let os ← offset.follow os
    return step :: (← steps literals offset length n ls os ms)

/-- Reads the rest of a block behind its literals. -/
def read? (codes : StepCodes) (bytes : List UInt8) : Option (List CopyStep × StepCodes) := do
  let first ← bytes.head?
  let (n, bytes) ← count? bytes
  if first = 0 then
    if bytes.isEmpty then return ([], codes) else none
  let (modes, bytes) ← match bytes with
    | b :: bytes => some (b.toNat, bytes)
    | [] => none
  if n = 0 then
    if bytes.isEmpty then return ([], codes) else none
  let (literals, bytes) ← code? .literals (modes / 64) codes.literals bytes
  let (offset, bytes) ← code? .offset (modes / 16 % 4) codes.offset bytes
  let (length, bytes) ← code? .length (modes / 4 % 4) codes.length bytes
  let read : BitReader (List CopyStep) := do
    let ls ← literals.enter
    let os ← offset.enter
    let ms ← length.enter
    steps literals offset length n ls os ms
  let (steps, rest) ← read.run (← backward? bytes)
  if !rest.isEmpty then none
  return (steps, { literals := some literals, offset := some offset, length := some length })

/-! ## Output -/

/-- The last three offsets, the latest first. -/
structure Offsets where
  a : Nat := 1
  b : Nat := 4
  c : Nat := 8

/-- The offset of a step, and the offsets after it.  Where no literals come
    first, the small numbers stand for other offsets. -/
def Offsets.next (s : Offsets) (step : CopyStep) : Nat × Offsets :=
  let n := if step.literals = 0 then step.offset + 1 else step.offset
  if 3 < step.offset then (step.offset - 3, ⟨step.offset - 3, s.a, s.b⟩)
  else if n = 1 then (s.a, s)
  else if n = 2 then (s.b, ⟨s.b, s.a, s.c⟩)
  else if n = 3 then (s.c, ⟨s.c, s.a, s.b⟩)
  else (s.a - 1, ⟨s.a - 1, s.a, s.b⟩)

/-- Adds `n` bytes, each a copy of the one `distance` before it. -/
def copy (distance : Nat) : Nat → Array UInt8 → Array UInt8
  | 0, output => output
  | n + 1, output => copy distance n (output.push (output.getD (output.size - distance) 0))

/-- Carries out steps, `start` being where the output of the frame begins, and
    adds the literals that are left. -/
def output? (start : Nat) : List CopyStep → List UInt8 → Offsets → Array UInt8 →
    Option (Array UInt8 × Offsets)
  | [], literals, s, output => some (output ++ literals.toArray, s)
  | step :: steps, literals, s, output => do
    if literals.length < step.literals then none
    let output := output ++ (literals.take step.literals).toArray
    let (distance, s) := s.next step
    if distance = 0 ∨ output.size - start < distance then none
    output? start steps (literals.drop step.literals) s (copy distance step.length output)

end Sequences

end SourceDebugger.Zstandard
