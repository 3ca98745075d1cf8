/-
  Decompression of Zstandard data: frames of blocks, one behind the other.
  Checksums are not verified, and frames that can be skipped are.

  * `Zstandard.decompress?` is the output of all frames, none if the data is
    malformed.
-/
import SourceDebugger.Zstandard.Sequences

namespace SourceDebugger.Zstandard

open Literals

/-- What blocks of a frame leave to later ones. -/
structure FrameState where
  prefixCode : Option PrefixCode := none
  codes : StepCodes := {}
  offsets : Sequences.Offsets := {}

/-- The largest size of a block. -/
def maxBlockSize : Nat := 128 * 1024

/-- The largest distance of a copy that a frame may ask for. -/
def maxWindow : Nat := 100 * 1024 * 1024

/-- Adds the output of a compressed block. -/
def block? (start : Nat) (s : FrameState) (bytes : List UInt8) (output : Array UInt8) :
    Option (Array UInt8 × FrameState) := do
  let (literals, prefixCode, rest) ← Literals.read? s.prefixCode bytes
  let (steps, codes) ← Sequences.read? s.codes rest
  let (output, offsets) ← Sequences.output? start steps literals s.offsets output
  return (output, { prefixCode, codes, offsets })

/-- Reads blocks until the last one of a frame, at most `limit`. -/
def blocks? (start : Nat) :
    Nat → FrameState → List UInt8 → Array UInt8 → Option (Array UInt8 × List UInt8)
  | 0, _, _, _ => none
  | limit + 1, s, bytes, output => do
    let (header, bytes) ← split? 3 bytes
    let header := Literals.number header
    let size := header / 8
    if maxBlockSize < size then none
    let (output, s, bytes) ← match header / 2 % 4 with
      | 0 => do
        let (content, bytes) ← split? size bytes
        some (output ++ content.toArray, s, bytes)
      | 1 => do
        let (content, bytes) ← split? 1 bytes
        some (output ++ Array.replicate size (content.headD 0), s, bytes)
      | 2 => do
        let (content, bytes) ← split? size bytes
        let (output, s) ← block? start s content output
        some (output, s, bytes)
      | _ => none
    if header % 2 = 1 then return (output, bytes) else blocks? start limit s bytes output

/-- The window that a descriptor stands for. -/
def windowSize (descriptor : Nat) : Nat :=
  let base := 2 ^ (10 + descriptor / 8)
  base + base / 8 * (descriptor % 8)

/-- Reads a frame behind its first four bytes, and adds its output. -/
def frame? (bytes : List UInt8) (output : Array UInt8) : Option (Array UInt8 × List UInt8) := do
  let (descriptor, bytes) ← split? 1 bytes
  let descriptor := Literals.number descriptor
  let isSingle := descriptor.testBit 5
  let (window, bytes) ← split? (if isSingle then 0 else 1) bytes
  let (dictionary, bytes) ← split? ([0, 1, 2, 4].getD (descriptor % 4) 0) bytes
  let sizeWidth := match descriptor / 64 with
    | 0 => if isSingle then 1 else 0
    | 1 => 2
    | 2 => 4
    | _ => 8
  let (size, bytes) ← split? sizeWidth bytes
  let size := Literals.number size + if sizeWidth = 2 then 256 else 0
  if maxWindow < (if isSingle then size else windowSize (Literals.number window)) then none
  if Literals.number dictionary ≠ 0 then none
  let (output, bytes) ← blocks? output.size (bytes.length + 1) {} bytes output
  let (_, bytes) ← split? (if descriptor.testBit 2 then 4 else 0) bytes
  return (output, bytes)

/-- Reads frames until the data ends, at most `limit`. -/
def frames? : Nat → List UInt8 → Array UInt8 → Option (Array UInt8)
  | 0, _, _ => none
  | _ + 1, [], output => some output
  | limit + 1, bytes, output => do
    let (magic, bytes) ← split? 4 bytes
    let magic := Literals.number magic
    if magic = 0xfd2fb528 then
      let (output, bytes) ← frame? bytes output
      frames? limit bytes output
    else if magic / 16 = 0x184d2a5 then
      let (size, bytes) ← split? 4 bytes
      let (_, bytes) ← split? (Literals.number size) bytes
      frames? limit bytes output
    else none

/-- What Zstandard data stands for. -/
def decompress? (bytes : List UInt8) : Option (List UInt8) :=
  (frames? (bytes.length + 1) bytes #[]).map Array.toList

end SourceDebugger.Zstandard
