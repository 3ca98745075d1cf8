/-
  Text from bytes in UTF-8.

  * `Utf8.next` reads one character, or says how many bytes at the front cannot
    begin one: the longest part of a well-formed sequence, at least one byte;
  * `Utf8.decode?` refuses malformed bytes, `Utf8.lossy` puts the replacement
    character for each such part.
-/
namespace SourceDebugger.Utf8

/-- The character that stands for malformed bytes. -/
def replacement : Char := '\uFFFD'

/-- The low six bits of a byte that continues a sequence. -/
def continuation? (low high : Nat) (b : UInt8) : Option Nat :=
  if low ≤ b.toNat ∧ b.toNat ≤ high then some (b.toNat % 64) else none

/-- The second bytes that may follow a first one, as a closed range, with the
    number of bytes behind the first and the bits of the first. -/
def lead? (b : UInt8) : Option (Nat × Nat × Nat × Nat) :=
  let n := b.toNat
  if 0xc2 ≤ n ∧ n ≤ 0xdf then some (0x80, 0xbf, 1, n % 32)
  else if n = 0xe0 then some (0xa0, 0xbf, 2, 0)
  else if n = 0xed then some (0x80, 0x9f, 2, n % 16)
  else if 0xe1 ≤ n ∧ n ≤ 0xef then some (0x80, 0xbf, 2, n % 16)
  else if n = 0xf0 then some (0x90, 0xbf, 3, 0)
  else if n = 0xf4 then some (0x80, 0x8f, 3, n % 8)
  else if 0xf1 ≤ n ∧ n ≤ 0xf3 then some (0x80, 0xbf, 3, n % 8)
  else none

/-- Reads `count` more bytes of a sequence with the bits `n` so far, `used`
    bytes being read; the next byte is to lie in a range. -/
def sequence (low high : Nat) : Nat → Nat → Nat → List UInt8 → Except Nat (Nat × Nat)
  | 0, n, used, _ => .ok (n, used)
  | _ + 1, _, used, [] => .error used
  | count + 1, n, used, b :: bs =>
    match continuation? low high b with
    | some d => sequence 0x80 0xbf count (n * 64 + d) (used + 1) bs
    | none => .error used

/-- The first character and the number of its bytes, or the number of bytes at
    the front that are part of no character.  The bytes are not empty. -/
def next (b : UInt8) (bs : List UInt8) : Except Nat (Char × Nat) :=
  if b < 0x80 then .ok (Char.ofNat b.toNat, 1)
  else
    match lead? b with
    | none => .error 1
    | some (low, high, count, bits) =>
      (sequence low high count bits 1 bs).map fun (n, used) => (Char.ofNat n, used)

/-- The characters of bytes, at most `limit` of them, with `bad` for malformed
    parts. -/
def decodeUpTo (bad : Option Char) : Nat → List UInt8 → Option (List Char)
  | 0, _ => some []
  | _, [] => some []
  | limit + 1, b :: bs =>
    match next b bs with
    | .ok (c, n) => (decodeUpTo bad limit ((b :: bs).drop n)).map (c :: ·)
    | .error n => do
      let c ← bad
      (decodeUpTo bad limit ((b :: bs).drop n)).map (c :: ·)

/-- The text that bytes denote, none if they are malformed. -/
def decode? (bytes : List UInt8) : Option String :=
  (decodeUpTo none bytes.length bytes).map String.ofList

/-- The text that bytes denote, with the replacement character for malformed
    parts. -/
def lossy (bytes : List UInt8) : String :=
  String.ofList ((decodeUpTo (some replacement) bytes.length bytes).getD [])

end SourceDebugger.Utf8
