/-
  Reading numbers and texts from bytes.  A decoder takes what it needs from the
  front of the bytes it is given and leaves the rest.

  * `Decoder.take` and `Decoder.number` read a fixed number of bytes, a number
    in the byte order of the file;
  * `Decoder.unsigned` and `Decoder.signed` read numbers of variable length,
    seven bits in a byte, the lowest first;
  * `Decoder.text` reads up to a zero byte;
  * `Decoder.runAt` decodes from a position on.
-/
import SourceDebugger.Failure

namespace SourceDebugger

/-- The order of the bytes of a number. -/
inductive ByteOrder where
  | little
  | big
  deriving DecidableEq

/-- The number that bytes denote. -/
def ByteOrder.number (order : ByteOrder) (bs : List UInt8) : Nat :=
  match order with
  | .little => bs.foldr (fun b n => n * 256 + b.toNat) 0
  | .big => bs.foldl (fun n b => n * 256 + b.toNat) 0

/-- The `count` lowest bytes of a number, the lowest one first. -/
def littleBytes (count n : Nat) : List UInt8 :=
  (List.range count).map fun i => UInt8.ofNat (n / 256 ^ i)

/-- Reads a value from the front of some bytes. -/
abbrev Decoder : Type → Type := StateT (List UInt8) (Except Malformed)

namespace Decoder

variable {α : Type}

def fail (e : Malformed) : Decoder α := fun _ => .error e

/-- Whether all bytes are read. -/
def atEnd : Decoder Bool := fun bs => .ok (bs.isEmpty, bs)

def byte : Decoder UInt8
  | [] => .error .endOfData
  | b :: bs => .ok (b, bs)

/-- The next `n` bytes. -/
def take (n : Nat) : Decoder (List UInt8) := fun bs =>
  if n ≤ bs.length then .ok (bs.splitAt n) else .error .endOfData

/-- Passes over `n` bytes. -/
def skip (n : Nat) : Decoder Unit := fun bs =>
  if n ≤ bs.length then .ok ((), bs.drop n) else .error .endOfData

/-- A number of `n` bytes. -/
def number (order : ByteOrder) (n : Nat) : Decoder Nat := order.number <$> take n

/-- The bytes before the next zero byte, which is passed over. -/
def text : Decoder (List UInt8)
  | [] => .error .endOfData
  | b :: bs => if b = 0 then .ok ([], bs) else (text bs).map fun (t, rest) => (b :: t, rest)

/-- Decodes with `d` from the first `n` of the bytes that follow. -/
def within (n : Nat) (d : Decoder α) : Decoder α := do
  match d.run (← take n) with
  | .ok (a, _) => return a
  | .error e => fail e

/-- Decodes the bytes from `offset` on. -/
def runAt (bytes : List UInt8) (offset : Nat) (d : Decoder α) : Except Malformed α :=
  Prod.fst <$> (do skip offset; d : Decoder α).run bytes

/-- Reads values with `d` as long as it gives one, at most `limit`. -/
def manyUpTo (d : Decoder (Option α)) : Nat → Decoder (List α)
  | 0 => pure []
  | limit + 1 => do
    match ← d with
    | none => return []
    | some a => return a :: (← manyUpTo d limit)

/-- Reads values until `d` gives none.  Each value takes a byte at least. -/
def many (d : Decoder (Option α)) : Decoder (List α) := fun bs =>
  manyUpTo d (bs.length + 1) bs

/-- Reads `n` values, each of which takes a byte at least. -/
def times (n : Nat) (d : Decoder α) : Decoder (List α) := fun bs =>
  if n ≤ bs.length then ((List.replicate n ()).mapM fun _ => d).run bs
  else .error .endOfData

/-! ## Numbers of variable length -/

/-- The seven bits of a byte that belong to the number. -/
def group (b : UInt8) : Nat := b.toNat % 128

/-- More bytes follow. -/
def continues (b : UInt8) : Bool := 128 ≤ b

/-- Continues an unsigned number at bit `shift`. -/
def unsignedFrom (shift : Nat) : Decoder Nat
  | [] => .error .endOfData
  | b :: bs =>
    if shift = 63 ∧ 1 < b then .error .overflow
    else if continues b then
      (unsignedFrom (shift + 7) bs).map fun (n, rest) => (group b * 2 ^ shift + n, rest)
    else .ok (group b * 2 ^ shift, bs)

/-- An unsigned number of at most 64 bits. -/
def unsigned : Decoder Nat := unsignedFrom 0

/-- An unsigned number of at most 16 bits in at most three bytes. -/
def unsigned16 : Decoder Nat := do
  let a ← byte
  if !continues a then return group a
  let b ← byte
  if !continues b then return group a + group b * 128
  let c ← byte
  if 3 < c then fail .overflow
  return group a + group b * 128 + c.toNat * 16384

/-- Continues a signed number at bit `shift`: its value before it is brought
    into 64 bits. -/
def signedFrom (shift : Nat) : Decoder Int
  | [] => .error .endOfData
  | b :: bs =>
    if shift = 63 ∧ b ≠ 0 ∧ b ≠ 0x7f then .error .overflow
    else if continues b then
      (signedFrom (shift + 7) bs).map fun (n, rest) => ((group b * 2 ^ shift : Nat) + n, rest)
    else if 64 ≤ b.toNat % 128 then .ok ((group b * 2 ^ shift : Nat) - 2 ^ (shift + 7), bs)
    else .ok ((group b * 2 ^ shift : Nat), bs)

/-- A signed number of at most 64 bits. -/
def signed : Decoder Int := signedFrom 0

end Decoder

end SourceDebugger
