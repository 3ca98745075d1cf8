/-
  Codes of Zstandard data in which a symbol is told by a state: from a state,
  some bits lead to the next one.  They are read backwards, from the last byte
  on.

  * `backward?` are the bits of a stream in the order in which they are read;
  * `StateCode.ofProbabilities` is the code for symbols with given
    probabilities, `StateCode.read?` one that is written in front of other data;
  * `StateCode.enter` reads the first state, `StateCode.follow` the next one.
-/
import SourceDebugger.Arithmetic

namespace SourceDebugger.Zstandard

/-! ## Bits -/

/-- Reads from bits; there is no result if they do not suffice. -/
abbrev BitReader : Type → Type := StateT (List Bool) Option

/-- The bits of bytes, the lowest of each byte first. -/
def forward (bytes : List UInt8) : List Bool :=
  bytes.flatMap fun b => (List.range 8).map fun i => b.toNat.testBit i

/-- The bits of a stream that is read from its end.  Up to seven zeros and a
    one stand in front of them. -/
def backward? (bytes : List UInt8) : Option (List Bool) :=
  let bits := (forward bytes).reverse
  let padding := bits.takeWhile (!·)
  if padding.length < 8 ∧ padding.length < bits.length then
    some (bits.drop (padding.length + 1))
  else none

namespace BitReader

def fail {α : Type} : BitReader α := fun _ => none

/-- The next bit. -/
def bit : BitReader Bool
  | [] => none
  | b :: bits => some (b, bits)

/-- Continues a number, the highest bit first. -/
def highFrom (m : Nat) : Nat → BitReader Nat
  | 0 => return m
  | n + 1 => do
    let b ← bit
    highFrom (2 * m + b.toNat) n

/-- A number of `n` bits, the highest first. -/
def high (n : Nat) : BitReader Nat := highFrom 0 n

/-- A number of `n` bits, the lowest first. -/
def low : Nat → BitReader Nat
  | 0 => return 0
  | n + 1 => do
    let b ← bit
    return b.toNat + 2 * (← low n)

/-- Whether `n` bits are left. -/
def has (n : Nat) : BitReader Bool := return n = 0 || !((← get).drop (n - 1)).isEmpty

end BitReader

/-- The number of binary digits. -/
def digits (n : Nat) : Nat := if n = 0 then 0 else n.log2 + 1

/-! ## Codes -/

/-- A state: the symbol it tells, and the next state as a base to which a
    number of `width` bits is added. -/
structure CodeState where
  symbol : Nat
  width : Nat
  base : Nat
  deriving Inhabited, DecidableEq

/-- A code with `2 ^ log` states. -/
structure StateCode where
  log : Nat
  states : Array CodeState
  deriving DecidableEq

namespace StateCode

/-- The code that has one symbol only, which takes no bits. -/
def constant (symbol : Nat) : StateCode := ⟨0, #[⟨symbol, 0, 0⟩]⟩

/-- The symbols of the states.  Symbols of the least probability, which is
    written as -1, have one state at the end each; the states of others are
    spread over the rest. -/
def spread (log : Nat) (probabilities : List Int) : Array Nat :=
  let size := 2 ^ log
  let symbols := probabilities.zipIdx
  let rare := (symbols.filter fun (p, _) => p = -1).map (·.2)
  let rest := size - rare.length
  let step := size / 2 + size / 8 + 3
  let places := ((List.range size).map fun i => i * step % size).filter (· < rest)
  let usual := symbols.flatMap fun (p, s) => List.replicate p.toNat s
  let placed := (places.zip usual).foldl (fun table (i, s) => table.setIfInBounds i s)
    (Array.replicate rest 0)
  placed ++ rare.reverse.toArray

/-- The code for symbols with given probabilities, whose sum is `2 ^ log`.  The
    states of a symbol share its probability: with each, the number of the
    states after it grows. -/
def ofProbabilities (log : Nat) (probabilities : List Int) : StateCode :=
  let start := probabilities.toArray.map fun p => if p = -1 then 1 else p.toNat
  let (_, states) := (spread log probabilities).foldl
    (fun (next, states) symbol =>
      let n := next.getD symbol 1
      let width := log - n.log2
      (next.setIfInBounds symbol (n + 1),
        states.push ⟨symbol, width, n * 2 ^ width - 2 ^ log⟩))
    (start, #[])
  ⟨log, states⟩

/-- Reads how many zeros follow a probability of zero, at most `limit` times
    three. -/
def zeros : Nat → BitReader Nat
  | 0 => BitReader.fail
  | limit + 1 => do
    let n ← BitReader.low 2
    if n = 3 then return 3 + (← zeros limit) else return n

/-- Reads probabilities until they add up to `left`, at most `limit`.  A number
    takes one bit less if it is small. -/
def probabilities : Nat → Nat → BitReader (List Int)
  | 0, _ => BitReader.fail
  | limit + 1, left => do
    if left = 0 then return []
    let width := digits (left + 1)
    let small := 2 ^ width - 1 - (left + 1)
    let bits ← get
    let n ← BitReader.low width
    let rest ← get
    let half := 2 ^ (width - 1)
    let value ←
      if n % half < small then do
        set (bits.drop (width - 1))
        pure (n % half)
      else do
        set rest
        pure (if half ≤ n then n - small else n)
    match value with
    | 0 => return -1 :: (← probabilities limit (left - 1))
    | 1 => do
      let more ← zeros limit
      return List.replicate (more + 1) 0 ++ (← probabilities limit left)
    | p + 1 => return (p : Int) :: (← probabilities limit (left - p))

/-- Reads a code that stands in front of other data; `maxLog` and `maxSymbol`
    bound it.  The result has the data behind it, from a whole byte on. -/
def read? (maxLog maxSymbol : Nat) (bytes : List UInt8) : Option (StateCode × List UInt8) := do
  let bits := forward bytes
  let (log, rest) ← (BitReader.low 4).run bits
  let log := log + 5
  if maxLog < log then none
  let (ps, rest) ← (probabilities (bits.length + 1) (2 ^ log)).run rest
  if maxSymbol + 1 < ps.length then none
  return (ofProbabilities log ps, bytes.drop (bytes.length - rest.length / 8))

/-! ## Reading -/

variable (code : StateCode)

/-- Reads the first state. -/
def enter : BitReader CodeState := do
  match code.states[← BitReader.high code.log]? with
  | some s => return s
  | none => BitReader.fail

/-- Reads the state after `s`. -/
def follow (s : CodeState) : BitReader CodeState := do
  match code.states[s.base + (← BitReader.high s.width)]? with
  | some s => return s
  | none => BitReader.fail

end StateCode

end SourceDebugger.Zstandard
