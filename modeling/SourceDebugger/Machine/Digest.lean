/-
  Steps of two digests of messages, on words of 32 bits.

  * `Digest.rounds` and `Digest.words` with their siblings belong to the older
    digest, whose state has five words;
  * `Digest.longRounds` and its siblings belong to the newer one, whose state has
    eight.
-/
import SourceDebugger.Machine.Lanes

namespace SourceDebugger.Machine.Digest

/-! ## Words -/

def word (n : Nat) : Nat := n % 2 ^ 32

def add (xs : List Nat) : Nat := word xs.sum

def rotateLeft (x n : Nat) : Nat := word (x * 2 ^ n) + x / 2 ^ (32 - n)

def rotateRight (x n : Nat) : Nat := rotateLeft x (32 - n)

/-- Chooses bits of two words by those of a first one. -/
def choose (x y z : Nat) : Nat := (x &&& y) ||| ((2 ^ 32 - 1 - x) &&& z)

/-- The bits that most of three words have. -/
def majority (x y z : Nat) : Nat := (x &&& y) ^^^ (x &&& z) ^^^ (y &&& z)

/-- The words of a vector, the highest one first. -/
def words (a : Nat) : List Nat := (Lanes.split 32 16 a).reverse

def ofWords (ws : List Nat) : Nat := Lanes.join 32 ws.reverse

/-! ## The older digest -/

/-- The function and the constant of a round. -/
def roundFunction (kind b c d : Nat) : Nat :=
  match kind with
  | 0 => add [choose b c d, 0x5a827999]
  | 1 => add [b ^^^ c ^^^ d, 0x6ed9eba1]
  | 2 => add [majority b c d, 0x8f1bbcdc]
  | _ => add [b ^^^ c ^^^ d, 0xca62c1d6]

/-- Four rounds on four words of the state; the fifth one is already in the
    first word of the message. -/
def rounds (kind state message : Nat) : Nat :=
  let step : List Nat × Nat → Nat → List Nat × Nat
    | ([a, b, c, d], e), w =>
      ([add [roundFunction kind b c d, rotateLeft a 5, w, e], a, rotateLeft b 30, c], d)
    | other, _ => other
  ofWords ((words message).foldl step (words state, 0)).1

/-- Adds the fifth word of the state, from before, to the message. -/
def addState (state message : Nat) : Nat :=
  let fifth := rotateLeft (Lanes.lane 32 state 3) 30
  Lanes.replace 32 message 3 (word (Lanes.lane 32 message 3 + fifth))

/-- The first part of the next words of the message. -/
def mixWords (a b : Nat) : Nat :=
  match words a, words b with
  | [w0, w1, w2, w3], w4 :: w5 :: _ => ofWords [w2 ^^^ w0, w3 ^^^ w1, w4 ^^^ w2, w5 ^^^ w3]
  | _, _ => 0

/-- The last part of the next words of the message. -/
def turnWords (a b : Nat) : Nat :=
  match words a, words b with
  | [x0, x1, x2, x3], [_, w13, w14, w15] =>
    let w16 := rotateLeft (x0 ^^^ w13) 1
    ofWords [w16, rotateLeft (x1 ^^^ w14) 1, rotateLeft (x2 ^^^ w15) 1, rotateLeft (x3 ^^^ w16) 1]
  | _, _ => 0

/-! ## The newer digest -/

def spread (x a b c : Nat) : Nat := rotateRight x a ^^^ rotateRight x b ^^^ rotateRight x c

def stir (x a b c : Nat) : Nat := rotateRight x a ^^^ rotateRight x b ^^^ x / 2 ^ c

/-- Two rounds; the state is in two vectors, and the words of the message with
    their constants are the lowest of a third one. -/
def longRounds (old state message : Nat) : Nat :=
  let step (s : List Nat) (i : Nat) : List Nat :=
    match s with
    | [a, b, c, d, e, f, g, h] =>
      let t := add [choose e f g, spread e 6 11 25, Lanes.lane 32 message i, h]
      [add [t, majority a b c, spread a 2 13 22], a, b, c, add [t, d], e, f, g]
    | other => other
  match words state, words old with
  | [a, b, e, f], [c, d, g, h] =>
    let s := (List.range 2).foldl step [a, b, c, d, e, f, g, h]
    ofWords [s.getD 0 0, s.getD 1 0, s.getD 4 0, s.getD 5 0]
  | _, _ => 0

/-- The first part of the next words of the message. -/
def longMixWords (a b : Nat) : Nat :=
  let next := Lanes.split 32 16 a ++ [Lanes.lane 32 b 0]
  Lanes.join 32 ((next.zip next.tail).map fun (x, y) => add [x, stir y 7 18 3])

/-- The last part of the next words of the message. -/
def longTurnWords (a b : Nat) : Nat :=
  let turn (i x : Nat) : Nat := add [Lanes.lane 32 a i, stir x 17 19 10]
  let w16 := turn 0 (Lanes.lane 32 b 2)
  let w17 := turn 1 (Lanes.lane 32 b 3)
  Lanes.join 32 [w16, w17, turn 2 w16, turn 3 w17]

end SourceDebugger.Machine.Digest
