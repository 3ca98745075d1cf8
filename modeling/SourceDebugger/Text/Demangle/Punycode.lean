/-
  Punycode: a text with any characters written with letters and digits.  The
  plain characters come first; the others follow as numbers that say where each
  is to be inserted and how far it is from the one before.

  * `Punycode.decode?` gives the text, none if the numbers are malformed or the
    text is longer than a limit.
-/
namespace SourceDebugger.Punycode

/-- The value of a digit of base 36. -/
def digit? (c : Char) : Option Nat :=
  if 'a' ≤ c ∧ c ≤ 'z' then some (c.toNat - 'a'.toNat)
  else if '0' ≤ c ∧ c ≤ '9' then some (c.toNat - '0'.toNat + 26)
  else none

/-- A digit below this value ends a number, at position `k`. -/
def threshold (k bias : Nat) : Nat := min (max (k - bias) 1) 26

/-- Continues a number at position `k`, where digits weigh `weight`. -/
def number? (bias : Nat) : Nat → Nat → Nat → List Char → Option (Nat × List Char)
  | _, _, _, [] => none
  | k, weight, n, c :: cs => do
    let d ← digit? c
    let t := threshold (k + 36) bias
    let n := n + d * weight
    if d < t then return (n, cs) else number? bias (k + 36) (weight * (36 - t)) n cs

/-- Divides by 35 until at most 455 is left; each division counts 36. -/
def settle (delta k : Nat) : Nat × Nat :=
  if 455 < delta then settle (delta / 35) (k + 36) else (delta, k)
termination_by delta

/-- The bias behind a number, in a text of `length` characters. -/
def adapt (delta damp length : Nat) : Nat :=
  let delta := delta / damp
  let (delta, k) := settle (delta + delta / length) 0
  k + 36 * delta / (delta + 38)

/-- A Unicode scalar value. -/
def scalar? (n : Nat) : Option Char :=
  if h : n.isValidChar then some (Char.ofNatAux n h) else none

/-- Inserts the characters that the rest of the numbers stand for. -/
def insertUpTo (limit : Nat) : Nat → (text : List Char) → (position last damp bias : Nat) →
    List Char → Option (List Char)
  | 0, text, _, _, _, _, _ => some text
  | numbers + 1, text, position, last, damp, bias, cs => do
    let (delta, cs) ← number? bias 0 1 0 cs
    let length := text.length + 1
    let code := last + (position + delta) / length
    let position := (position + delta) % length
    let c ← scalar? code
    if limit < length then none
    else
      let text := text.take position ++ c :: text.drop position
      if cs.isEmpty then some text
      else insertUpTo limit numbers text (position + 1) code 2 (adapt delta damp length) cs

/-- The text with the given plain characters and numbers. -/
def decode? (limit : Nat) (plain numbers : List Char) : Option (List Char) :=
  if numbers.isEmpty ∨ limit < plain.length then none
  else insertUpTo limit numbers.length plain 0 0x80 700 72 numbers

end SourceDebugger.Punycode
