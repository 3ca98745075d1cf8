/-
  Numbers as text.  The debugger prints every address, word and register value
  in lower case hexadecimal and reads numbers as decimal or, after `0x` or
  `0X`, as hexadecimal of either case.

  * `hex` and `paddedHex` print the digits of a number, the second one with
    leading zeros up to a width; `decimal` prints the decimal digits;
  * `value? base` is the number that a non-empty list of digits denotes;
  * `parse?` reads a number below `2 ^ 64`: an optional `0x` or `0X`, an
    optional single `+`, then digits of the base the first part selects;
    `read?` is the part of it behind the base.
-/
import SourceDebugger.Arithmetic

namespace SourceDebugger.Numeral

/-! ## Digits -/

/-- The value of a digit of `base` (at most sixteen), letters of either case. -/
def digit? (base : Nat) (c : Char) : Option Nat :=
  let d :=
    if '0' ≤ c ∧ c ≤ '9' then c.toNat - '0'.toNat
    else if 'a' ≤ c ∧ c ≤ 'f' then c.toNat - 'a'.toNat + 10
    else if 'A' ≤ c ∧ c ≤ 'F' then c.toNat - 'A'.toNat + 10
    else base
  if d < base then some d else none

/-- Continues reading digits after a number `n`. -/
def valueFrom? (base : Nat) : Nat → List Char → Option Nat
  | n, [] => some n
  | n, c :: cs => (digit? base c).bind fun d => valueFrom? base (n * base + d) cs

/-- The number that the digits `cs` denote, `none` if there is no digit or a
    character that is none. -/
def value? (base : Nat) (cs : List Char) : Option Nat :=
  if cs.isEmpty then none else valueFrom? base 0 cs

/-! ## Printing -/

/-- Lower case hexadecimal digits, at least one. -/
def hexDigits (n : Nat) : List Char := Nat.toDigits 16 n

/-- `cs` with `c` in front, so that it has at least `width` characters. -/
def padLeft (width : Nat) (c : Char) (cs : List Char) : List Char :=
  List.replicate (width - cs.length) c ++ cs

def hex (n : Nat) : String := String.ofList (hexDigits n)

/-- Hexadecimal digits with leading zeros up to `width`. -/
def paddedHex (width n : Nat) : String := String.ofList (padLeft width '0' (hexDigits n))

def decimal (n : Nat) : String := String.ofList (Nat.toDigits 10 n)

/-- Decimal digits with leading blanks up to `width`. -/
def paddedDecimal (width n : Nat) : String :=
  String.ofList (padLeft width ' ' (Nat.toDigits 10 n))

/-- `text` with blanks behind it up to `width` characters. -/
def padRight (width : Nat) (text : String) : String :=
  text ++ String.ofList (List.replicate (width - text.length) ' ')

/-! ## Reading -/

/-- Drops one leading `+`. -/
def dropPlus : List Char → List Char
  | '+' :: cs => cs
  | cs => cs

/-- The base a text selects, and the text behind the mark that selects it. -/
def splitBase : List Char → Nat × List Char
  | '0' :: 'x' :: cs => (16, cs)
  | '0' :: 'X' :: cs => (16, cs)
  | cs => (10, cs)

/-- Reads digits of `base` that denote a number which fits into 64 bits. -/
def read? (base : Nat) (cs : List Char) : Option UInt64 :=
  match value? base (dropPlus cs) with
  | some n => if n < UInt64.size then some (UInt64.ofNat n) else none
  | none => none

/-- Reads a number that fits into 64 bits. -/
def parse? (text : String) : Option UInt64 :=
  let (base, cs) := splitBase text.toList
  read? base cs

end SourceDebugger.Numeral
