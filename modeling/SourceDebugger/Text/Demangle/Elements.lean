/-
  The older scheme of symbol names: `_ZN`, elements with their lengths, `E`.
  The last element may be a hash.

  * `Elements.ofSymbol?` splits a symbol into elements and what follows;
  * `Elements.render` joins them with `::`, without the hash and with escapes
    replaced by the characters they stand for.
-/
import SourceDebugger.Text.Numeral

namespace SourceDebugger.Elements

/-- `cs` behind `mark`. -/
def behind? (mark : String) (cs : List Char) : Option (List Char) :=
  if mark.toList.isPrefixOf cs then some (cs.drop mark.length) else none

/-- Reads elements up to an `E`, at most `limit`; the rest follows the `E`. -/
def readUpTo : Nat → List Char → Option (List (List Char) × List Char)
  | 0, _ => none
  | _ + 1, 'E' :: rest => some ([], rest)
  | limit + 1, cs => do
    let digits := cs.takeWhile Char.isDigit
    let n ← Numeral.value? 10 digits
    let body := cs.drop digits.length
    if body.length ≤ n then none
    else
      let (elements, rest) ← readUpTo limit (body.drop n)
      return (body.take n :: elements, rest)

/-- The elements of a symbol, and what follows them. -/
def ofSymbol? (symbol : List Char) : Option (List (List Char) × List Char) := do
  let cs ← ((behind? "_ZN" symbol).or (behind? "ZN" symbol)).or (behind? "__ZN" symbol)
  if cs.all (·.toNat < 0x80) then readUpTo (cs.length + 1) cs else none

/-- An element that is `h` and hexadecimal digits. -/
def isHash : List Char → Bool
  | 'h' :: cs => cs.all fun c => (Numeral.digit? 16 c).isSome
  | _ => false

/-- A character with a code in lower case digits, unless it is a control. -/
def coded? (digits : List Char) : Option Char := do
  if digits.any Char.isUpper then none
  let n ← Numeral.value? 16 digits
  if n.isValidChar ∧ 0x1f < n ∧ ¬(0x7f ≤ n ∧ n ≤ 0x9f) then some (Char.ofNat n) else none

/-- The character that an escape between two `$` stands for. -/
def unescape? (name : List Char) : Option Char :=
  match String.ofList name with
  | "SP" => some '@'
  | "BP" => some '*'
  | "RF" => some '&'
  | "LT" => some '<'
  | "GT" => some '>'
  | "LP" => some '('
  | "RP" => some ')'
  | "C" => some ','
  | _ =>
    match name with
    | 'u' :: digits => coded? digits
    | _ => none

/-- Replaces escapes, and two dots by `::`.  From an unknown escape on, nothing
    is replaced.  At most `limit` steps. -/
def replaceUpTo : Nat → List Char → List Char
  | 0, cs => cs
  | _, [] => []
  | limit + 1, '.' :: '.' :: cs => ':' :: ':' :: replaceUpTo limit cs
  | limit + 1, '$' :: cs =>
    let name := cs.takeWhile (· != '$')
    if name.length < cs.length then
      match unescape? name with
      | some c => c :: replaceUpTo limit (cs.drop (name.length + 1))
      | none => '$' :: cs
    else '$' :: cs
  | limit + 1, c :: cs => c :: replaceUpTo limit cs

/-- The text of an element.  An underscore before an escape does not count. -/
def renderElement (element : List Char) : List Char :=
  let element := match element with
    | '_' :: '$' :: cs => '$' :: cs
    | cs => cs
  replaceUpTo element.length element

/-- Drops a hash at the end. -/
def withoutHash (elements : List (List Char)) : List (List Char) :=
  match elements.getLast? with
  | some last => if isHash last then elements.dropLast else elements
  | none => elements

def render (elements : List (List Char)) : String :=
  "::".intercalate ((withoutHash elements).map fun e => String.ofList (renderElement e))

end SourceDebugger.Elements
