/-
  Readable names of symbols.  Compilers mangle the path of an item into its
  symbol, in an older scheme (`_ZN…E`) or a newer one (`_R…`).

  * `Demangle.readable` gives the path, without hashes; a symbol of neither
    scheme stays as it is.
-/
import SourceDebugger.Text.Demangle.Elements
import SourceDebugger.Text.Demangle.Paths

namespace SourceDebugger.Demangle

/-- What some tools put behind a symbol, before a number. -/
def renameMark : List Char := ".llvm.".toList

/-- What stands before and behind the first `renameMark`. -/
def splitAtMark? : List Char → List Char → Option (List Char × List Char)
  | _, [] => none
  | front, c :: cs =>
    if renameMark.isPrefixOf (c :: cs) then
      some (front.reverse, (c :: cs).drop renameMark.length)
    else splitAtMark? (c :: front) cs

/-- A character of the number behind `renameMark`. -/
def isRenameDigit (c : Char) : Bool := c.isDigit || ('A' ≤ c && c ≤ 'F') || c == '@'

/-- A symbol without a number that was put behind it. -/
def withoutRename (symbol : List Char) : List Char :=
  match splitAtMark? [] symbol with
  | some (front, number) => if number.all isRenameDigit then front else symbol
  | none => symbol

/-- Words that may follow a mangled name: a dot and visible characters. -/
def isSuffix : List Char → Bool
  | [] => true
  | '.' :: cs => cs.all fun c => 0x20 < c.toNat && c.toNat < 0x7f
  | _ => false

/-- The path that a symbol stands for, and what follows it. -/
def path? (symbol : List Char) : Option (String × List Char) :=
  match Elements.ofSymbol? symbol with
  | some (elements, suffix) => some (Elements.render elements, suffix)
  | none => (Paths.ofSymbol? symbol).map fun (body, suffix) => (Paths.render body, suffix)

/-- The readable name of a symbol. -/
def readable (name : String) : String :=
  let symbol := withoutRename name.toList
  match path? symbol with
  | some (path, suffix) =>
    if isSuffix suffix then path ++ String.ofList suffix else String.ofList symbol
  | none => String.ofList symbol

end SourceDebugger.Demangle
