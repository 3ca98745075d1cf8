/-
  Quoted text, as log messages show it: between double quotes, with escapes
  for control characters, the quote and the backslash, and for characters that
  have no shape of their own.

  * `string` quotes a text.
-/
import SourceDebugger.Text.Numeral
import SourceDebugger.Text.Printable

namespace SourceDebugger.Quoted

/-- The characters that stand for `c` inside quotes. -/
def escape (c : Char) : List Char :=
  match c with
  | '\x00' => ['\\', '0']
  | '\t' => ['\\', 't']
  | '\r' => ['\\', 'r']
  | '\n' => ['\\', 'n']
  | '\\' => ['\\', '\\']
  | '"' => ['\\', '"']
  | c =>
    if Printable.isPrintable c then [c]
    else ['\\', 'u', '\x7b'] ++ Numeral.hexDigits c.toNat ++ ['\x7d']

def string (text : String) : String :=
  String.ofList ('"' :: text.toList.flatMap escape ++ ['"'])

end SourceDebugger.Quoted
