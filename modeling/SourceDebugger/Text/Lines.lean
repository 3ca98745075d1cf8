/-
  The lines of a text.  A line ends at a line feed, which may have a carriage
  return before it; the last line need not end.

  * `lines` are the lines without their ends;
  * `words` are the pieces between blanks, `trim` drops blanks at both ends.
-/
namespace SourceDebugger.Text

/-- Drops a carriage return at the end. -/
def dropReturn (cs : List Char) : List Char :=
  if cs.getLast? = some '\r' then cs.dropLast else cs

/-- The lines of `cs`, where `line` holds the characters of the current one. -/
def linesFrom (line : List Char) : List Char → List (List Char)
  | [] => if line.isEmpty then [] else [line.reverse]
  | '\n' :: cs => dropReturn line.reverse :: linesFrom [] cs
  | c :: cs => linesFrom (c :: line) cs

def lines (text : String) : List String := (linesFrom [] text.toList).map String.ofList

/-- The characters that count as blank. -/
def isBlank (c : Char) : Bool :=
  let n := c.toNat
  (0x9 ≤ n && n ≤ 0xd) || n == 0x20 || n == 0x85 || n == 0xa0 || n == 0x1680 ||
    (0x2000 ≤ n && n ≤ 0x200a) || n == 0x2028 || n == 0x2029 || n == 0x202f ||
    n == 0x205f || n == 0x3000

/-- `cs` without blanks at either end. -/
def trimChars (cs : List Char) : List Char :=
  ((cs.dropWhile isBlank).reverse.dropWhile isBlank).reverse

def trim (text : String) : String := String.ofList (trimChars text.toList)

/-- The pieces of `cs` between blanks, where `word` holds the characters of the
    current one. -/
def wordsFrom (word : List Char) : List Char → List (List Char)
  | [] => if word.isEmpty then [] else [word.reverse]
  | c :: cs =>
    if isBlank c then (if word.isEmpty then [] else [word.reverse]) ++ wordsFrom [] cs
    else wordsFrom (c :: word) cs

def words (text : String) : List String := (wordsFrom [] text.toList).map String.ofList

end SourceDebugger.Text
