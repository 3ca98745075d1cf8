/-
  Splitting a line into words as a shell does.  Words stand between blanks;
  single quotes keep everything, double quotes keep all but a backslash before
  `$`, a backquote, a double quote, a backslash or a line feed, and outside of
  quotes a backslash keeps the next character.  A `#` at the beginning of a
  word starts a comment.

  * `Shell.split?` gives the words, none if a quote is not closed or a
    backslash stands at the end.
-/
namespace SourceDebugger.Shell

/-- What the characters read so far leave open. -/
inductive Mode where
  | between
  | comment
  | word
  | escaped
  | single
  | double
  | doubleEscaped
  deriving DecidableEq

/-- The characters that separate words. -/
def isSeparator (c : Char) : Bool := c == ' ' || c == '\t' || c == '\n'

/-- The characters a backslash protects inside double quotes. -/
def isProtected (c : Char) : Bool := c == '$' || c.toNat == 0x60 || c == '"' || c == '\\'

/-- What the characters that begin or continue a word open. -/
def modeOf (c : Char) : Mode :=
  if c == '"' then .double else if c == '\'' then .single
  else if c == '\\' then .escaped else .word

/-- The characters that `c` adds to a word outside of quotes. -/
def added (c : Char) : List Char := if modeOf c = .word then [c] else []

/-- Splits the rest of a line; `word` are the characters of the present word in
    reverse. -/
def splitFrom : Mode → List Char → List Char → Option (List (List Char))
  | .between, _, [] => some []
  | .comment, _, [] => some []
  | .word, word, [] => some [word.reverse]
  | .escaped, _, [] => none
  | .single, _, [] => none
  | .double, _, [] => none
  | .doubleEscaped, _, [] => none
  | .between, _, c :: cs =>
    if isSeparator c then splitFrom .between [] cs
    else if c == '#' then splitFrom .comment [] cs
    else splitFrom (modeOf c) (added c) cs
  | .comment, _, c :: cs => splitFrom (if c == '\n' then .between else .comment) [] cs
  | .word, word, c :: cs =>
    if isSeparator c then (splitFrom .between [] cs).map (word.reverse :: ·)
    else splitFrom (modeOf c) (added c ++ word) cs
  | .escaped, word, c :: cs => splitFrom .word (if c == '\n' then word else c :: word) cs
  | .single, word, c :: cs =>
    if c == '\'' then splitFrom .word word cs else splitFrom .single (c :: word) cs
  | .double, word, c :: cs =>
    if c == '"' then splitFrom .word word cs
    else if c == '\\' then splitFrom .doubleEscaped word cs
    else splitFrom .double (c :: word) cs
  | .doubleEscaped, word, c :: cs =>
    if isProtected c then splitFrom .double (c :: word) cs
    else if c == '\n' then splitFrom .double word cs
    else splitFrom .double (c :: '\\' :: word) cs

/-- The words of a line. -/
def split? (line : String) : Option (List String) :=
  (splitFrom .between [] line.toList).map fun words => words.map String.ofList

end SourceDebugger.Shell
