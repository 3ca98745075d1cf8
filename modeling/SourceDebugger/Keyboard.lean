/-
  Lines that are typed key by key.  A key adds its character, unless it is a
  control: enter ends the line, backspace takes back the character before it,
  and others do nothing.  A key that has no character of its own sends an
  escape sequence.

  * `Keyboard.lines` are the lines that keys give, up to an interrupt.
-/
namespace SourceDebugger.Keyboard

/-- Keys as they are told apart. -/
inductive Key where
  | char (c : Char)
  | enter
  | backspace
  | interrupt
  | other
  deriving DecidableEq

/-- The key that sends a character alone. -/
def Key.ofChar (c : Char) : Key :=
  if c = '\n' ∨ c = '\r' then enter
  else if c = '\x7f' ∨ c = '\x08' then backspace
  else if c = '\x03' then interrupt
  else if c.toNat < 0x20 then other
  else char c

/-- The keys that send `cs`. -/
def keys : List Char → List Key
  | '\x1b' :: '[' :: c :: cs =>
    if c ∈ ['A', 'B', 'C', 'D', 'H', 'F', 'Z'] then .other :: keys cs
    else
      match cs with
      | [] => [.other]
      | _ :: cs => .other :: keys cs
  | '\x1b' :: _ :: cs => .other :: keys cs
  | c :: cs => .ofChar c :: keys cs
  | [] => []

/-- The lines that keys give; `line` holds the characters of the present line
    in reverse. -/
def linesFrom (line : List Char) : List Key → List (List Char)
  | [] => []
  | .enter :: ks => line.reverse :: linesFrom [] ks
  | .char c :: ks => linesFrom (c :: line) ks
  | .backspace :: ks => linesFrom line.tail ks
  | .other :: ks => linesFrom line ks
  | .interrupt :: _ => []

/-- The lines that typing `texts` gives, each followed by enter. -/
def lines (texts : List String) : List String :=
  (linesFrom [] (texts.flatMap fun text => keys text.toList ++ [.enter])).map String.ofList

end SourceDebugger.Keyboard
