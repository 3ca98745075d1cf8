/-
  A few lines of source around the current one.  A window has the current line
  in its middle; near the top of the file it is moved down, so that it keeps
  its size, and it ends where the file ends.

  * `SourceWindow.ofText` takes the window out of a text;
  * `SourceWindow.render` prints it with `>` in front of the current line.
-/
import SourceDebugger.Text.Lines
import SourceDebugger.Text.Numeral

namespace SourceDebugger

/-- What is shown of a source file.  The name of the file is not kept: it is not printed,
    and who asks for a window knows it. -/
structure SourceWindow where
  current : UInt64
  /-- Line numbers and texts, in order. -/
  lines : List (Nat × String)
  deriving DecidableEq

namespace SourceWindow

/-- The largest line number. -/
def lastNumber : Nat := UInt64.size - 1

/-- The number of the first line of a window. -/
def firstLine (line context : UInt64) : Nat := max (line.toNat - context.toNat) 1

/-- The number of the last line that a window may show. -/
def lastLine (line context : UInt64) : Nat :=
  min (firstLine line context + 2 * context.toNat) lastNumber

/-- The lines of a text with their numbers, from 1 on. -/
def numbered (text : String) : List (Nat × String) :=
  (Text.lines text).mapIdx fun i l => (i + 1, l)

/-- The lines at most `context` lines away from `line`. -/
def ofText (text : String) (line context : UInt64) : SourceWindow where
  current := line
  lines := ((numbered text).dropWhile fun p => p.1 < firstLine line context).takeWhile
    fun p => p.1 ≤ lastLine line context

/-- A line of the window: a mark, the number, and the text. -/
def renderLine (current : UInt64) (line : Nat × String) : String :=
  (if line.1 = current.toNat then ">" else " ") ++ " " ++ Numeral.paddedDecimal 4 line.1 ++
    " " ++ line.2 ++ "\n"

def render (w : SourceWindow) : String := String.join (w.lines.map (renderLine w.current))

end SourceWindow

end SourceDebugger
