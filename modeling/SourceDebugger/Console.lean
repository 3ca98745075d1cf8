/-
  The command line interface of a session: lines that are typed become words of
  commands, and what can be observed of a session becomes output.

  * `Console.wordsOf?` splits a line, `Console.commands` all lines that are
    read, `Console.typed` what is typed; blank lines and lines with bad quoting
    are passed over;
  * `Console.effects` is what is printed for an event: feedback and source
    windows on standard output, failures on standard error.
-/
import SourceDebugger.FileTree
import SourceDebugger.Keyboard
import SourceDebugger.Session
import SourceDebugger.SourceWindow
import SourceDebugger.Text.Shell

namespace SourceDebugger

/-- The window around a line of a file. -/
def SourceWindow.load (files : FileTree) (file : String) (line context : UInt64) :
    Except Failure SourceWindow :=
  match files.readText file with
  | .ok text => .ok (ofText text line context)
  | .error e => .error (.io e)

namespace Console

variable {σ : Type}

/-! ## Input -/

/-- The words of a line; none if the line is blank or cannot be split. -/
def wordsOf? (line : String) : Action σ (Option (List String)) := do
  let line := Text.trim line
  if line.isEmpty then return none
  match Shell.split? line with
  | some words => return some words
  | none =>
    .log .warn .terminal "could not split the input, check the quoting"
    return none

/-- The commands in lines, one in a line. -/
def commands : List String → Action σ (List (List String))
  | [] => pure []
  | line :: lines => do
    match ← wordsOf? line with
    | some words => return words :: (← commands lines)
    | none => commands lines

/-- The commands that are typed, each text followed by enter. -/
def typed (texts : List String) : Action σ (List (List String)) :=
  commands (Keyboard.lines texts)

/-- What asking for a command gives where there is no terminal. -/
def withoutTerminal : Failure := .dialogue .notATerminal

/-! ## Output -/

inductive Effect where
  | print (bytes : List UInt8)
  | complain (bytes : List UInt8)
  | log (line : LogLine)
  deriving DecidableEq

/-- Bytes of a text. -/
def encode (text : String) : List UInt8 := text.toUTF8.toList

def print (text : String) : Effect := .print (encode text)
def complain (text : String) : Effect := .complain (encode text)

/-- Shows feedback, unless there is nothing to say. -/
def reportEffects : Feedback → List Effect
  | .ok => []
  | .failed e => [complain (e.message ++ "\n")]
  | feedback => [print (feedback.message ++ "\n")]

/-- Shows a source window, or says in the log why it cannot be shown. -/
def windowEffects (files : FileTree) (w : ShownLine) : List Effect :=
  match SourceWindow.load files w.file w.line w.context with
  | .ok window => [print window.render]
  | .error e =>
    [.log ⟨.warn, .terminal, "could not show " ++ w.file ++ ":" ++
      Numeral.decimal w.line.toNat ++ ": " ++ e.message⟩]

def effects (files : FileTree) : Event → List Effect
  | .log line => [.log line]
  | .window w => windowEffects files w
  | .report feedback => reportEffects feedback
  | .output stream bytes => if stream = 1 then [.print bytes] else [.complain bytes]

/-- A character of a log message as it is printed: controls that a terminal
    could act on are spelled out. -/
def spellOut (c : Char) : List Char :=
  if c ∈ ['\x1b', '\x07', '\x08', '\x0c', '\x7f'] then
    ['\\', 'x'] ++ Numeral.padLeft 2 '0' (Numeral.hexDigits c.toNat)
  else if 0x80 ≤ c.toNat ∧ c.toNat ≤ 0x9f then
    ['\\', 'u', '\x7b'] ++ Numeral.hexDigits c.toNat ++ ['\x7d']
  else [c]

/-- A log line as it is printed. -/
def renderLog (line : LogLine) : String :=
  String.ofList (Numeral.padLeft 5 ' ' line.level.name.toList) ++ " " ++ line.source.name ++
    ": " ++ String.ofList (line.message.toList.flatMap spellOut) ++ "\n"

end Console

end SourceDebugger
