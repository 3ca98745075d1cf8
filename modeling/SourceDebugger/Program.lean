/-
  The program as a whole: it reads its command line, launches the debuggee,
  loads its debug information, serves the user's commands, and cleans up.

  * `Program.debug` is a run with given settings;
  * `Program.run` is the program: an exit code and what is printed.
-/
import SourceDebugger.CommandLine
import SourceDebugger.Console
import SourceDebugger.DebugInfo.Load
import SourceDebugger.Failure.Form
import SourceDebugger.Machine.Traced

namespace SourceDebugger.Program

open Machine

variable {σ : Type}

/-- The machine the program runs on. -/
structure Host where
  files : FileTree
  /-- The number of the next process. -/
  nextPid : Nat
  /-- The lines that are typed, if there is a terminal. -/
  lines : Option (List String)

/-- What the program leaves. -/
structure Ending where
  code : Nat
  effects : List Console.Effect

/-! ## A run -/

/-- What the user says. -/
def replies (lines : Option (List String)) : Action σ (List Session.Reply) :=
  match lines with
  | none => return [.failed Console.withoutTerminal]
  | some lines => do return (← Console.typed lines).map .words

/-- Loads the debug information of a process, which is killed if that fails. -/
def loadInfo (host : Host) (child : Child) : Action σ DebugInfo := do
  match ← (DebugInfo.load host.files child.executable).attempt with
  | .ok info => return info
  | .error e => do
    .log .error .program
      ("could not load the debug information of " ++ child.executable ++ ": " ++ e.message)
    let (killed, _) ← .startingAt child Tracee.kill
    .ofExcept killed
    .fail e

/-- Debugs a program.  The debuggee is cleaned up also if the commands end with
    a failure. -/
def debug (host : Host) (settings : Settings) : Action σ Unit := do
  .log .debug .program "set up the logger"
  let child ← Child.launch host.files host.nextPid settings.program settings.arguments
  let info ← loadInfo host child
  let (attached, _) ← .startingAt child (Session.attach info settings.config)
  let session ← .ofExcept attached
  let replies ← replies host.lines
  let (heard, session) ← .startingAt session (Session.run replies)
  let (cleaned, _) ← .startingAt session Session.cleanup
  .ofExcept cleaned
  .ofExcept (heard.bind (·.result))

/-! ## The program -/

/-- What is printed of the effects: lines of the log only down to a level. -/
def printed (level : LogLevel) : List Console.Effect → List Console.Effect :=
  List.filterMap fun
    | .log line =>
      if level.rank ≤ line.level.rank then some (Console.complain (Console.renderLog line))
      else none
    | effect => some effect

/-- Runs the program with the words of its command line. -/
def run (host : Host) (arguments : List String) : Ending :=
  match CommandLine.parse arguments with
  | .error .showHelp => ⟨0, [Console.print CommandLine.help]⟩
  | .error .showVersion => ⟨0, [Console.print CommandLine.versionText]⟩
  | .error (.refuse why) => ⟨2, [Console.complain why.message]⟩
  | .ok settings =>
    let o := debug host settings ()
    let effects := printed settings.logLevel (o.events.flatMap (Console.effects host.files))
    match o.result with
    | .ok () => ⟨0, effects⟩
    | .error e => ⟨1, effects ++ [Console.complain ("Error: " ++ e.form ++ "\n")]⟩

end SourceDebugger.Program
