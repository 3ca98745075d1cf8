/-
  Text without what a terminal acts on: control characters other than blanks,
  and control sequences, which an escape character begins.

  * `Visible.text` drops them;
  * `Visible.step` says what a character means where a sequence has come so
    far.  A blank that stands inside of most sequences ends them.
-/
namespace SourceDebugger.Visible

/-- How far a control sequence has come. -/
inductive Stage where
  | ground
  | escape
  | escapeIntermediate
  | control
  | controlParameter
  | controlIntermediate
  | controlIgnored
  | device
  | deviceParameter
  | deviceIntermediate
  | deviceIgnored
  | devicePassed
  | command
  | privateString
  deriving DecidableEq

namespace Stage

/-- Controls are carried out in these stages, in others they are part of the
    sequence. -/
def carriesOut : Stage → Bool
  | ground | escape | escapeIntermediate => true
  | control | controlParameter | controlIntermediate | controlIgnored => true
  | _ => false

/-- What a character that is no control leads to. -/
def next (s : Stage) (n : Nat) : Stage :=
  match s with
  | ground => ground
  | escape =>
    if n < 0x30 then escapeIntermediate
    else if n = 0x5b then control
    else if n = 0x5d then command
    else if n = 0x50 then device
    else if n = 0x58 ∨ n = 0x5e ∨ n = 0x5f then privateString
    else ground
  | escapeIntermediate => if n < 0x30 then escapeIntermediate else ground
  | control =>
    if n < 0x30 then controlIntermediate else if n < 0x40 then controlParameter else ground
  | controlParameter =>
    if n < 0x30 then controlIntermediate
    else if n < 0x3c then controlParameter
    else if n < 0x40 then controlIgnored
    else ground
  | controlIntermediate =>
    if n < 0x30 then controlIntermediate else if n < 0x40 then controlIgnored else ground
  | controlIgnored => if n < 0x40 then controlIgnored else ground
  | device =>
    if n < 0x30 then deviceIntermediate else if n < 0x40 then deviceParameter else devicePassed
  | deviceParameter =>
    if n < 0x30 then deviceIntermediate
    else if n < 0x3c then deviceParameter
    else if n < 0x40 then deviceIgnored
    else devicePassed
  | deviceIntermediate =>
    if n < 0x30 then deviceIntermediate else if n < 0x40 then deviceIgnored else devicePassed
  | deviceIgnored => deviceIgnored
  | devicePassed => devicePassed
  | command => command
  | privateString => privateString

/-- What a character beyond ASCII leads to: one whose encoding has the byte
    that ends strings ends some of them. -/
def nextWide (s : Stage) (c : Char) : Stage :=
  let ends := (String.singleton c).toUTF8.toList.contains 0x9c
  if ends ∧ s ∈ [deviceIgnored, devicePassed, privateString] then ground else s

end Stage

/-- Blanks that are controls. -/
def isBlankControl (c : Char) : Bool := c = '\t' || c = '\n' || c = '\x0c' || c = '\r'

/-- Whether a character is kept, and the stage behind it. -/
def step (s : Stage) (c : Char) : Bool × Stage :=
  if c = '\x1b' then (false, .escape)
  else if c.toNat = 0x18 ∨ c.toNat = 0x1a then (false, .ground)
  else if c.toNat < 0x20 then
    if s.carriesOut && isBlankControl c then (true, .ground)
    else if s = .command ∧ c.toNat = 0x07 then (false, .ground)
    else (false, s)
  else if c.toNat = 0x7f then (false, s)
  else if s = .ground then (true, .ground)
  else if c.toNat < 0x7f then (false, s.next c.toNat)
  else (false, s.nextWide c)

/-- The characters that are kept. -/
def keep (s : Stage) : List Char → List Char
  | [] => []
  | c :: cs =>
    let (kept, s) := step s c
    if kept then c :: keep s cs else keep s cs

def text (t : String) : String := String.ofList (keep .ground t.toList)

end SourceDebugger.Visible
