/-
  What the debugger prints can be typed.

  * `Numeral.Prints.isWord`: a number is printed as one word, so that it is found in
    a line by its blanks, as in the messages that say where a breakpoint is
    (`Addr.words_breakpointAt`);
  * `Session.write_back`: a word that was read is stored by writing what was printed
    for it;
  * `Feedback.lines_registers`: the lines that show registers, and `words_renderRegister`,
    the two words of each;
  * `Feedback.printed_read`: addresses, words and registers are read from what is
    printed for them.
-/
import SourceDebugger.Proofs.Command
import SourceDebugger.Proofs.CommandLoop
import SourceDebugger.Proofs.Lines
import SourceDebugger.Proofs.Shifted

namespace SourceDebugger

open SourceDebugger.Action

/-! ## Printed numbers -/

namespace Numeral

variable {n d : Nat} {c : Char} {text : String}

theorem IsDigit.not_blank (h : IsDigit 16 c d) : Text.isBlank c = false := by
  obtain ⟨hd, rfl | rfl⟩ := h
  all_goals interval_cases d <;> rfl

/-- A number is printed without blanks. -/
theorem Prints.isWord (h : Prints n text) : Text.IsWord text := by
  refine ⟨?_, fun c hc => ?_⟩
  · rintro rfl
    obtain @⟨base, mark, sign, digits, -, -, ⟨hne, -⟩, htext⟩ := h.written
    simp [hne] at htext
  · rcases h.isDigit hc with rfl | ⟨d, hd⟩
    · rfl
    · exact hd.not_blank

end Numeral

theorem Addr.prints_padded (a : Addr) : Numeral.Prints a.toNat a.padded := .hex 16

theorem Addr.prints_brief (a : Addr) : Numeral.Prints a.toNat a.brief := Numeral.prints_hex a.toNat

theorem Word.prints_padded (w : Word) : w.Prints w.padded :=
  ⟨16, by rw [Word.toInt_emod]; rfl⟩

/-! ## Messages -/

/-- The messages that say where a breakpoint is end with its address. -/
theorem Addr.words_breakpointAt (a : Addr) {verb : String} (h : Text.IsWord verb) :
    Text.words (verb ++ " breakpoint at address " ++ a.brief) =
      [verb, "breakpoint", "at", "address", a.brief] := by
  have hmiddle : " breakpoint at address " = " " ++ ("breakpoint at address" ++ " ") := by decide
  have hsplit : verb ++ " breakpoint at address " ++ a.brief =
      verb ++ " " ++ ("breakpoint at address" ++ " " ++ a.brief) := by
    rw [hmiddle]
    simp only [String.append_assoc]
  have hfront : Text.words "breakpoint at address" = ["breakpoint", "at", "address"] := by decide
  rw [hsplit, Text.words_append, Text.words_append, h.words_eq, hfront,
    a.prints_brief.isWord.words_eq]
  rfl

theorem Feedback.words_breakpointSet (a : Addr) : Text.words (Feedback.breakpointSet a).message =
    ["Set", "breakpoint", "at", "address", a.brief] := by
  have hword : Text.IsWord "Set" := by decide
  have hmessage :
      (Feedback.breakpointSet a).message = "Set" ++ " breakpoint at address " ++ a.brief :=
    congrArg (· ++ a.brief) (by decide : "Set breakpoint at address " = _ ++ _)
  rw [hmessage, a.words_breakpointAt hword]

theorem StopEvent.words_hitBreakpoint (a : Addr) : Text.words (hitBreakpoint a).message =
    ["Hit", "breakpoint", "at", "address", a.brief] := by
  have hword : Text.IsWord "Hit" := by decide
  have hmessage : (hitBreakpoint a).message = "Hit" ++ " breakpoint at address " ++ a.brief :=
    congrArg (· ++ a.brief) (by decide : "Hit breakpoint at address " = _ ++ _)
  rw [hmessage, a.words_breakpointAt hword]

/-- How a session lists a breakpoint. -/
theorem Session.words_describeBreakpoint (b : Breakpoint) : Text.words (describeBreakpoint b) =
    [b.addr.padded, if b.isEnabled then "enabled" else "disabled"] := by
  have hfront : "\n  " = "\n " ++ " " := by decide
  have hback : (if b.isEnabled then " enabled" else " disabled") =
      " " ++ if b.isEnabled then "enabled" else "disabled" := by
    split <;> decide
  rw [describeBreakpoint, hback, ← String.append_assoc, Text.words_append, hfront,
    Text.words_append, b.addr.prints_padded.isWord.words_eq]
  split <;> rfl

/-! ## Registers -/

theorem Register.isWord_name (r : Register) : Text.IsWord r.name := by
  cases r <;> decide

theorem words_padRight (width : Nat) (text : String) :
    Text.words (Numeral.padRight width text) = Text.words text := by
  rw [Numeral.padRight]
  induction width - text.length with
  | zero => simp
  | succ k ih =>
    have h : text ++ String.ofList (List.replicate (k + 1) ' ') =
        text ++ String.ofList (List.replicate k ' ') ++ " " ++ "" := by
      apply String.toList_injective
      simp [List.replicate_succ']
    rw [h, Text.words_append, ih]
    exact List.append_nil _

namespace Feedback

variable {p : Register × UInt64}

theorem words_renderRegister (p : Register × UInt64) :
    Text.words (renderRegister p) = [p.1.name, Word.padded p.2] := by
  have hvalue : Text.IsWord (Word.padded p.2) := (Addr.prints_padded p.2).isWord
  rw [renderRegister, Text.words_append, words_padRight, p.1.isWord_name.words_eq,
    hvalue.words_eq]
  rfl

/-- A register and its value are shown without any blank but spaces. -/
theorem not_mem_renderRegister {c : Char} (hc : Text.isBlank c) (hs : c ≠ ' ') :
    c ∉ (renderRegister p).toList := by
  have hword {t : String} (ht : Text.IsWord t) : c ∉ t.toList := fun h => by
    rw [ht.2 c h] at hc
    cases hc
  have hname := hword p.1.isWord_name
  have hvalue := hword (Addr.prints_padded p.2).isWord
  simp only [renderRegister, Numeral.padRight, String.toList_append, String.toList_ofList,
    List.mem_append, List.mem_replicate, not_or]
  exact ⟨⟨⟨hname, fun h => hs h.2⟩, by simpa using hs⟩, hvalue⟩

/-- Each register has a line of its own. -/
theorem lines_registers (values : List (Register × UInt64)) :
    Text.lines (registers values).message = values.map renderRegister := by
  refine Text.lines_intercalate fun l hl => ?_
  obtain ⟨p, -, rfl⟩ := List.mem_map.1 hl
  refine ⟨not_mem_renderRegister rfl (by decide), fun hempty => ?_,
    Text.withoutReturn_eq_self (not_mem_renderRegister rfl (by decide))⟩
  have hwords := words_renderRegister p
  rw [hempty] at hwords
  cases hwords

end Feedback

/-! ## Writing back -/

namespace Session

variable {words : List String} {c : Command}

/-- Words that are read as a command are answered with its result. -/
theorem gives_handle {τ : Type} [Tracee τ] {s s' : Session τ} {r : Except Failure Feedback}
    (h : Command.ofWords words = .ok c) :
    (handle words).Gives s r s' ↔
      ∃ r₀, (execute c).Gives s r₀ s' ∧ r = .ok (Feedback.ofResult r₀) := by
  rw [handle_of_ok h, gives_attempt_bind]
  simp only [gives_pure]
  constructor
  · rintro ⟨r₀, _, hx, rfl, rfl⟩
    exact ⟨r₀, hx, rfl⟩
  · rintro ⟨r₀, hx, rfl⟩
    exact ⟨r₀, _, hx, rfl, rfl⟩

variable {s s' : Session Simulated} {a b : Addr} {size : Option UInt64} {w : Word}

theorem execute_readMemory (h : (execute (.readMemory a size)).Gives s (.ok (.word w)) s') :
    s' = s ∧ s.debuggee.isAlive ∧ s.debuggee.tracee.isAlive ∧
      (size = none → s.debuggee.memory.getWord? a = some w) := by
  rw [execute, gives_log_bind, gives_map] at h
  obtain ⟨_ | w', hread, hw⟩ := h
  · cases hw
  cases hw
  cases size with
  | none =>
    obtain ⟨d, hd, rfl⟩ := gives_onDebuggee.1 hread
    obtain ⟨rfl, ha, hp, hword⟩ := Debuggee.readMemory_cases hd
    exact ⟨rfl, ha, hp, fun _ => hword⟩
  | some n =>
    obtain ⟨d, hd, rfl⟩ := gives_onDebuggee.1 hread
    obtain ⟨_, _, -, hwhole, -⟩ := Debuggee.gives_readSized.1 hd
    obtain ⟨rfl, ha, hp, -⟩ := Debuggee.readMemory_cases hwhole
    exact ⟨rfl, ha, hp, fun hsize => absurd hsize (Option.some_ne_none n)⟩

theorem execute_writeMemory (ha : s.debuggee.isAlive) (hp : s.debuggee.tracee.isAlive)
    (hb : s.debuggee.tracee.isWritable b) (w : Word) : ∃ s',
      (execute (.writeMemory b w)).Gives s (.ok .ok) s' ∧
        s'.debuggee.memory = s.debuggee.memory.setWord b w := by
  obtain ⟨d, hwrite, hmemory⟩ := Debuggee.writeMemory_gives ha hp hb w
  refine ⟨{ s with debuggee := d }, ?_, hmemory⟩
  rw [execute, gives_log_bind]
  exact (gives_onDebuggee.2 ⟨d, hwrite, rfl⟩).bind (gives_pure.2 ⟨rfl, rfl⟩)

/-- The text of a word is taken for this word where one is written. -/
theorem ofWords_writeMemory {u : String} (hu : Numeral.Prints b.toNat u) (w : Word) :
    Command.ofWords ["memory", "write", u, (Feedback.word w).message] = .ok (.writeMemory b w) :=
  Command.ofWords_of_arguments (c := .writeMemory b w) ⟨u, _, hu, w.prints_padded, rfl⟩ nofun

/-- What was read can be written back: the text that answered the reading is taken
    for the word that was read. -/
theorem write_back {args : List String} {u : String}
    (hargs : (Command.readMemory a size).Arguments args) (hu : Numeral.Prints b.toNat u)
    (hread : (handle ("memory" :: args)).Gives s (.ok (.word w)) s')
    (hb : s'.debuggee.tracee.isWritable b) :
    (size = none → s.debuggee.memory.getWord? a = some w) ∧ ∃ s'',
      (handle ["memory", "write", u, (Feedback.word w).message]).Gives s' (.ok .ok) s'' ∧
        s''.debuggee.memory = s'.debuggee.memory.setWord b w ∧
        s''.debuggee.memory.getWord? b = some w := by
  have hreads : Command.ofWords ("memory" :: args) = .ok (.readMemory a size) :=
    Command.ofWords_of_arguments hargs nofun
  obtain ⟨r, hx, hr⟩ := (gives_handle hreads).1 hread
  obtain ⟨rfl, ha, hp, hword⟩ : s' = s ∧ _ := execute_readMemory <| by
    cases r with
    | error e => cases hr
    | ok f =>
      cases hr
      exact hx
  obtain ⟨s'', hwrite, hmemory⟩ := execute_writeMemory ha hp hb w
  refine ⟨hword, s'', (gives_handle (ofWords_writeMemory hu w)).2 ⟨_, hwrite, rfl⟩, hmemory, ?_⟩
  rw [hmemory, Memory.getWord?_setWord]

end Session

/-! ## Reading what was printed -/

/-- **What is printed can be typed.**  An address is read from each of its forms, and
    found in the messages by their blanks.  A word is read from its text, so that
    writing this text stores the word.  The lines that show registers are, in
    order, their names and values. -/
theorem Feedback.printed_read :
    (∀ a : Addr, address a.padded = .ok a ∧ address a.brief = .ok a ∧
      (Text.words (breakpointSet a).message).getLast?.map address = some (.ok a) ∧
      (Text.words (StopEvent.hitBreakpoint a).message).getLast?.map address = some (.ok a)) ∧
    (∀ b : Breakpoint,
      (Text.words (Session.describeBreakpoint b)).head?.map address = some (.ok b.addr)) ∧
    (∀ w : Word, number (word w).message = .ok w ∧
      ∀ (b : Addr) (u : String), Numeral.Prints b.toNat u →
        Command.ofWords ["memory", "write", u, (word w).message] = .ok (.writeMemory b w)) ∧
    (∀ (s s' : Session Simulated) (a b : Addr) (size : Option UInt64) (w : Word)
        (args : List String) (u : String),
      (Command.readMemory a size).Arguments args → Numeral.Prints b.toNat u →
      (Session.handle ("memory" :: args)).Gives s (.ok (.word w)) s' →
      s'.debuggee.tracee.isWritable b →
      (size = none → s.debuggee.memory.getWord? a = some w) ∧ ∃ s'',
        (Session.handle ["memory", "write", u, (word w).message]).Gives s' (.ok .ok) s'' ∧
          s''.debuggee.memory = s'.debuggee.memory.setWord b w ∧
          s''.debuggee.memory.getWord? b = some w) ∧
    ∀ values : List (Register × UInt64),
      List.Forall₂ (fun line p => ∃ name value, Text.words line = [name, value] ∧
          register name = .ok p.1 ∧ number value = .ok p.2)
        (Text.lines (registers values).message) values := by
  refine ⟨fun a => ?addresses, fun b => ?listed, fun w => ?words, fun _ _ _ _ _ _ _ _ => ?back,
    fun values => ?registers⟩
  case addresses =>
    have hbrief : address a.brief = .ok a := address_of_prints a.prints_brief
    refine ⟨address_of_prints a.prints_padded, hbrief, ?_, ?_⟩
    · rw [words_breakpointSet]
      exact congrArg some hbrief
    · rw [StopEvent.words_hitBreakpoint]
      exact congrArg some hbrief
  case listed =>
    rw [Session.words_describeBreakpoint]
    exact congrArg some (address_of_prints b.addr.prints_padded)
  case words => exact ⟨w.prints_padded.number_eq, fun _ _ hu => Session.ofWords_writeMemory hu w⟩
  case back => exact Session.write_back
  case registers =>
    rw [lines_registers, List.forall₂_map_left_iff, List.forall₂_same]
    exact fun p _ => ⟨_, _, words_renderRegister p, register_name p.1,
      number_of_prints (Addr.prints_padded p.2)⟩

/-- A session with -1 in memory, and zeros behind it. -/
def Session.withMinusOne : Session Simulated where
  debuggee :=
    { tracee :=
        { memory :=
            ({} : Memory).setBytes 0x1000 (List.replicate 8 0xff ++ List.replicate 8 0)
          registers := RegisterFile.zero } }
  resolver := ⟨⟨[], [], false⟩, 0⟩
  config := {}

/-- The address is typed once in hexadecimal and once in decimal. -/
theorem Feedback.printed_read_minusOne :
    ∃ w : Word, w.toInt = -1 ∧ (word w).message = "0xffffffffffffffff" ∧ ∃ s s'',
      (Session.handle ["memory", "read", "0x1000"]).Gives Session.withMinusOne (.ok (.word w)) s ∧
        s.debuggee.memory.getWord? 0x1008 = some 0 ∧
        (Session.handle ["memory", "write", "4104", "0xffffffffffffffff"]).Gives s (.ok .ok) s'' ∧
        s''.debuggee.memory.getWord? 0x1008 = some w := by
  let read : Action (Session Simulated) Feedback := Session.handle ["memory", "read", "0x1000"]
  have hread : read.Gives Session.withMinusOne (.ok (.word 0xffffffffffffffff))
      (read Session.withMinusOne).state :=
    ⟨by decide +kernel, rfl⟩
  have hargs : (Command.readMemory 0x1000 none).Arguments ["read", "0x1000"] := ⟨_, .hex 4, rfl⟩
  obtain ⟨-, s'', hwrite, -, hword⟩ := Feedback.printed_read.2.2.2.1 _ _ 0x1000 0x1008 none _ _
    "4104" hargs .decimal hread (by decide +kernel)
  exact ⟨_, rfl, rfl, _, s'', hread, by decide +kernel, hwrite, hword⟩

end SourceDebugger
