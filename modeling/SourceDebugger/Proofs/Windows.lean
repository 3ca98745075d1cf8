/-
  The source window shows where the debuggee is.

  * `Session.place?`: the place that belongs to the program counter, and
    `Session.shown`: the windows to be expected of a debuggee that stands there;
  * `Session.EndsShown`: what succeeds has shown where it ended and nothing else,
    which passes from the last part of a computation to the whole;
  * `Session.Presents`: the commands that move the debuggee, and
    `Session.execute_stays`: the others leave the program counter alone;
  * `Session.window_shows`: a command that moves a debuggee shows once where it
    has arrived, and nothing else is ever shown.
-/
import SourceDebugger.Proofs.Reported

namespace SourceDebugger

open SourceDebugger.Action

/-! ## What is shown -/

namespace Session

open Debuggee Simulated

variable {s s' s₁ : Session Simulated} {α β : Type}

/-- The place in the source where the program counter is, as the settings want
    it to be shown. -/
def place? (s : Session Simulated) : Option ShownLine :=
  (s.resolver.lineEntry? (s.resolver.toStatic (s.debuggee.tracee.registers.get .rip))).map
    fun entry => ⟨entry.location.file, entry.location.line, s.config.contextLines⟩

/-- The place, if the debuggee is there. -/
def shown (s : Session Simulated) : List ShownLine :=
  if s.debuggee.isAlive then s.place?.toList else []

/-- What succeeds has shown where it ended, and nothing else. -/
def EndsShown (act : Action (Session Simulated) α) : Prop :=
  ∀ s a s', act.Gives s (.ok a) s' → act.windows s = s'.shown

section
variable {act : Action (Session Simulated) α} {next : α → Action (Session Simulated) β}

theorem windows_of_quiet (h : act.Quiet) {a : α} (hg : act.Gives s (.ok a) s₁) :
    (act >>= next).windows s = (next a).windows s₁ := by
  obtain ⟨hr, rfl⟩ := hg
  rw [windows_bind, h s, List.nil_append, hr]

theorem EndsShown.bind (h : act.Quiet) (hn : ∀ a, EndsShown (next a)) :
    EndsShown (act >>= next) := by
  intro s b s' hg
  obtain ⟨a, s₁, hact, hnext⟩ := gives_bind_ok.1 hg
  rw [windows_of_quiet h hact]
  exact hn a _ _ _ hnext

theorem EndsShown.map (h : EndsShown act) (f : α → β) : EndsShown (do return f (← act)) := by
  intro s b s' hg
  obtain ⟨a, s₁, hact, hend⟩ := gives_bind_ok.1 hg
  obtain ⟨-, rfl⟩ := gives_pure.1 hend
  rw [windows_bind, hact.1, h _ _ _ hact]
  exact List.append_nil _

end

/-- Where the line can be looked up, the process is there. -/
theorem currentLine_ok {entry : Option LineEntry} (h : currentLine.Gives s (.ok entry) s') :
    s.debuggee.isAlive ∧ s.debuggee.tracee.isAlive ∧
      entry = s.resolver.lineEntry? (s.resolver.toStatic s.debuggee.tracee.pc) ∧ s' = s := by
  obtain ⟨_, _, hread, -⟩ := gives_bind_ok.1 h
  obtain ⟨_, hpc, -⟩ := gives_onDebuggee.1 hread
  have ha := alive_of_requestAlive hpc
  have hp := tracee_isAlive_of_pc hpc
  obtain ⟨⟨⟩, rfl⟩ := h.unique (currentLine_gives ha hp)
  exact ⟨ha, hp, rfl, rfl⟩

theorem presentLocation_endsShown : EndsShown presentLocation := by
  intro s _ s' h
  have hlook : (inspect fun s : Session Simulated => s.debuggee.isAlive).Gives s
      (.ok s.debuggee.isAlive) s := gives_inspect.2 ⟨rfl, rfl⟩
  replace h := gives_inspect_bind.1 h
  rw [presentLocation, windows_of_quiet (.inspect _) hlook]
  split_ifs at h ⊢ with ha
  · obtain ⟨entry, s₁, hline, htell⟩ := gives_bind_ok.1 h
    rw [windows_of_quiet currentLine_quiet hline]
    obtain ⟨-, -, hentry, rfl⟩ := currentLine_ok hline
    rcases entry with _ | entry
    · obtain ⟨-, rfl⟩ := gives_log.1 htell
      rw [shown, if_pos ha, place?, ← Simulated.pc, ← hentry]
      rfl
    · obtain ⟨-, rfl⟩ := gives_tell.1 (gives_inspect_bind.1 htell)
      rw [shown, if_pos ha, place?, ← Simulated.pc, ← hentry]
      rfl
  · obtain ⟨-, rfl⟩ := gives_pure.1 h
    rw [shown, if_neg ha]
    rfl

/-! ### Commands that move -/

/-- The commands that move the debuggee or its program counter. -/
def Presents (c : Command) : Prop := Advances c ∨ ∃ value, c = .writeRegister .rip value

theorem moved_endsShown {act : Action (Debuggee Simulated) StopEvent} (h : act.Quiet) :
    EndsShown (do
      let event ← onDebuggee act
      presentLocation
      return event) :=
  .bind (onDebuggee_quiet h) fun _ => presentLocation_endsShown.map _

theorem stepFrom_endsShown (start : Option SourceLocation) :
    ∀ limit, EndsShown (stepFrom start limit)
  | 0 => presentLocation_endsShown.map _
  | limit + 1 => by
    refine .bind (onDebuggee_quiet Debuggee.stepInstruction_quiet) fun event => ?_
    split_ifs
    · exact presentLocation_endsShown.map _
    refine .bind currentLine_quiet fun entry => ?_
    cases entry
    · exact stepFrom_endsShown start limit
    · dsimp only
      split_ifs
      · exact stepFrom_endsShown start limit
      · exact presentLocation_endsShown.map _

theorem runTo_endsShown (stops : List Addr) : EndsShown (runTo stops) := by
  rw [runTo_eq]
  refine .bind (addTemporary_quiet stops []) fun (added, ready) => ?_
  refine .bind (runReady_quiet ready) fun result => ?_
  refine .bind (.attempt (removeTemporary_quiet added)) fun removed => ?_
  refine .bind (.ofExcept _) fun event => .bind (.ofExcept _) fun _ => ?_
  exact presentLocation_endsShown.map _

/-- A command that moves and succeeds shows where the debuggee has arrived. -/
theorem execute_endsShown {c : Command} (hc : Presents c) : EndsShown (execute c) := by
  obtain hadvances | ⟨value, rfl⟩ := hc
  swap
  · refine .bind (.log _ _ _) fun _ => ?_
    refine EndsShown.map (.bind (onDebuggee_quiet (writeRegister_quiet _ _)) fun _ => ?_) _
    exact presentLocation_endsShown
  refine .bind (.log _ _ _) fun _ => ?_
  cases c with
  | «continue» => exact (moved_endsShown continueExecution_quiet).map _
  | stepInstruction => exact (moved_endsShown stepInstruction_quiet).map _
  | stepIn =>
    refine EndsShown.map (.bind currentLine_quiet fun _ => ?_) _
    exact .bind (.log _ _ _) fun _ => stepFrom_endsShown _ _
  | stepOver =>
    rw [stepOver_eq]
    exact EndsShown.map (.bind nextStops_quiet runTo_endsShown) _
  | stepOut =>
    rw [stepOut_eq]
    exact EndsShown.map (.bind callerStops_quiet runTo_endsShown) _
  | _ => exact absurd hadvances id

/-! ### Other commands -/

/-- The other commands show nothing. -/
theorem execute_quiet {c : Command} (hc : ¬ Presents c) :
    (execute c : Action (Session Simulated) Feedback).Quiet := by
  refine .bind (.log _ _ _) fun _ => ?_
  cases c with
  | setBreakpoint place =>
    refine .bind (.bind (locate_quiet place) fun a => ?_) fun _ => .pure _
    exact .bind (onDebuggee_quiet (setBreakpoint_quiet a)) fun _ => .pure _
  | deleteBreakpoint a =>
    exact .bind (onDebuggee_quiet (removeBreakpoint_quiet a)) fun _ => .pure _
  | dumpRegisters => exact .bind (onDebuggee_quiet (readRegisters_quiet _)) fun _ => .pure _
  | readRegister reg => exact .bind (onDebuggee_quiet (readRegister_quiet reg)) fun _ => .pure _
  | writeRegister reg value =>
    have hreg : reg ≠ .rip := fun h => hc (Or.inr ⟨value, by rw [h]⟩)
    refine .bind (.bind (onDebuggee_quiet (writeRegister_quiet reg value)) fun _ => ?_) fun _ =>
      .pure _
    rw [if_neg hreg]
    exact .pure _
  | readMemory a size => exact .bind (Session.readMemory_quiet a size) fun _ => .pure _
  | writeMemory a value =>
    exact .bind (onDebuggee_quiet (writeMemory_quiet a value)) fun _ => .pure _
  | findSymbols name => exact .bind (.inspect _) fun _ => .pure _
  | info => exact .bind info_quiet fun _ => .pure _
  | maps => exact .bind maps_quiet fun _ => .pure _
  | kill => exact .bind (onDebuggee_quiet kill_quiet) fun _ => .pure _
  | quit => exact .pure _
  | _ => exact absurd (Or.inl trivial) hc

end Session

/-! ## What moves the program counter -/

namespace Debuggee

open Simulated

variable {d d' : Debuggee Simulated} {e : Failure}

/-- The program counter is where it was. -/
def StaysPut : Debuggee Simulated → Debuggee Simulated → Prop :=
  InvImage (Unchanged Simulated.pc) Debuggee.tracee

instance : IsPreorder (Debuggee Simulated) StaysPut :=
  inferInstanceAs (IsPreorder _ (InvImage (Unchanged Simulated.pc) Debuggee.tracee))

theorem readWord_pc (a : Addr) :
    (Tracee.readWord a : Action Simulated Word).Keeps (Unchanged Simulated.pc) :=
  .of_gives fun _ _ _ h => congrArg Simulated.pc (gives_readWord h).1

theorem writeWord_pc (a : Addr) (w : Word) :
    (Tracee.writeWord a w : Action Simulated Unit).Keeps (Unchanged Simulated.pc) := by
  refine .of_gives fun p r p' h => ?_
  obtain ⟨-, rfl⟩ | ⟨m, -, -, -, -, rfl⟩ := gives_writeWord h
  · rfl
  · rfl

theorem requestAlive_staysPut {α : Type} {act : Action Simulated α}
    (h : act.Keeps (Unchanged Simulated.pc)) : (requestAlive act).Keeps StaysPut :=
  requestAlive_keeps (request_keeps h)

theorem staysPut_reading : KeptByReading StaysPut where
  readRegister _ := requestAlive_staysPut (whileAlive_keeps fun _ => rfl)
  readMemory a := requestAlive_staysPut (readWord_pc a)
  memoryMap := requestAlive_staysPut fun p => congrArg Simulated.pc (readMap_keeps p)

theorem staysPut_patching : KeptByPatching StaysPut :=
  .of_words readWord_pc writeWord_pc

theorem writeRegister_staysPut {reg : Register} (hreg : reg ≠ .rip) (value : UInt64) :
    (writeRegister reg value).Keeps StaysPut :=
  requestAlive_staysPut (whileAlive_keeps fun p => by
    show (p.registers.set reg value).get .rip = p.registers.get .rip
    rw [RegisterFile.get_set, if_neg hreg])

theorem kill_staysPut : kill.Keeps StaysPut :=
  .bind (requestAlive_staysPut (whileAlive_keeps fun _ => rfl)) fun _ =>
    .bind (.log _ _ _) fun _ _ => rfl

/-! ### Steps succeed -/

section
variable (hd : d.Settled) (ha : d.isAlive) (hp : d.tracee.isAlive)
include hd ha hp

/-- Stepping over a breakpoint does not fail where all of them can be patched. -/
theorem stepOverBreakpoint_succeeds : ¬ stepOverBreakpoint.Gives d (.error e) d' := by
  intro h
  generalize hr : (Except.error e : Except Failure (Option StopEvent)) = r at h
  cases gives_stepOverBreakpoint.1 h with
  | unread hpc => cases (hpc.unique (pc_gives ha hp)).1
  | absent => cases hr
  | stuck hpc hen hdis =>
    obtain rfl := eq_of_gives_pc hpc
    obtain ⟨_, -, ⟨⟩, -⟩ := disableAt_settled hd hen hdis
  | @gone _ _ _ step _ hpc hen hdis hstep _ =>
    obtain rfl := eq_of_gives_pc hpc
    obtain ⟨v, -, -, rfl⟩ := disableAt_settled hd hen hdis
    rcases step with e' | event
    · exact absurd hstep (singleStep_succeeds ha hp)
    · cases hr
  | @survived _ _ _ _ step _ _ hpc hen hdis hstep ha' henable =>
    obtain rfl := eq_of_gives_pc hpc
    obtain ⟨v, hv, -, rfl⟩ := disableAt_settled hd hen hdis
    obtain ⟨hgives, -⟩ := enableAt_again hd hv hstep ha'
    obtain ⟨rfl, -⟩ := henable.unique hgives
    rcases step with e' | event
    · exact absurd hstep (singleStep_succeeds ha hp)
    · cases hr

theorem stepInstruction_succeeds : ¬ stepInstruction.Gives d (.error e) d' := by
  intro h
  obtain ⟨e', hover, -⟩ | ⟨event, d₁, hover, hthen⟩ := gives_bind.1 h
  · exact stepOverBreakpoint_succeeds hd ha hp hover
  rcases event with _ | event
  · have ha₁ := stepOverBreakpoint_alive hover (Or.inl rfl)
    have hp₁ := (stepOverBreakpoint_sound hover).2 ha₁
    exact singleStep_succeeds ha₁ hp₁ hthen
  · cases (gives_pure.1 hthen).1

end

/-- A debuggee that has finished a step is there. -/
theorem stepInstruction_alive (h : stepInstruction.Gives d (.ok .stepped) d') : d'.isAlive := by
  obtain ⟨event, d₁, hover, hthen⟩ := gives_bind_ok.1 h
  rcases event with _ | event
  · rw [gives_singleStep] at hthen
    split_ifs at hthen with ha
    · obtain ⟨ha', -⟩ | ⟨-, -, event, he, hterm⟩ := gives_runAndWait hthen ha
      · exact ha'
      · obtain rfl := Except.ok.inj he
        cases hterm
    · cases hthen.1
  · obtain ⟨⟨⟩, rfl⟩ := gives_pure.1 hthen
    exact stepOverBreakpoint_alive hover (Or.inr rfl)

end Debuggee

namespace Session

open Debuggee Simulated

variable {s s' : Session Simulated} {e : Failure}

/-- The commands that do not move leave the program counter alone. -/
theorem execute_stays {c : Command} (hc : ¬ Presents c) :
    (execute c).Keeps (InvImage StaysPut Session.debuggee) := by
  have hread := staysPut_reading
  have hpatch := staysPut_patching
  refine .bind (.log _ _ _) fun _ => ?_
  cases c with
  | setBreakpoint place =>
    exact .bind (setBreakpoint_keeps hpatch.setBreakpoint place) fun _ => .pure _
  | deleteBreakpoint a =>
    exact .bind (onDebuggee_keeps (hpatch.removeBreakpoint a)) fun _ => .pure _
  | dumpRegisters => exact .bind (onDebuggee_keeps (hread.readRegisters _)) fun _ => .pure _
  | readRegister reg => exact .bind (onDebuggee_keeps (hread.readRegister reg)) fun _ => .pure _
  | writeRegister reg value =>
    have hreg : reg ≠ .rip := fun h => hc (Or.inr ⟨value, by rw [h]⟩)
    refine .bind (.bind (onDebuggee_keeps (writeRegister_staysPut hreg value)) fun _ => ?_)
      fun _ => .pure _
    rw [if_neg hreg]
    exact .pure _
  | readMemory a size => exact .bind (readMemory_keeps hread a size) fun _ => .pure _
  | writeMemory a value =>
    have hwrite : (Debuggee.writeMemory a value).Keeps StaysPut :=
      requestAlive_staysPut (writeWord_pc a value)
    exact .bind (onDebuggee_keeps hwrite) fun _ => .pure _
  | findSymbols name => exact .bind (.inspect _) fun _ => .pure _
  | info => exact .bind (info_keeps hread) fun _ => .pure _
  | maps => exact .bind (onDebuggee_keeps hread.memoryMap) fun _ => .pure _
  | kill => exact .bind (onDebuggee_keeps kill_staysPut) fun _ => .pure _
  | quit => exact .pure _
  | _ => exact absurd (Or.inl trivial) hc

/-- Stepping to another line does not fail once it has begun. -/
theorem stepFrom_succeeds {start : Option SourceLocation} {limit : Nat}
    (hd : s.debuggee.Settled) (ha : s.debuggee.isAlive) (hp : s.debuggee.tracee.isAlive) :
    ¬ (stepFrom start limit).Gives s (.error e) s' := by
  have hshown {s₁ : Session Simulated} (event : StopEvent)
      (hp₁ : s₁.debuggee.isAlive → s₁.debuggee.tracee.isAlive) :
      ¬ (do presentLocation; return event : Action (Session Simulated) StopEvent).Gives s₁
        (.error e) s' := by
    intro h
    cases (h.unique ((presentLocation_gives hp₁).bind (gives_pure.2 ⟨rfl, rfl⟩))).1
  induction limit generalizing s with
  | zero => exact hshown .stepped fun _ => hp
  | succ limit ih =>
    intro h
    obtain ⟨e', hstep, -⟩ | ⟨event, s₁, hstep, hthen⟩ := gives_bind.1 h
    · obtain ⟨d₁, hd₁, -⟩ := gives_onDebuggee.1 hstep
      exact stepInstruction_succeeds hd ha hp hd₁
    obtain ⟨d₁, hd₁, rfl⟩ := gives_onDebuggee.1 hstep
    obtain ⟨hsettled, hkept⟩ := stepInstruction_steady.gives hd₁ hd
    have hp₁ (ha₁ : d₁.isAlive) : d₁.tracee.isAlive := (hkept ha₁).2.1 hp
    split_ifs at hthen with hne
    · exact hshown event hp₁ hthen
    obtain rfl : event = .stepped := by simpa using hne
    have ha₁ := stepInstruction_alive hd₁
    have hline := currentLine_gives (s := { s with debuggee := d₁ }) ha₁ (hp₁ ha₁)
    obtain ⟨_, hfail, -⟩ | ⟨entry, s₂, hok, hrest⟩ := gives_bind.1 hthen
    · cases (hfail.unique hline).1
    obtain ⟨-, rfl⟩ := hok.unique hline
    have hgoes : ¬ (stepFrom start limit).Gives { s with debuggee := d₁ } (.error e) s' :=
      ih hsettled ha₁ (hp₁ ha₁)
    rcases entry with _ | here
    · exact hgoes hrest
    dsimp only at hrest
    split_ifs at hrest
    · exact hgoes hrest
    · exact hshown .stepped (fun _ => hp₁ ha₁) hrest

theorem stepIn_error (hd : s.debuggee.Settled) (h : stepIn.Gives s (.error e) s') :
    Same s.debuggee s'.debuggee := by
  obtain ⟨_, hfail, -⟩ | ⟨entry, s₁, hline, hsteps⟩ := gives_bind.1 h
  · exact (currentLine_keeps same_reading).gives hfail
  obtain ⟨ha, hp, -, rfl⟩ := currentLine_ok hline
  exact absurd (gives_log_bind.1 hsteps) (stepFrom_succeeds hd ha hp)

/-- A command that fails leaves the program counter alone, unless the process runs
    away. -/
theorem execute_error_stays {c : Command} (hd : s.debuggee.Settled)
    (h : (execute c).Gives s (.error e) s')
    (halts : e = .processAccess .echild → ¬ s.debuggee.Escapes) :
    StaysPut s.debuggee s'.debuggee := by
  have hsame : Same s.debuggee s'.debuggee := by
    by_cases hc : c = .stepIn
    · subst hc
      obtain ⟨_ | _, hstep, hr⟩ := gives_map.1 (gives_log_bind.1 h)
      · cases hr
        exact stepIn_error hd hstep
      · cases hr
    · exact (execute_undone hc _ _ _ h).resolve_right fun h => halts h.1 h.2
  rw [Same] at hsame
  rw [hsame]
  rfl

/-! ## The window -/

/-- **The source window shows where the debuggee is.**  Whatever was done before,
    a command that moves shows one window if it succeeds, the debuggee is there
    and its program counter has a place in the source: that place.  In every
    other case nothing is shown.  So whenever the program counter of a debuggee
    has changed to one with a place, this is the last that was shown; only of a
    process that runs away there is no stop to show. -/
theorem window_shows (p : Simulated) (resolver : Resolver) (config : Config)
    (is : List Interaction) (c : Command) :
    let s := (fresh p resolver config).after is
    let o := execute c s
    let succeeds := ∃ feedback, o.result = .ok feedback
    (Presents c ∧ succeeds ∧ o.state.debuggee.isAlive →
      (execute c).windows s = o.state.place?.toList) ∧
    (¬ (Presents c ∧ succeeds ∧ o.state.debuggee.isAlive) → (execute c).windows s = []) ∧
    ((o.result = .error (.processAccess .echild) → ¬ s.debuggee.Escapes) →
      o.state.debuggee.isAlive →
      o.state.debuggee.tracee.registers.get .rip ≠ s.debuggee.tracee.registers.get .rip →
      ∀ shown ∈ o.state.place?, ((execute c).windows s).getLast? = some shown) := by
  intro s o succeeds
  have hd : s.debuggee.Settled := (chosen_after p resolver config is).settled
  have hgives := gives_self (execute c) s
  have hpresents (h : Presents c ∧ succeeds ∧ o.state.debuggee.isAlive) :
      (execute c).windows s = o.state.place?.toList := by
    obtain ⟨hc, ⟨feedback, hok⟩, ha⟩ := h
    rw [execute_endsShown hc s feedback o.state ⟨hok, rfl⟩, shown, if_pos ha]
  refine ⟨hpresents, fun h => ?_, fun halts ha hmoved place hplace => ?_⟩
  · by_cases hc : Presents c
    · rcases hr : o.result with e | feedback
      · exact execute_failsQuietly c s _ e ⟨hr, rfl⟩
      · have hgone : ¬ o.state.debuggee.isAlive := fun ha => h ⟨hc, ⟨feedback, hr⟩, ha⟩
        rw [execute_endsShown hc s feedback o.state ⟨hr, rfl⟩, shown, if_neg hgone]
    · exact execute_quiet hc s
  · have hc : Presents c := by
      by_contra hc
      exact hmoved (execute_stays hc s)
    have hok : succeeds := by
      rcases hr : o.result with e | feedback
      · exact absurd (execute_error_stays hd ⟨hr, rfl⟩ fun he => halts (he ▸ hr)) hmoved
      · exact ⟨feedback, hr⟩
    rw [hpresents ⟨hc, hok, ha⟩, Option.mem_def.1 hplace]
    rfl

/-- Leaving the function is cut short by a breakpoint of the user; the program
    counter is moved back onto it and its line is shown. -/
theorem window_shows_paused :
    let o := execute .stepOut paused
    o.result = .ok (.stopped (.hitBreakpoint (Fixture.runtime 0x113c))) ∧
      o.state.debuggee.isAlive ∧
      o.state.debuggee.tracee.registers.get .rip ≠ paused.debuggee.tracee.registers.get .rip ∧
      (execute .stepOut).windows paused = [⟨"/src/prog/main.c", 11, 2⟩] ∧
      ((execute .stepOut).windows paused).getLast? = some ⟨"/src/prog/main.c", 11, 2⟩ := by
  have hok : (execute .stepOut paused).result =
      .ok (.stopped (.hitBreakpoint (Fixture.runtime 0x113c))) := by
    decide +kernel
  have halive : (execute .stepOut paused).state.debuggee.isAlive := by decide +kernel
  have hmoved : (execute .stepOut paused).state.debuggee.tracee.registers.get .rip ≠
      paused.debuggee.tracee.registers.get .rip := by
    decide +kernel
  have hplace : (execute .stepOut paused).state.place? = some ⟨"/src/prog/main.c", 11, 2⟩ := by
    decide +kernel
  have hpaused : paused = (fresh mainOnly ⟨Fixture.info, Fixture.loadAddress⟩ {}).after
      [.command (.setBreakpoint (.address (Fixture.runtime 0x1129))),
        .command (.setBreakpoint (.address (Fixture.runtime 0x113c)))] := rfl
  obtain ⟨hshown, -, hlast⟩ := window_shows mainOnly ⟨Fixture.info, Fixture.loadAddress⟩ {}
    [.command (.setBreakpoint (.address (Fixture.runtime 0x1129))),
      .command (.setBreakpoint (.address (Fixture.runtime 0x113c)))] .stepOut
  rw [← hpaused] at hshown hlast
  refine ⟨hok, halive, hmoved, ?_, hlast (fun h => ?_) halive hmoved _ hplace⟩
  · rw [hshown ⟨Or.inl trivial, ⟨_, hok⟩, halive⟩, hplace]
    rfl
  · cases hok.symm.trans h

end Session

end SourceDebugger
