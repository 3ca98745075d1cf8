/-
  What shows source windows.  A command shows where the debuggee is once it has
  moved, and nothing comes after that which could fail: a command that fails
  has shown nothing.

  * `act.Quiet`: `act` shows nothing, be it that it fails or not.  This passes
    from the parts of a computation to the whole;
  * `act.FailsQuietly`: if `act` fails, it has shown nothing.  This holds if all
    but the last part is quiet;
  * `Session.execute_failsQuietly`: for every command.
-/
import SourceDebugger.Proofs.Session
import SourceDebugger.Simulation.Process

namespace SourceDebugger

namespace Action

variable {σ τ α β : Type}

/-- The windows that are shown when `act` begins in `s`. -/
def windows (act : Action σ α) (s : σ) : List ShownLine :=
  (act s).events.filterMap Event.window?

/-- A sequence shows what its parts show, as far as it gets. -/
theorem windows_bind (act : Action σ α) (next : α → Action σ β) (s : σ) :
    (act >>= next).windows s = act.windows s ++
      match (act s).result with
      | .ok a => (next a).windows (act s).state
      | .error _ => [] := by
  rw [windows, bind_eq]
  rcases h : (act s).result with _ | _ <;> simp [windows]

/-- `act` shows nothing. -/
def Quiet (act : Action σ α) : Prop := ∀ s, act.windows s = []

/-- If `act` fails, it has shown nothing. -/
def FailsQuietly (act : Action σ α) : Prop :=
  ∀ s s' e, act.Gives s (.error e) s' → act.windows s = []

/-! ## Building blocks -/

section
variable {act : Action σ α} {next : α → Action σ β}

theorem Quiet.pure (a : α) : (Pure.pure a : Action σ α).Quiet := fun _ => rfl

theorem Quiet.fail (e : Failure) : (fail e : Action σ α).Quiet := fun _ => rfl

theorem Quiet.ofExcept (r : Except Failure α) : (ofExcept r : Action σ α).Quiet := fun _ => rfl

theorem Quiet.inspect (f : σ → α) : (inspect f).Quiet := fun _ => rfl

theorem Quiet.modify (f : σ → σ) : (modify f).Quiet := fun _ => rfl

theorem Quiet.log (level : LogLevel) (source : LogSource) (message : String) :
    (log level source message : Action σ Unit).Quiet := fun _ => rfl

theorem Quiet.bind (h : act.Quiet) (hn : ∀ a, (next a).Quiet) : (act >>= next).Quiet := by
  intro s
  rw [windows_bind, h s, List.nil_append]
  split
  · exact hn _ _
  · rfl

theorem Quiet.attempt (h : act.Quiet) : act.attempt.Quiet := h

theorem Quiet.within {get : σ → τ} {put : τ → σ → σ} {act : Action τ α} (h : act.Quiet) :
    (act.within get put).Quiet := fun s => h (get s)

theorem Quiet.failsQuietly (h : act.Quiet) : act.FailsQuietly := fun s _ _ _ => h s

/-- What cannot fail may show anything. -/
theorem FailsQuietly.tell (e : Event) : (tell e : Action σ Unit).FailsQuietly :=
  fun _ _ _ h => nomatch h.1

theorem FailsQuietly.bind (h : act.Quiet) (hn : ∀ a, (next a).FailsQuietly) :
    (act >>= next).FailsQuietly := by
  intro s s' e hg
  rw [windows_bind, h s, List.nil_append]
  obtain ⟨_, ⟨hfail, -⟩, -⟩ | ⟨a, s₁, ⟨hok, rfl⟩, hnext⟩ := gives_bind.1 hg
  · rw [hfail]
  · rw [hok]
    exact hn a _ _ _ hnext

theorem FailsQuietly.map (h : act.FailsQuietly) (f : α → β) :
    (do return f (← act) : Action σ β).FailsQuietly := by
  intro s s' e hg
  obtain ⟨r₀, hact, hr⟩ := gives_map.1 hg
  rcases r₀ with e' | a
  · rw [windows_bind, h s s' e' hact, hact.1]
    rfl
  · cases hr

end

end Action

open SourceDebugger.Action

/-! ## The process -/

/-- A tracee whose requests show nothing. -/
class QuietTracee (τ : Type) [Tracee τ] : Prop where
  readWord (a : Addr) : (Tracee.readWord a : Action τ Word).Quiet
  writeWord (a : Addr) (w : Word) : (Tracee.writeWord a w : Action τ Unit).Quiet
  readRegister (reg : Register) : (Tracee.readRegister reg : Action τ UInt64).Quiet
  writeRegister (reg : Register) (value : UInt64) :
    (Tracee.writeRegister reg value : Action τ Unit).Quiet
  resume : (Tracee.resume : Action τ Unit).Quiet
  step : (Tracee.step : Action τ Unit).Quiet
  wait : (Tracee.wait : Action τ Report).Quiet
  memoryMap : (Tracee.memoryMap : Action τ MemoryMap).Quiet
  kill : (Tracee.kill : Action τ Unit).Quiet

theorem Simulated.whileAlive_quiet {α : Type} (f : Simulated → α × Simulated) :
    (whileAlive f).Quiet := by
  intro p
  unfold windows whileAlive
  split <;> rfl

instance : QuietTracee Simulated where
  readWord a p := by
    show windows (Simulated.readWord a) p = []
    unfold windows Simulated.readWord
    split
    · rfl
    · split <;> rfl
  writeWord a w p := by
    show windows (Simulated.writeWord a w) p = []
    unfold windows Simulated.writeWord
    split
    · rfl
    · split <;> rfl
  readRegister _ := Simulated.whileAlive_quiet _
  writeRegister _ _ := Simulated.whileAlive_quiet _
  resume := Simulated.whileAlive_quiet _
  step := Simulated.whileAlive_quiet _
  wait p := by
    show windows Simulated.takePending p = []
    unfold windows Simulated.takePending
    split <;> rfl
  memoryMap p := by
    show windows Simulated.readMap p = []
    unfold windows Simulated.readMap
    split
    · rfl
    · split <;> rfl
  kill := Simulated.whileAlive_quiet _

variable {τ : Type} [Tracee τ] [QuietTracee τ] {α : Type}

namespace Breakpoint

theorem enable_quiet (b : Breakpoint) : (b.enable : Action τ Breakpoint).Quiet := by
  unfold enable
  split_ifs
  · exact .fail _
  · exact .bind (QuietTracee.readWord _) fun _ => .bind (.log _ _ _) fun _ =>
      .bind (.log _ _ _) fun _ => .bind (QuietTracee.writeWord _ _) fun _ => .pure _

theorem disable_quiet (b : Breakpoint) : (b.disable : Action τ Breakpoint).Quiet := by
  unfold disable
  split
  · exact .fail _
  · exact .bind (QuietTracee.readWord _) fun _ => .bind (.log _ _ _) fun _ =>
      .bind (.log _ _ _) fun _ => .bind (QuietTracee.writeWord _ _) fun _ => .pure _

end Breakpoint

/-! ## The debuggee -/

namespace Debuggee

omit [Tracee τ] [QuietTracee τ] in
theorem requestAlive_quiet {act : Action τ α} (h : act.Quiet) : (requestAlive act).Quiet :=
  .bind (fun _ => rfl) fun _ => .within h

theorem readRegister_quiet (reg : Register) :
    (readRegister reg : Action (Debuggee τ) UInt64).Quiet :=
  requestAlive_quiet (QuietTracee.readRegister reg)

theorem writeRegister_quiet (reg : Register) (value : UInt64) :
    (writeRegister reg value : Action (Debuggee τ) Unit).Quiet :=
  requestAlive_quiet (QuietTracee.writeRegister reg value)

theorem readRegisters_quiet :
    ∀ regs, (readRegisters regs : Action (Debuggee τ) (List (Register × UInt64))).Quiet
  | [] => .pure _
  | r :: regs => .bind (readRegister_quiet r) fun _ => .bind (readRegisters_quiet regs) fun _ =>
      .pure _

theorem readDwarfRegister_quiet (number : Nat) :
    (readDwarfRegister number : Action (Debuggee τ) UInt64).Quiet := by
  unfold readDwarfRegister
  split
  · exact readRegister_quiet _
  · exact .fail _

theorem readMemory_quiet (a : Addr) : (readMemory a : Action (Debuggee τ) Word).Quiet :=
  requestAlive_quiet (QuietTracee.readWord a)

theorem writeMemory_quiet (a : Addr) (value : Word) :
    (writeMemory a value : Action (Debuggee τ) Unit).Quiet :=
  requestAlive_quiet (QuietTracee.writeWord a value)

theorem readSized_quiet (a : Addr) (size : UInt64) :
    (readSized a size : Action (Debuggee τ) UInt64).Quiet := by
  unfold readSized
  split
  · exact .fail _
  · exact .bind (readMemory_quiet a) fun _ => .bind (.log _ _ _) fun _ => .pure _

theorem enableAt_quiet (a : Addr) : (enableAt a : Action (Debuggee τ) Unit).Quiet :=
  .bind (.inspect _) fun
    | none => .pure _
    | some b => .bind (.within b.enable_quiet) fun _ => .modify _

theorem disableAt_quiet (a : Addr) : (disableAt a : Action (Debuggee τ) Unit).Quiet :=
  .bind (.inspect _) fun
    | none => .pure _
    | some b => .bind (.within b.disable_quiet) fun _ => .modify _

theorem setBreakpoint_quiet (a : Addr) : (setBreakpoint a : Action (Debuggee τ) Bool).Quiet := by
  have hinsert : (insertBreakpoint a : Action (Debuggee τ) Bool).Quiet := by
    refine .bind (.inspect _) fun b => ?_
    rcases b with _ | b
    · exact .bind (.within (Breakpoint.enable_quiet _)) fun _ => .bind (.modify _) fun _ => .pure _
    · dsimp only
      split_ifs
      · exact .bind (enableAt_quiet a) fun _ => .bind (.log _ _ _) fun _ => .pure _
      · exact .bind (.log _ _ _) fun _ => .pure _
  refine .bind (fun _ => rfl) fun _ => .bind hinsert fun added => ?_
  cases added
  · exact .pure _
  · exact .bind (.log _ _ _) fun _ => .pure _

theorem removeBreakpoint_quiet (a : Addr) :
    (removeBreakpoint a : Action (Debuggee τ) Unit).Quiet := by
  refine .bind (fun _ => rfl) fun _ => .bind (.inspect _) fun b => ?_
  rcases b with _ | b
  · exact .log _ _ _
  · dsimp only
    split_ifs
    · exact .bind (disableAt_quiet a) fun _ => .modify _
    · exact .modify _

theorem classifyTrap_quiet (code : Int) :
    (classifyTrap code : Action (Debuggee τ) StopEvent).Quiet := by
  unfold classifyTrap
  split_ifs
  · refine .bind (readRegister_quiet _) fun here => .bind (.inspect _) fun known => ?_
    cases known
    · exact .bind (.log _ _ _) fun _ => .pure _
    · exact .bind (writeRegister_quiet _ _) fun _ => .pure _
  · exact .pure _
  · exact .bind (.log _ _ _) fun _ => .pure _

theorem classify_quiet (report : Report) :
    (classify report : Action (Debuggee τ) StopEvent).Quiet := by
  cases report with
  | signal signal code =>
    refine .bind (.modify _) fun _ => ?_
    split_ifs
    · exact classifyTrap_quiet code
    · exact .pure _
    · exact .pure _
  | _ => exact .bind (.modify _) fun _ => .pure _

theorem runAndWait_quiet {act : Action τ Unit} (h : act.Quiet) :
    (runAndWait act : Action (Debuggee τ) StopEvent).Quiet :=
  .bind (.within h) fun _ => .bind (.modify _) fun _ =>
    .bind (.within QuietTracee.wait) fun report =>
      .bind (classify_quiet report) fun _ => .bind (.log _ _ _) fun _ => .pure _

theorem singleStep_quiet : (singleStep : Action (Debuggee τ) StopEvent).Quiet := by
  rw [singleStep_eq]
  exact .bind (fun _ => rfl) fun _ => runAndWait_quiet QuietTracee.step

theorem stepOverBreakpoint_quiet :
    (stepOverBreakpoint : Action (Debuggee τ) (Option StopEvent)).Quiet := by
  refine .bind (readRegister_quiet _) fun here => .bind (.inspect _) fun held => ?_
  cases held
  · exact .pure _
  refine .bind (.log _ _ _) fun _ => .bind (disableAt_quiet here) fun _ => ?_
  refine .bind (.attempt singleStep_quiet) fun event => .bind (.inspect _) fun alive => ?_
  cases alive
  · exact .bind (.ofExcept _) fun _ => .pure _
  · exact .bind (enableAt_quiet here) fun _ => .bind (.ofExcept _) fun _ => .pure _

theorem stepInstruction_quiet : (stepInstruction : Action (Debuggee τ) StopEvent).Quiet :=
  .bind stepOverBreakpoint_quiet fun
    | some _ => .pure _
    | none => singleStep_quiet

theorem continueExecution_quiet : (continueExecution : Action (Debuggee τ) StopEvent).Quiet := by
  have hrun : (runAndWait Tracee.resume : Action (Debuggee τ) StopEvent).Quiet :=
    runAndWait_quiet QuietTracee.resume
  refine .bind (fun _ => rfl) fun _ => .bind stepOverBreakpoint_quiet fun event => ?_
  split
  · exact hrun
  · exact hrun
  · exact .pure _

theorem kill_quiet : (kill : Action (Debuggee τ) Unit).Quiet :=
  .bind (requestAlive_quiet QuietTracee.kill) fun _ => .bind (.log _ _ _) fun _ => .modify _

end Debuggee

/-! ## The resolver -/

namespace Resolver

variable {σ : Type}

omit [Tracee τ] [QuietTracee τ] in
theorem found_quiet (what : String) (o : Option α) : (found what o : Action σ α).Quiet := by
  cases o
  · exact .fail _
  · exact .pure _

theorem lineEntry_quiet (r : Resolver) (a : Addr) :
    (r.lineEntry a : Action σ LineEntry).Quiet :=
  .bind (found_quiet _ _) fun _ => .bind (.log _ _ _) fun _ => .pure _

theorem functionContaining_quiet (r : Resolver) (a : Addr) :
    (r.functionContaining a : Action σ Function).Quiet :=
  .bind (.log _ _ _) fun _ => found_quiet _ _

theorem bodyOf_quiet (r : Resolver) (name : String) :
    ∀ candidates, (r.bodyOf name candidates : Action σ Addr).Quiet
  | [] => .fail _
  | (table, f) :: candidates => by
    unfold bodyOf
    dsimp only
    split
    · exact .bind (.log _ _ _) fun _ => bodyOf_quiet r name candidates
    · exact .bind (.log _ _ _) fun _ => .pure _

theorem addressForLine_quiet (r : Resolver) (file : String) (line : UInt64) :
    (r.addressForLine file line : Action σ Addr).Quiet :=
  .bind (found_quiet _ _) fun _ => .bind (.log _ _ _) fun _ => .pure _

end Resolver

/-! ## The session -/

namespace Session

omit [Tracee τ] [QuietTracee τ] in
theorem ask_quiet {query : Resolver → Action (Session τ) α} (h : ∀ r, (query r).Quiet) :
    (ask query).Quiet := fun s => h s.resolver s

omit [Tracee τ] [QuietTracee τ] in
theorem onDebuggee_quiet {act : Action (Debuggee τ) α} (h : act.Quiet) :
    (onDebuggee act).Quiet := .within h

omit [Tracee τ] [QuietTracee τ] in
theorem locate_quiet (place : Place) : (locate place : Action (Session τ) Addr).Quiet := by
  cases place with
  | address a => exact .pure a
  | line file line => exact ask_quiet fun r => r.addressForLine_quiet file line
  | function name => exact ask_quiet fun r => r.bodyOf_quiet name _

theorem currentLine_quiet : (currentLine : Action (Session τ) (Option LineEntry)).Quiet := by
  refine .bind (onDebuggee_quiet (Debuggee.readRegister_quiet _)) fun here => ?_
  refine .bind (.attempt (ask_quiet fun r => r.lineEntry_quiet _)) fun entry => ?_
  cases entry <;> exact .pure _

/-- The place is shown in the end. -/
theorem presentLocation_failsQuietly :
    (presentLocation : Action (Session τ) Unit).FailsQuietly := by
  refine .bind (.inspect _) fun alive => ?_
  cases alive
  · exact (Quiet.pure _).failsQuietly
  refine .bind currentLine_quiet fun entry => ?_
  cases entry
  · exact (Quiet.log _ _ _).failsQuietly
  · exact .bind (.inspect _) fun _ => .tell _

/-- A place is shown once the debuggee has moved. -/
theorem moved_failsQuietly {act : Action (Debuggee τ) StopEvent} (h : act.Quiet) :
    (do
      let event ← onDebuggee act
      presentLocation
      return event : Action (Session τ) StopEvent).FailsQuietly :=
  .bind (onDebuggee_quiet h) fun _ => presentLocation_failsQuietly.map _

theorem readMemory_quiet (a : Addr) (size : Option UInt64) :
    (readMemory a size : Action (Session τ) Word).Quiet := by
  cases size
  · exact onDebuggee_quiet (Debuggee.readMemory_quiet a)
  · exact onDebuggee_quiet (Debuggee.readSized_quiet a _)

theorem returnAddress_quiet : (returnAddress : Action (Session τ) Addr).Quiet := by
  refine .bind (onDebuggee_quiet (Debuggee.readDwarfRegister_quiet _)) fun frame => ?_
  split
  · exact .fail _
  · refine .bind (onDebuggee_quiet (Debuggee.readSized_quiet _ _)) fun a => ?_
    exact .bind (.log _ _ _) fun _ => .pure _

theorem maps_quiet : (maps : Action (Session τ) MemoryMap).Quiet :=
  onDebuggee_quiet (Debuggee.requestAlive_quiet QuietTracee.memoryMap)

theorem info_quiet : (info : Action (Session τ) String).Quiet := by
  have hplace : (describePlace : Action (Session τ) String).Quiet := by
    refine .bind (onDebuggee_quiet (Debuggee.readRegister_quiet _)) fun here => ?_
    refine .bind currentLine_quiet fun entry => ?_
    cases entry
    · refine .bind maps_quiet fun map => ?_
      split <;> exact .pure _
    · exact .pure _
  refine .bind (.inspect _) fun s => ?_
  dsimp only
  split_ifs
  · exact .bind hplace fun _ => .bind (.pure _) fun _ => .pure _
  · exact .bind (.pure _) fun _ => .pure _

theorem stepFrom_failsQuietly (start : Option SourceLocation) :
    ∀ limit, (stepFrom start limit : Action (Session τ) StopEvent).FailsQuietly
  | 0 => presentLocation_failsQuietly.map _
  | limit + 1 => by
    refine .bind (onDebuggee_quiet Debuggee.stepInstruction_quiet) fun event => ?_
    split_ifs
    · exact presentLocation_failsQuietly.map _
    refine .bind currentLine_quiet fun entry => ?_
    cases entry
    · exact stepFrom_failsQuietly start limit
    · dsimp only
      split_ifs
      · exact stepFrom_failsQuietly start limit
      · exact presentLocation_failsQuietly.map _

theorem stepIn_failsQuietly : (stepIn : Action (Session τ) StopEvent).FailsQuietly :=
  .bind currentLine_quiet fun _ => .bind (.log _ _ _) fun _ => stepFrom_failsQuietly _ _

theorem addTemporary_quiet : ∀ stops added, (addTemporary added stops :
    Action (Session τ) (List Addr × Except Failure Unit)).Quiet
  | [], _ => .pure _
  | a :: stops, added => by
    refine .bind (.inspect _) fun there => ?_
    cases there
    · refine .bind (.attempt (onDebuggee_quiet (Debuggee.setBreakpoint_quiet a))) fun r => ?_
      rcases r with e | _ | _
      · exact .pure _
      · exact addTemporary_quiet stops _
      · exact addTemporary_quiet stops _
    · exact addTemporary_quiet stops _

theorem removeTemporary_quiet (added : List Addr) :
    (removeTemporary added : Action (Session τ) Unit).Quiet := by
  have heach : ∀ addrs, (removeEach addrs : Action (Session τ) Unit).Quiet := by
    intro addrs
    induction addrs with
    | nil => exact .pure _
    | cons a addrs ih =>
      exact .bind (onDebuggee_quiet (Debuggee.removeBreakpoint_quiet a)) fun _ => ih
  refine .bind (.inspect _) fun alive => ?_
  cases alive
  · exact .pure _
  · exact .bind (heach added) fun _ => .log _ _ _

theorem runReady_quiet :
    ∀ ready, (runReady ready : Action (Session τ) (Except Failure StopEvent)).Quiet
  | .ok () => .attempt (onDebuggee_quiet Debuggee.continueExecution_quiet)
  | .error _ => .pure _

theorem runTo_failsQuietly (stops : List Addr) :
    (runTo stops : Action (Session τ) StopEvent).FailsQuietly := by
  rw [runTo_eq]
  refine .bind (addTemporary_quiet stops []) fun (added, ready) => ?_
  refine .bind (runReady_quiet ready) fun result => ?_
  refine .bind (.attempt (removeTemporary_quiet added)) fun removed => ?_
  refine .bind (.ofExcept _) fun event => .bind (.ofExcept _) fun _ => ?_
  exact presentLocation_failsQuietly.map _

theorem nextStops_quiet : (nextStops : Action (Session τ) (List Addr)).Quiet := by
  refine .bind (onDebuggee_quiet (Debuggee.readRegister_quiet _)) fun here => ?_
  refine .bind (.inspect _) fun static => ?_
  refine .bind (ask_quiet fun r => r.functionContaining_quiet _) fun f => ?_
  refine .bind (ask_quiet fun r => r.lineEntry_quiet _) fun start => ?_
  refine .bind (ask_quiet fun r => Resolver.found_quiet _ _) fun rows => ?_
  refine .bind (.inspect _) fun targets => .bind returnAddress_quiet fun a => ?_
  exact .bind (.log _ _ _) fun _ => .pure _

theorem callerStops_quiet : (callerStops : Action (Session τ) (List Addr)).Quiet :=
  .bind returnAddress_quiet fun _ => .bind (.log _ _ _) fun _ => .pure _

/-- **A command that fails has shown nothing.** -/
theorem execute_failsQuietly (c : Command) :
    (execute c : Action (Session τ) Feedback).FailsQuietly := by
  refine .bind (.log _ _ _) fun _ => ?_
  cases c with
  | «continue» => exact (moved_failsQuietly Debuggee.continueExecution_quiet).map _
  | setBreakpoint place =>
    refine (Quiet.bind (locate_quiet place) fun a => ?_).failsQuietly.map _
    exact .bind (onDebuggee_quiet (Debuggee.setBreakpoint_quiet a)) fun _ => .pure _
  | deleteBreakpoint a =>
    exact (onDebuggee_quiet (Debuggee.removeBreakpoint_quiet a)).failsQuietly.map _
  | dumpRegisters => exact (onDebuggee_quiet (Debuggee.readRegisters_quiet _)).failsQuietly.map _
  | readRegister reg =>
    exact (onDebuggee_quiet (Debuggee.readRegister_quiet reg)).failsQuietly.map _
  | writeRegister reg value =>
    refine FailsQuietly.map (.bind (onDebuggee_quiet ?_) fun _ => ?_) _
    · exact Debuggee.writeRegister_quiet reg value
    split_ifs
    · exact presentLocation_failsQuietly
    · exact (Quiet.pure _).failsQuietly
  | readMemory a size => exact (readMemory_quiet a size).failsQuietly.map _
  | writeMemory a value =>
    exact (onDebuggee_quiet (Debuggee.writeMemory_quiet a value)).failsQuietly.map _
  | stepIn => exact stepIn_failsQuietly.map _
  | stepInstruction => exact (moved_failsQuietly Debuggee.stepInstruction_quiet).map _
  | stepOver =>
    rw [stepOver_eq]
    exact FailsQuietly.map (.bind nextStops_quiet runTo_failsQuietly) _
  | stepOut =>
    rw [stepOut_eq]
    exact FailsQuietly.map (.bind callerStops_quiet runTo_failsQuietly) _
  | findSymbols name => exact (Quiet.inspect _).failsQuietly.map _
  | info => exact info_quiet.failsQuietly.map _
  | maps => exact maps_quiet.failsQuietly.map _
  | kill => exact (onDebuggee_quiet Debuggee.kill_quiet).failsQuietly.map _
  | quit => exact (Quiet.pure _).failsQuietly

end Session

end SourceDebugger
