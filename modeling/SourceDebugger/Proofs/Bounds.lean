/-
  What a session does on its own account.  Whatever the requests of its tracee
  fail with and tell, a session passes on; of its own it fails in ways that do
  not include enabling or disabling a breakpoint twice, and tells log lines and
  windows.

  * `Bounds` say which failures and which events there may be;
  * `B.Confines act`: `act` stays within the bounds `B`, `B.ConfinesAt s act`: it
    does where it begins in `s`.  Both pass from the parts of a computation to
    the whole;
  * `Bounds.Respected`: the requests of a tracee stay within the bounds, which
    leave room for what a session does of its own;
  * `Session.perform_confined`: then so does every interaction, whatever entries
    of the table earlier failures have left disabled.
-/
import SourceDebugger.Proofs.History
import SourceDebugger.Proofs.Table

namespace SourceDebugger

open SourceDebugger.Action

/-- To enable what is enabled, or to disable what is disabled. -/
def Failure.Redundant : Failure → Prop
  | .breakpointAlreadyEnabled | .breakpointAlreadyDisabled => True
  | _ => False

/-- Which failures may be met, as far as the state tells, and which events. -/
structure Bounds (σ : Type) where
  fails : Failure → σ → Prop
  tells : Event → Prop

namespace Bounds

variable {σ τ α β : Type}

/-- The bounds for states of which `f` is the part that counts. -/
def comap (B : Bounds τ) (f : σ → τ) : Bounds σ := ⟨fun e s => B.fails e (f s), B.tells⟩

/-- Begun in `s`, `act` stays within the bounds, and what may be met before may
    be met afterwards. -/
structure ConfinesAt (B : Bounds σ) (s : σ) (act : Action σ α) : Prop where
  error {e : Failure} : (act s).result = .error e → B.fails e (act s).state
  tells (x : Event) : x ∈ (act s).events → B.tells x
  lasts {e : Failure} : B.fails e s → B.fails e (act s).state

/-- `act` stays within the bounds, wherever it begins. -/
def Confines (B : Bounds σ) (act : Action σ α) : Prop := ∀ s, B.ConfinesAt s act

variable {B : Bounds σ} {s s' : σ} {act : Action σ α} {next : α → Action σ β}

theorem ConfinesAt.fails_of_gives (h : B.ConfinesAt s act) {e : Failure}
    (hg : act.Gives s (.error e) s') : B.fails e s' :=
  hg.2 ▸ h.error hg.1

theorem ConfinesAt.lasts_of_gives (h : B.ConfinesAt s act) {e : Failure} {r : Except Failure α}
    (hg : act.Gives s r s') (he : B.fails e s) : B.fails e s' :=
  hg.2 ▸ h.lasts he

/-! ## Building blocks -/

theorem Confines.pure (a : α) : B.Confines (Pure.pure a : Action σ α) :=
  fun _ => ⟨nofun, nofun, id⟩

theorem Confines.inspect (f : σ → α) : B.Confines (inspect f) := fun _ => ⟨nofun, nofun, id⟩

theorem Confines.modify {f : σ → σ} (h : ∀ {e s}, B.fails e s → B.fails e (f s)) :
    B.Confines (modify f) := fun _ => ⟨nofun, nofun, h⟩

theorem Confines.tell {x : Event} (h : B.tells x) : B.Confines (tell x : Action σ Unit) :=
  fun _ => ⟨nofun, by simpa [Action.tell] using h, id⟩

theorem Confines.log (h : ∀ line, B.tells (.log line)) (level : LogLevel) (source : LogSource)
    (message : String) : B.Confines (log level source message : Action σ Unit) := .tell (h _)

theorem Confines.fail {e : Failure} (h : ∀ s, B.fails e s) :
    B.Confines (fail e : Action σ α) := by
  refine fun s => ⟨fun he => ?_, nofun, id⟩
  obtain rfl := Except.error.inj he
  exact h s

theorem ConfinesAt.ofExcept {r : Except Failure α} (h : ∀ e, r = .error e → B.fails e s) :
    B.ConfinesAt s (ofExcept r) := ⟨h _, nofun, id⟩

theorem ConfinesAt.bind (h : B.ConfinesAt s act)
    (hn : ∀ a s₁, act.Gives s (.ok a) s₁ → B.ConfinesAt s₁ (next a)) :
    B.ConfinesAt s (act >>= next) := by
  rcases hr : (act s).result with e | a
  · have heq := bind_of_error hr next
    refine ⟨fun he => ?_, fun x hx => ?_, fun he => ?_⟩
    · rw [heq] at he ⊢
      obtain rfl := Except.error.inj he
      exact h.error hr
    · rw [heq] at hx
      exact h.tells x hx
    · rw [heq]
      exact h.lasts he
  · have heq := bind_of_ok hr next
    have hnext := hn a _ ⟨hr, rfl⟩
    refine ⟨fun he => ?_, fun x hx => ?_, fun he => ?_⟩
    · rw [heq] at he ⊢
      exact hnext.error he
    · rw [heq] at hx
      exact (List.mem_append.1 hx).elim (h.tells x) (hnext.tells x)
    · rw [heq]
      exact hnext.lasts (h.lasts he)

theorem Confines.bind (h : B.Confines act) (hn : ∀ a, B.Confines (next a)) :
    B.Confines (act >>= next) := fun s => (h s).bind fun a s₁ _ => hn a s₁

/-- A sequence that begins with a look at the state. -/
theorem ConfinesAt.inspect_bind {f : σ → α} (h : B.ConfinesAt s (next (f s))) :
    B.ConfinesAt s (Action.inspect f >>= next) := ⟨h.error, h.tells, h.lasts⟩

theorem ConfinesAt.attempt (h : B.ConfinesAt s act) : B.ConfinesAt s act.attempt :=
  ⟨nofun, h.tells, h.lasts⟩

theorem Confines.attempt (h : B.Confines act) : B.Confines act.attempt := fun s => (h s).attempt

/-- Acting on a part of the state, where only this part counts. -/
theorem Confines.within {B : Bounds τ} {get : σ → τ} {put : τ → σ → σ} {act : Action τ α}
    (hput : ∀ t s, get (put t s) = t) (h : B.Confines act) :
    (B.comap get).Confines (act.within get put) := by
  intro s
  obtain ⟨herror, htells, hlasts⟩ := h (get s)
  refine ⟨fun he => ?_, htells, fun he => ?_⟩
  · show B.fails _ (get (put _ s))
    rw [hput]
    exact herror he
  · show B.fails _ (get (put _ s))
    rw [hput]
    exact hlasts he

/-- The bounds for debuggees, which are those for their tracees. -/
def debuggee (B : Bounds τ) : Bounds (Debuggee τ) := B.comap Debuggee.tracee

/-- The bounds for sessions. -/
def session (B : Bounds τ) : Bounds (Session τ) := B.debuggee.comap Session.debuggee

/-- The requests of the tracee stay within the bounds, and a session is allowed
    every failure but those that it is to avoid, every log line and window. -/
structure Respected [Tracee τ] (B : Bounds τ) : Prop where
  own {e : Failure} (t : τ) : ¬ e.Redundant → B.fails e t
  log (line : LogLine) : B.tells (.log line)
  window (shown : ShownLine) : B.tells (.window shown)
  readWord (a : Addr) : B.Confines (Tracee.readWord a)
  writeWord (a : Addr) (w : Word) : B.Confines (Tracee.writeWord a w)
  readRegister (reg : Register) : B.Confines (Tracee.readRegister reg)
  writeRegister (reg : Register) (value : UInt64) : B.Confines (Tracee.writeRegister reg value)
  resume : B.Confines Tracee.resume
  step : B.Confines Tracee.step
  wait : B.Confines Tracee.wait
  memoryMap : B.Confines Tracee.memoryMap
  kill : B.Confines Tracee.kill
  detach : B.Confines Tracee.detach

end Bounds

open Bounds

variable {τ α : Type} [Tracee τ] {B : Bounds τ}

/-! ## Breakpoints -/

section
variable (hB : B.Respected) {b : Breakpoint}
include hB

/-- What is disabled can be enabled. -/
theorem Breakpoint.enable_confined (hb : ¬ b.isEnabled) : B.Confines b.enable := by
  unfold enable
  rw [if_neg hb]
  exact .bind (hB.readWord _) fun _ => .bind (.log hB.log _ _ _) fun _ =>
    .bind (.log hB.log _ _ _) fun _ => .bind (hB.writeWord _ _) fun _ => .pure _

/-- What is enabled can be disabled. -/
theorem Breakpoint.disable_confined (hb : b.isEnabled) : B.Confines b.disable := by
  unfold disable
  split
  · rename_i hs
    rw [isEnabled, hs] at hb
    cases hb
  · exact .bind (hB.readWord _) fun _ => .bind (.log hB.log _ _ _) fun _ =>
      .bind (.log hB.log _ _ _) fun _ => .bind (hB.writeWord _ _) fun _ => .pure _

end

/-! ## The debuggee -/

namespace Debuggee

variable {d d' : Debuggee τ} {a : Addr}

omit [Tracee τ] in
theorem request_confined {act : Action τ α} (h : B.Confines act) :
    B.debuggee.Confines (request act) := .within (fun _ _ => rfl) h

omit [Tracee τ] in
theorem modify_confined {f : Debuggee τ → Debuggee τ} (h : ∀ d, (f d).tracee = d.tracee) :
    B.debuggee.Confines (modify f) := by
  refine .modify fun {e d} he => ?_
  show B.fails e (f d).tracee
  rw [h]
  exact he

omit [Tracee τ] in
theorem requestPut_confined {act : Action τ Breakpoint} (h : B.Confines act) :
    B.debuggee.Confines (requestPut act) :=
  .bind (request_confined h) fun _ => modify_confined fun _ => rfl

/-- A breakpoint that was disabled is not enabled. -/
theorem disableAt_disables (h : (disableAt a).Gives d (.ok ()) d') :
    ¬ d'.breakpoints.isEnabledAt a := by
  rw [disableAt, gives_inspect_bind] at h
  rcases hb : d.breakpoints.get? a with _ | b
  · rw [hb] at h
    obtain ⟨-, rfl⟩ := gives_pure.1 h
    simp [BreakpointTable.isEnabledAt, hb]
  rw [hb] at h
  obtain ⟨_, _, -, hr, -⟩ | ⟨b', t, hdisable, -, rfl⟩ := gives_requestPut.1 h
  · cases hr
  have hat : b.addr = a := BreakpointTable.addr_of_get? hb
  simp [Breakpoint.eq_of_disable hdisable, BreakpointTable.isEnabledAt, BreakpointTable.get?_put,
    hat, Breakpoint.isEnabled]

/-- A step enables nothing. -/
theorem singleStep_enabled {r : Except Failure StopEvent} (h : singleStep.Gives d r d')
    (ha : d'.breakpoints.isEnabledAt a) : d.breakpoints.isEnabledAt a := by
  rw [gives_singleStep] at h
  split_ifs at h with halive
  swap
  · exact h.2 ▸ ha
  obtain ⟨-, hsame, -⟩ | ⟨-, hempty, -⟩ := gives_runAndWait h halive
  · exact hsame ▸ ha
  · rw [hempty] at ha
    simp [BreakpointTable.isEnabledAt] at ha

section
variable (hB : B.Respected)
include hB

theorem log_confined (level : LogLevel) (source : LogSource) (message : String) :
    B.debuggee.Confines (log level source message) := .tell (hB.log _)

theorem ensureAlive_confined : B.debuggee.Confines ensureAlive := by
  refine fun d => ⟨fun he => ?_, nofun, id⟩
  unfold ensureAlive at he
  dsimp only at he
  split_ifs at he
  obtain rfl := Except.error.inj he
  exact hB.own d.tracee id

theorem requestAlive_confined {act : Action τ α} (h : B.Confines act) :
    B.debuggee.Confines (requestAlive act) :=
  .bind (ensureAlive_confined hB) fun _ => request_confined h

theorem readRegister_confined (reg : Register) : B.debuggee.Confines (readRegister reg) :=
  requestAlive_confined hB (hB.readRegister reg)

theorem writeRegister_confined (reg : Register) (value : UInt64) :
    B.debuggee.Confines (writeRegister reg value) :=
  requestAlive_confined hB (hB.writeRegister reg value)

theorem readRegisters_confined : ∀ regs, B.debuggee.Confines (readRegisters regs)
  | [] => .pure _
  | r :: regs => .bind (readRegister_confined hB r) fun _ =>
      .bind (readRegisters_confined regs) fun _ => .pure _

theorem readDwarfRegister_confined (number : Nat) :
    B.debuggee.Confines (readDwarfRegister number) := by
  unfold readDwarfRegister
  split
  · exact readRegister_confined hB _
  · exact .fail fun d => hB.own d.tracee id

theorem readMemory_confined (a : Addr) : B.debuggee.Confines (readMemory a) :=
  requestAlive_confined hB (hB.readWord a)

theorem writeMemory_confined (a : Addr) (value : Word) :
    B.debuggee.Confines (writeMemory a value) :=
  requestAlive_confined hB (hB.writeWord a value)

theorem readSized_confined (a : Addr) (size : UInt64) :
    B.debuggee.Confines (readSized a size) := by
  unfold readSized
  split
  · exact .fail fun d => hB.own d.tracee id
  · exact .bind (readMemory_confined hB a) fun _ => .bind (log_confined hB _ _ _) fun _ => .pure _

/-! ### Patching -/

theorem enableAt_confined (h : ¬ d.breakpoints.isEnabledAt a) :
    B.debuggee.ConfinesAt d (enableAt a) := by
  refine .inspect_bind ?_
  rcases hb : d.breakpoints.get? a with _ | b
  · exact Confines.pure () d
  · refine requestPut_confined (Breakpoint.enable_confined hB ?_) d
    simpa [BreakpointTable.isEnabledAt, hb] using h

theorem disableAt_confined (h : d.breakpoints.isEnabledAt a) :
    B.debuggee.ConfinesAt d (disableAt a) := by
  refine .inspect_bind ?_
  rcases hb : d.breakpoints.get? a with _ | b
  · exact Confines.pure () d
  · refine requestPut_confined (Breakpoint.disable_confined hB ?_) d
    simpa [BreakpointTable.isEnabledAt, hb] using h

theorem insertBreakpoint_confined (a : Addr) : B.debuggee.Confines (insertBreakpoint a) := by
  refine fun d => .inspect_bind ?_
  rcases hb : d.breakpoints.get? a with _ | b
  · have hadd : B.debuggee.Confines (requestPut (Breakpoint.enable ⟨a, none⟩)) :=
      requestPut_confined (Breakpoint.enable_confined hB (by simp [Breakpoint.isEnabled]))
    have hfound : B.debuggee.Confines (do
        requestPut (Breakpoint.enable ⟨a, none⟩)
        return true) := .bind hadd fun _ => .pure true
    rw [requestPut, bind_assoc] at hfound
    exact hfound d
  have hlog : B.debuggee.Confines (do
      log .debug .breakpoint ("breakpoint at " ++ a.padded ++ " already exists")
      return false) := .bind (log_confined hB _ _ _) fun _ => .pure _
  dsimp only
  split_ifs with hen
  · refine (enableAt_confined hB ?_).bind fun _ d₁ _ => hlog d₁
    simpa [BreakpointTable.isEnabledAt, hb] using hen
  · exact hlog d

theorem setBreakpoint_confined (a : Addr) : B.debuggee.Confines (setBreakpoint a) := by
  refine .bind (ensureAlive_confined hB) fun _ => ?_
  refine .bind (insertBreakpoint_confined hB a) fun added => ?_
  cases added
  · exact .pure _
  · exact .bind (log_confined hB _ _ _) fun _ => .pure _

theorem removeBreakpoint_confined (a : Addr) : B.debuggee.Confines (removeBreakpoint a) := by
  refine .bind (ensureAlive_confined hB) fun _ d => .inspect_bind ?_
  have herase : B.debuggee.Confines
      (modify fun d : Debuggee τ => { d with breakpoints := d.breakpoints.erase a }) :=
    modify_confined fun _ => rfl
  rcases hb : d.breakpoints.get? a with _ | b
  · exact log_confined hB _ _ _ d
  dsimp only
  split_ifs with hen
  · refine (disableAt_confined hB ?_).bind fun _ d₁ _ => herase d₁
    simpa [BreakpointTable.isEnabledAt, hb] using hen
  · exact herase d

theorem disableEach_confined : ∀ addrs, B.debuggee.Confines (disableEach addrs)
  | [] => .pure ()
  | a :: addrs => by
    refine fun d => .inspect_bind ?_
    split_ifs with hen
    · exact (disableAt_confined hB hen).bind fun _ d₁ _ => disableEach_confined addrs d₁
    · exact disableEach_confined addrs d

/-! ### Running -/

theorem classifyTrap_confined (code : Int) : B.debuggee.Confines (classifyTrap code) := by
  unfold classifyTrap
  split_ifs
  · refine .bind (readRegister_confined hB _) fun here => .bind (.inspect _) fun known => ?_
    cases known
    · exact .bind (log_confined hB _ _ _) fun _ => .pure _
    · exact .bind (writeRegister_confined hB _ _) fun _ => .pure _
  · exact .pure _
  · exact .bind (log_confined hB _ _ _) fun _ => .pure _

theorem classify_confined (report : Report) : B.debuggee.Confines (classify report) := by
  cases report with
  | signal signal code =>
    refine .bind (modify_confined fun _ => rfl) fun _ => ?_
    split_ifs
    · exact classifyTrap_confined hB code
    · exact .pure _
    · exact .pure _
  | _ => exact .bind (modify_confined fun _ => rfl) fun _ => .pure _

theorem runAndWait_confined {act : Action τ Unit} (h : B.Confines act) :
    B.debuggee.Confines (runAndWait act) :=
  .bind (request_confined h) fun _ => .bind (modify_confined fun _ => rfl) fun _ =>
    .bind (request_confined hB.wait) fun report =>
      .bind (classify_confined hB report) fun _ => .bind (log_confined hB _ _ _) fun _ => .pure _

theorem singleStep_confined : B.debuggee.Confines singleStep := by
  rw [singleStep_eq]
  exact .bind (ensureAlive_confined hB) fun _ => runAndWait_confined hB hB.step

/-- A breakpoint is disabled where it was found enabled, and enabled again where
    the step over it has left it disabled or the table empty. -/
theorem stepOverBreakpoint_confined : B.debuggee.Confines stepOverBreakpoint := by
  refine .bind (readRegister_confined hB _) fun here d => .inspect_bind ?_
  split_ifs with hen
  swap
  · exact Confines.pure none d
  refine (log_confined hB _ _ _ d).bind fun _ d₁ hlog => ?_
  obtain ⟨-, rfl⟩ := gives_log.1 hlog
  refine (disableAt_confined hB hen).bind fun _ d₂ hdisable => ?_
  refine (singleStep_confined hB d₂).attempt.bind fun result d₃ hattempt => .inspect_bind ?_
  obtain ⟨_, hstep, ⟨⟩⟩ := gives_attempt.1 hattempt
  have hend {d'} (hlasts : ∀ e, B.debuggee.fails e d₃ → B.debuggee.fails e d') :
      B.debuggee.ConfinesAt d' (do return some (← ofExcept result)) := by
    refine (ConfinesAt.ofExcept fun e he => hlasts e ?_).bind fun event d' _ =>
      Confines.pure (some event) d'
    exact (singleStep_confined hB d₂).fails_of_gives (he ▸ hstep)
  split_ifs
  · have hfree : ¬ d₃.breakpoints.isEnabledAt here := fun ha =>
      disableAt_disables hdisable (singleStep_enabled hstep ha)
    have henable := enableAt_confined hB hfree
    exact henable.bind fun _ d₄ hg => hend fun e he => henable.lasts_of_gives hg he
  · exact hend fun _ => id

theorem stepInstruction_confined : B.debuggee.Confines stepInstruction :=
  .bind (stepOverBreakpoint_confined hB) fun
    | some _ => .pure _
    | none => singleStep_confined hB

theorem continueExecution_confined : B.debuggee.Confines continueExecution := by
  have hrun := runAndWait_confined hB hB.resume
  refine .bind (ensureAlive_confined hB) fun _ => ?_
  refine .bind (stepOverBreakpoint_confined hB) fun event => ?_
  split
  · exact hrun
  · exact hrun
  · exact .pure _

theorem kill_confined : B.debuggee.Confines kill :=
  .bind (requestAlive_confined hB hB.kill) fun _ => .bind (log_confined hB _ _ _) fun _ =>
    modify_confined fun _ => rfl

theorem detachIn_confined (order : List Addr) : B.debuggee.Confines (detachIn order) :=
  .bind (ensureAlive_confined hB) fun _ => .bind (disableEach_confined hB order) fun _ =>
    .bind (request_confined hB.detach) fun _ => modify_confined fun _ => rfl

end

end Debuggee

/-! ## The session -/

namespace Session

omit [Tracee τ] in
theorem onDebuggee_confined {act : Action (Debuggee τ) α} (h : B.debuggee.Confines act) :
    B.session.Confines (onDebuggee act) := .within (fun _ _ => rfl) h

omit [Tracee τ] in
theorem ask_confined {query : Resolver → Action (Session τ) α}
    (h : ∀ r, B.session.Confines (query r)) : B.session.Confines (ask query) := by
  intro s
  obtain ⟨herror, htells, hlasts⟩ := h s.resolver s
  exact ⟨herror, htells, hlasts⟩

section
variable (hB : B.Respected)
include hB

theorem log_confined (level : LogLevel) (source : LogSource) (message : String) :
    B.session.Confines (log level source message) := .tell (hB.log _)

/-! ### Queries -/

theorem found_confined (what : String) (o : Option α) :
    B.session.Confines (Resolver.found what o) := by
  cases o
  · exact .fail fun s => hB.own s.debuggee.tracee id
  · exact .pure _

theorem lineEntry_confined (r : Resolver) (a : Addr) : B.session.Confines (r.lineEntry a) :=
  .bind (found_confined hB _ _) fun _ => .bind (log_confined hB _ _ _) fun _ => .pure _

theorem bodyOf_confined (r : Resolver) (name : String) :
    ∀ candidates, B.session.Confines (r.bodyOf name candidates)
  | [] => .fail fun s => hB.own s.debuggee.tracee id
  | (table, f) :: candidates => by
    unfold Resolver.bodyOf
    dsimp only
    split
    · exact .bind (log_confined hB _ _ _) fun _ => bodyOf_confined r name candidates
    · exact .bind (log_confined hB _ _ _) fun _ => .pure _

theorem addressForLine_confined (r : Resolver) (file : String) (line : UInt64) :
    B.session.Confines (r.addressForLine file line) :=
  .bind (found_confined hB _ _) fun _ => .bind (log_confined hB _ _ _) fun _ => .pure _

theorem functionContaining_confined (r : Resolver) (a : Addr) :
    B.session.Confines (r.functionContaining a) :=
  .bind (log_confined hB _ _ _) fun _ => found_confined hB _ _

theorem locate_confined (place : Place) : B.session.Confines (locate place) := by
  cases place with
  | address a => exact .pure a
  | line file line =>
    show B.session.Confines (ask fun r => r.addressForLine file line)
    exact ask_confined fun r => addressForLine_confined hB r file line
  | function name =>
    show B.session.Confines (ask fun r => r.bodyOf name (r.functionsNamed name))
    exact ask_confined fun r => bodyOf_confined hB r name _

theorem currentLine_confined : B.session.Confines currentLine := by
  refine .bind (onDebuggee_confined (Debuggee.readRegister_confined hB _)) fun here => ?_
  refine .bind (.attempt (ask_confined fun r => lineEntry_confined hB r _)) fun entry => ?_
  cases entry <;> exact .pure _

theorem presentLocation_confined : B.session.Confines presentLocation := by
  refine .bind (.inspect _) fun alive => ?_
  cases alive
  · exact .pure _
  refine .bind (currentLine_confined hB) fun entry => ?_
  cases entry
  · exact log_confined hB _ _ _
  · exact .bind (.inspect _) fun _ => .tell (hB.window _)

theorem readMemory_confined (a : Addr) (size : Option UInt64) :
    B.session.Confines (readMemory a size) := by
  cases size
  · exact onDebuggee_confined (Debuggee.readMemory_confined hB a)
  · exact onDebuggee_confined (Debuggee.readSized_confined hB a _)

theorem returnAddress_confined : B.session.Confines returnAddress := by
  refine .bind (onDebuggee_confined (Debuggee.readDwarfRegister_confined hB _)) fun frame => ?_
  split
  · exact .fail fun s => hB.own s.debuggee.tracee id
  · refine .bind (onDebuggee_confined (Debuggee.readSized_confined hB _ _)) fun a => ?_
    exact .bind (log_confined hB _ _ _) fun _ => .pure _

theorem maps_confined : B.session.Confines maps :=
  onDebuggee_confined (Debuggee.requestAlive_confined hB hB.memoryMap)

theorem info_confined : B.session.Confines info := by
  have hplace : B.session.Confines describePlace := by
    refine .bind (onDebuggee_confined (Debuggee.readRegister_confined hB _)) fun here => ?_
    refine .bind (currentLine_confined hB) fun entry => ?_
    cases entry
    · refine .bind (maps_confined hB) fun map => ?_
      split <;> exact .pure _
    · exact .pure _
  refine .bind (.inspect _) fun s => ?_
  dsimp only
  split_ifs
  · exact .bind hplace fun _ => .bind (.pure _) fun _ => .pure _
  · exact .bind (.pure _) fun _ => .pure _

/-! ### Moving -/

theorem moved_confined {act : Action (Debuggee τ) StopEvent} (h : B.debuggee.Confines act) :
    B.session.Confines (do
      let event ← onDebuggee act
      presentLocation
      return event) :=
  .bind (onDebuggee_confined h) fun _ => .bind (presentLocation_confined hB) fun _ => .pure _

theorem stepFrom_confined (start : Option SourceLocation) :
    ∀ limit, B.session.Confines (stepFrom start limit)
  | 0 => .bind (presentLocation_confined hB) fun _ => .pure _
  | limit + 1 => by
    refine .bind (onDebuggee_confined (Debuggee.stepInstruction_confined hB)) fun event => ?_
    split_ifs
    · exact .bind (presentLocation_confined hB) fun _ => .pure _
    refine .bind (currentLine_confined hB) fun entry => ?_
    cases entry
    · exact stepFrom_confined start limit
    · dsimp only
      split_ifs
      · exact stepFrom_confined start limit
      · exact .bind (presentLocation_confined hB) fun _ => .pure _

theorem addTemporary_confined : ∀ stops added, B.session.Confines (addTemporary added stops)
  | [], _ => .pure _
  | a :: stops, added => by
    refine .bind (.inspect _) fun there => ?_
    cases there
    · have hset := onDebuggee_confined (Debuggee.setBreakpoint_confined hB a)
      refine .bind (.attempt hset) fun r => ?_
      rcases r with e | _ | _
      · exact .pure _
      · exact addTemporary_confined stops _
      · exact addTemporary_confined stops _
    · exact addTemporary_confined stops _

/-- What adding temporary breakpoints has met is kept for later. -/
theorem addTemporary_fails {stops added added' : List Addr} {e : Failure} {s s' : Session τ}
    (h : (addTemporary added stops).Gives s (.ok (added', .error e)) s') :
    B.session.fails e s' := by
  induction stops generalizing added s with
  | nil => cases (gives_pure.1 h).1
  | cons a stops ih =>
    rw [addTemporary, gives_inspect_bind] at h
    split_ifs at h
    · exact ih h
    obtain ⟨r₁, s₁, hset, hthen⟩ := gives_attempt_bind.1 h
    rcases r₁ with e' | _ | _
    · obtain ⟨⟨⟩, rfl⟩ := gives_pure.1 hthen
      exact (onDebuggee_confined (Debuggee.setBreakpoint_confined hB a) s).fails_of_gives hset
    · exact ih hthen
    · exact ih hthen

theorem removeTemporary_confined (added : List Addr) :
    B.session.Confines (removeTemporary added) := by
  have heach : ∀ addrs, B.session.Confines (removeEach addrs : Action (Session τ) Unit) := by
    intro addrs
    induction addrs with
    | nil => exact .pure _
    | cons a addrs ih =>
      exact .bind (onDebuggee_confined (Debuggee.removeBreakpoint_confined hB a)) fun _ => ih
  refine .bind (.inspect _) fun alive => ?_
  cases alive
  · exact .pure _
  · exact .bind (heach added) fun _ => log_confined hB _ _ _

/-- A failure that was met on the way comes out after the temporary breakpoints
    are removed. -/
theorem runTo_confined (stops : List Addr) : B.session.Confines (runTo stops) := by
  rw [runTo_eq]
  intro s
  refine (addTemporary_confined hB stops [] s).bind fun (added, ready) s₁ hadd => ?_
  have hrunReady : B.session.ConfinesAt s₁ (runReady ready) ∧ ∀ result s₂,
      (runReady ready).Gives s₁ (.ok result) s₂ →
      ∀ e, result = .error e → B.session.fails e s₂ := by
    rcases ready with e | _
    · refine ⟨Confines.pure _ s₁, fun result s₂ hrun e' he => ?_⟩
      obtain ⟨⟨⟩, rfl⟩ := gives_pure.1 hrun
      obtain rfl := Except.error.inj he
      exact addTemporary_fails hB hadd
    · have hcont := onDebuggee_confined (Debuggee.continueExecution_confined hB) s₁
      refine ⟨hcont.attempt, fun result s₂ hrun e' he => ?_⟩
      obtain ⟨_, hgives, ⟨⟩⟩ := gives_attempt.1 hrun
      exact hcont.fails_of_gives (he ▸ hgives)
  obtain ⟨hready, hfailed⟩ := hrunReady
  refine hready.bind fun result s₂ hrun => ?_
  have hremove := removeTemporary_confined hB added s₂
  refine hremove.attempt.bind fun removed s₃ hattempt => ?_
  obtain ⟨_, hremoved, ⟨⟩⟩ := gives_attempt.1 hattempt
  refine (ConfinesAt.ofExcept fun e he => ?_).bind fun event s₄ hevent => ?_
  · exact hremove.lasts_of_gives hremoved (hfailed result s₂ hrun e he)
  obtain ⟨-, rfl⟩ := gives_ofExcept.1 hevent
  refine (ConfinesAt.ofExcept fun e he => ?_).bind fun _ s₅ _ => ?_
  · exact hremove.fails_of_gives (he ▸ hremoved)
  exact Confines.bind (presentLocation_confined hB) (fun _ => .pure _) s₅

theorem nextStops_confined : B.session.Confines nextStops := by
  refine .bind (onDebuggee_confined (Debuggee.readRegister_confined hB _)) fun here => ?_
  refine .bind (.inspect _) fun static => ?_
  refine .bind (ask_confined fun r => functionContaining_confined hB r _) fun f => ?_
  refine .bind (ask_confined fun r => lineEntry_confined hB r _) fun start => ?_
  refine .bind (ask_confined fun r => found_confined hB _ _) fun rows => ?_
  refine .bind (.inspect _) fun targets => .bind (returnAddress_confined hB) fun a => ?_
  exact .bind (log_confined hB _ _ _) fun _ => .pure _

theorem callerStops_confined : B.session.Confines callerStops :=
  .bind (returnAddress_confined hB) fun _ => .bind (log_confined hB _ _ _) fun _ => .pure _

/-! ### Interactions -/

/-- **A command stays within the bounds.** -/
theorem execute_confined (c : Command) : B.session.Confines (execute c) := by
  refine .bind (log_confined hB _ _ _) fun _ => ?_
  cases c with
  | «continue» =>
    exact .bind (moved_confined hB (Debuggee.continueExecution_confined hB)) fun _ => .pure _
  | setBreakpoint place =>
    refine .bind (.bind (locate_confined hB place) fun a => ?_) fun _ => .pure _
    exact .bind (onDebuggee_confined (Debuggee.setBreakpoint_confined hB a)) fun _ => .pure _
  | deleteBreakpoint a =>
    exact .bind (onDebuggee_confined (Debuggee.removeBreakpoint_confined hB a)) fun _ => .pure _
  | dumpRegisters =>
    exact .bind (onDebuggee_confined (Debuggee.readRegisters_confined hB _)) fun _ => .pure _
  | readRegister reg =>
    exact .bind (onDebuggee_confined (Debuggee.readRegister_confined hB reg)) fun _ => .pure _
  | writeRegister reg value =>
    have hwrite := onDebuggee_confined (Debuggee.writeRegister_confined hB reg value)
    refine .bind (.bind hwrite fun _ => ?_) fun _ => .pure _
    split_ifs
    · exact presentLocation_confined hB
    · exact .pure _
  | readMemory a size => exact .bind (readMemory_confined hB a size) fun _ => .pure _
  | writeMemory a value =>
    exact .bind (onDebuggee_confined (Debuggee.writeMemory_confined hB a value)) fun _ => .pure _
  | stepIn =>
    refine .bind (.bind (currentLine_confined hB) fun _ => ?_) fun _ => .pure _
    exact .bind (log_confined hB _ _ _) fun _ => stepFrom_confined hB _ _
  | stepInstruction =>
    exact .bind (moved_confined hB (Debuggee.stepInstruction_confined hB)) fun _ => .pure _
  | stepOver =>
    rw [stepOver_eq]
    exact .bind (.bind (nextStops_confined hB) (runTo_confined hB)) fun _ => .pure _
  | stepOut =>
    rw [stepOut_eq]
    exact .bind (.bind (callerStops_confined hB) (runTo_confined hB)) fun _ => .pure _
  | findSymbols name => exact .bind (.inspect _) fun _ => .pure _
  | info => exact .bind (info_confined hB) fun _ => .pure _
  | maps => exact .bind (maps_confined hB) fun _ => .pure _
  | kill => exact .bind (onDebuggee_confined (Debuggee.kill_confined hB)) fun _ => .pure _
  | quit => exact .pure _

theorem cleanupIn_confined (order : List Addr) : B.session.Confines (cleanupIn order) := by
  refine .bind (.inspect _) fun alive => ?_
  cases alive
  · exact .pure _
  refine .bind (.inspect _) fun policy => ?_
  cases policy
  · exact onDebuggee_confined (Debuggee.kill_confined hB)
  · exact .bind (log_confined hB _ _ _) fun _ =>
      onDebuggee_confined (Debuggee.detachIn_confined hB order)

theorem cleanup_confined : B.session.Confines cleanup :=
  .bind (.inspect _) fun order => cleanupIn_confined hB order

/-- **Whatever is done stays within the bounds.** -/
theorem perform_confined : ∀ i, B.session.Confines (perform i)
  | .command c => execute_confined hB c
  | .cleanup => .bind (cleanup_confined hB) fun _ => .pure _
  | .detach order =>
    .bind (onDebuggee_confined (Debuggee.detachIn_confined hB order)) fun _ => .pure _

/-- What may be met once may be met after any interactions. -/
theorem after_lasts (s : Session τ) (is : List Interaction) {e : Failure}
    (he : B.session.fails e s) : B.session.fails e (s.after is) := by
  induction is generalizing s with
  | nil => exact he
  | cons i is ih => exact ih _ ((perform_confined hB i s).lasts he)

/-- **Every failure of a session is within the bounds.** -/
theorem exchange_fails {s : Session τ} {is : List Interaction} {x : Exchange τ}
    (hx : x ∈ s.exchanges is) {e : Failure} (he : x.result = .error e) :
    B.session.fails e (s.after is) := by
  induction is generalizing s with
  | nil => cases hx
  | cons i is ih =>
    obtain rfl | hx := List.mem_cons.1 hx
    · exact after_lasts hB _ is ((perform_confined hB i s).error he)
    · exact ih hx

end

end Session

end SourceDebugger
