/-
  The steps from which the operations of a debuggee are made.

  * `gives_request`, `gives_requestAlive`: a request changes the tracee alone,
    and needs a debuggee that is alive where it is guarded;
  * `gives_readSized`: a part of a word is read with the whole of it;
  * `gives_requestPut`: a breakpoint is put into the table as patching it leaves
    it;
  * `waitForStop_waited`: after waiting the debuggee is stopped with the same
    breakpoints or gone without any, unless waiting itself fails;
  * `KeptByPatching`: what is kept where breakpoints are patched, added and
    forgotten is kept by the operations on breakpoints;
  * `stepOverBreakpoint_alive`: only a debuggee that is alive runs on;
  * `keeps_continueExecution`: what its parts keep is kept by running on.
-/
import SourceDebugger.Proofs.Breakpoint
import SourceDebugger.Debuggee

namespace SourceDebugger.Debuggee

open SourceDebugger.Action

variable {τ α : Type} {d d' : Debuggee τ}

/-! ## Requests -/

theorem gives_request {act : Action τ α} {r : Except Failure α} :
    (request act).Gives d r d' ↔ ∃ t, act.Gives d.tracee r t ∧ d' = { d with tracee := t } :=
  gives_within

theorem gives_ensureAlive {r : Except Failure Unit} :
    (ensureAlive : Action (Debuggee τ) Unit).Gives d r d' ↔
      r = (if d.isAlive then .ok () else .error .processExited) ∧ d' = d := by
  simp only [Gives, ensureAlive]
  constructor <;> rintro ⟨rfl, rfl⟩ <;> exact ⟨rfl, rfl⟩

/-- What is guarded is done to a debuggee that is alive, and refused
    otherwise. -/
theorem gives_ensureAlive_bind {next : Unit → Action (Debuggee τ) α} {r : Except Failure α} :
    (ensureAlive >>= next).Gives d r d' ↔
      if d.isAlive then (next ()).Gives d r d' else r = .error .processExited ∧ d' = d := by
  simp only [gives_bind, gives_ensureAlive]
  by_cases h : d.isAlive
  · simp only [h, if_true, reduceCtorEq, false_and, exists_false, false_or, true_and]
    exact ⟨fun ⟨_, _, h₁, h₂⟩ => h₁ ▸ h₂, fun h₂ => ⟨(), d, rfl, h₂⟩⟩
  · simp [h, and_comm]

theorem gives_requestAlive {act : Action τ α} {r : Except Failure α} :
    (requestAlive act).Gives d r d' ↔
      if d.isAlive then (request act).Gives d r d' else r = .error .processExited ∧ d' = d :=
  gives_ensureAlive_bind

theorem gives_readSized [Tracee τ] {a : Addr} {size : UInt64} {w : Word} :
    (readSized a size).Gives d (.ok w) d' ↔ ∃ mask whole, sizeMask? size = some mask ∧
      (readMemory a).Gives d (.ok whole) d' ∧ w = whole &&& mask := by
  rw [readSized]
  cases sizeMask? size with
  | none => simp
  | some mask =>
    constructor
    · intro h
      obtain ⟨whole, _, hread, hend⟩ := gives_bind_ok.1 h
      rw [gives_log_bind, gives_pure] at hend
      obtain ⟨⟨⟩, rfl⟩ := hend
      exact ⟨mask, whole, rfl, hread, rfl⟩
    · rintro ⟨_, whole, ⟨⟩, hread, rfl⟩
      exact hread.bind (gives_log_bind.2 (gives_pure.2 ⟨rfl, rfl⟩))

theorem gives_markExited {r : Except Failure Unit} :
    (markExited : Action (Debuggee τ) Unit).Gives d r d' ↔
      r = .ok () ∧ d' = { d with state := .exited, breakpoints := .empty } := gives_modify

theorem isAlive_iff : d.isAlive ↔ d.state ≠ .exited := by simp [isAlive]

theorem isAlive_of_state (h : d'.state = d.state) (ha : d.isAlive) : d'.isAlive :=
  isAlive_iff.2 (h ▸ isAlive_iff.1 ha)

/-- Puts a breakpoint into the table as `act` leaves it. -/
def requestPut (act : Action τ Breakpoint) : Action (Debuggee τ) Unit := do
  let b ← request act
  modify fun d => { d with breakpoints := d.breakpoints.put b }

/-- A breakpoint is put into the table as `act` leaves it, and not at all if
    `act` fails. -/
theorem gives_requestPut {act : Action τ Breakpoint} {r : Except Failure Unit} :
    (requestPut act).Gives d r d' ↔
      (∃ e t, act.Gives d.tracee (.error e) t ∧ r = .error e ∧ d' = { d with tracee := t }) ∨
        ∃ b t, act.Gives d.tracee (.ok b) t ∧ r = .ok () ∧
          d' = { d with tracee := t, breakpoints := d.breakpoints.put b } := by
  simp only [requestPut, gives_bind, gives_request, gives_modify]
  constructor
  · rintro (⟨e, ⟨t, h, rfl⟩, rfl⟩ | ⟨b, _, ⟨t, h, rfl⟩, rfl, rfl⟩)
    · exact Or.inl ⟨e, t, h, rfl, rfl⟩
    · exact Or.inr ⟨b, t, h, rfl, rfl⟩
  · rintro (⟨e, t, h, rfl, rfl⟩ | ⟨b, t, h, rfl, rfl⟩)
    · exact Or.inl ⟨e, ⟨t, h, rfl⟩, rfl⟩
    · exact Or.inr ⟨b, _, ⟨t, h, rfl⟩, rfl, rfl⟩

theorem request_keeps {act : Action τ α} {T : τ → τ → Prop} (h : act.Keeps T) :
    (request act).Keeps (InvImage T Debuggee.tracee) :=
  Keeps.within h fun _ _ ht => ht

theorem alive_of_requestAlive {act : Action τ α} {a : α}
    (h : (requestAlive act).Gives d (.ok a) d') : d.isAlive := by
  rw [gives_requestAlive] at h
  split_ifs at h with hd
  · exact hd
  · cases h.1

theorem requestAlive_keeps {act : Action τ α} {R : Debuggee τ → Debuggee τ → Prop}
    [IsPreorder _ R] (h : (request act).Keeps R) : (requestAlive act).Keeps R :=
  .bind (fun d => refl_of R d) fun _ => h

variable [Tracee τ]

/-! ## Waiting -/

/-- What waiting makes of a debuggee. -/
inductive Waited (d : Debuggee τ) (r : Except Failure StopEvent) (d' : Debuggee τ) : Prop where
  /-- The process is gone. -/
  | gone (e : StopEvent) (result : r = .ok e) (terminal : e.isTerminal) (state : d'.state = .exited)
      (breakpoints : d'.breakpoints = .empty)
  /-- The process is stopped. -/
  | stopped (result : ∀ e, r = .ok e → ¬ e.isTerminal) (state : d'.state = .stopped)
      (breakpoints : d'.breakpoints = d.breakpoints)
  /-- The process could not be waited for. -/
  | failed (e : Failure) (result : r = .error e) (state : d'.state = d.state)
      (breakpoints : d'.breakpoints = d.breakpoints)

theorem gives_pc {r : Except Failure Addr} (h : (pc : Action (Debuggee τ) Addr).Gives d r d') :
    d'.state = d.state ∧ d'.breakpoints = d.breakpoints := by
  rw [pc, readRegister, gives_requestAlive] at h
  split_ifs at h
  · obtain ⟨t, -, rfl⟩ := gives_request.1 h
    exact ⟨rfl, rfl⟩
  · obtain ⟨-, rfl⟩ := h
    exact ⟨rfl, rfl⟩

theorem gives_setPc {a : Addr} {r : Except Failure Unit}
    (h : (setPc a : Action (Debuggee τ) Unit).Gives d r d') :
    d'.state = d.state ∧ d'.breakpoints = d.breakpoints := by
  rw [setPc, writeRegister, gives_requestAlive] at h
  split_ifs at h
  · obtain ⟨t, -, rfl⟩ := gives_request.1 h
    exact ⟨rfl, rfl⟩
  · obtain ⟨-, rfl⟩ := h
    exact ⟨rfl, rfl⟩

/-- A trap of a stopped process leaves state and breakpoints alone. -/
theorem gives_classifyTrap {code : Int} {r : Except Failure StopEvent}
    (h : (classifyTrap code : Action (Debuggee τ) StopEvent).Gives d r d') :
    (∀ e, r = .ok e → ¬ e.isTerminal) ∧ d'.state = d.state ∧ d'.breakpoints = d.breakpoints := by
  unfold classifyTrap at h
  split_ifs at h
  · rcases gives_bind.1 h with ⟨e, hpc, rfl⟩ | ⟨here, d₁, hpc, h⟩
    · exact ⟨by simp, gives_pc hpc⟩
    obtain ⟨hs, hb⟩ := gives_pc hpc
    rw [gives_inspect_bind] at h
    split_ifs at h
    · rcases gives_bind.1 h with ⟨e, hset, rfl⟩ | ⟨_, d₂, hset, h⟩
      · obtain ⟨hs', hb'⟩ := gives_setPc hset
        exact ⟨by simp, hs'.trans hs, hb'.trans hb⟩
      · obtain ⟨hs', hb'⟩ := gives_setPc hset
        obtain ⟨rfl, rfl⟩ := gives_pure.1 h
        exact ⟨by simp [StopEvent.isTerminal], hs'.trans hs, hb'.trans hb⟩
    · rw [gives_log_bind, gives_pure] at h
      obtain ⟨rfl, rfl⟩ := h
      exact ⟨by simp [StopEvent.isTerminal], hs, hb⟩
  · obtain ⟨rfl, rfl⟩ := gives_pure.1 h
    exact ⟨by simp [StopEvent.isTerminal], rfl, rfl⟩
  · rw [gives_log_bind, gives_pure] at h
    obtain ⟨rfl, rfl⟩ := h
    exact ⟨by simp [StopEvent.isTerminal], rfl, rfl⟩

theorem gives_classify {report : Report} {r : Except Failure StopEvent}
    (h : (classify report : Action (Debuggee τ) StopEvent).Gives d r d') : Waited d r d' := by
  cases report with
  | exited code =>
    rw [classify, markExited, gives_modify_bind, gives_pure] at h
    obtain ⟨rfl, rfl⟩ := h
    exact .gone _ rfl rfl rfl rfl
  | killed signal =>
    rw [classify, markExited, gives_modify_bind, gives_pure] at h
    obtain ⟨rfl, rfl⟩ := h
    exact .gone _ rfl rfl rfl rfl
  | signal signal code =>
    rw [classify, setState, gives_modify_bind] at h
    split_ifs at h
    · obtain ⟨he, hs, hb⟩ := gives_classifyTrap h
      exact .stopped he hs hb
    all_goals
      obtain ⟨rfl, rfl⟩ := gives_pure.1 h
      exact .stopped (by simp [StopEvent.isTerminal]) rfl rfl

theorem waitForStop_eq : (waitForStop : Action (Debuggee τ) StopEvent) = (do
    let event ← (do classify (← request Tracee.wait))
    log .debug .debuggee ("debuggee stopped: " ++ event.message)
    return event) := by
  rw [bind_assoc]
  rfl

/-- The report that is waited for is classified. -/
theorem gives_waitForStop {r : Except Failure StopEvent} :
    (waitForStop : Action (Debuggee τ) StopEvent).Gives d r d' ↔
      (request Tracee.wait >>= classify : Action (Debuggee τ) StopEvent).Gives d r d' := by
  rw [waitForStop_eq, gives_then_log]

theorem waitForStop_waited {r : Except Failure StopEvent}
    (h : (waitForStop : Action (Debuggee τ) StopEvent).Gives d r d') : Waited d r d' := by
  rw [gives_waitForStop] at h
  rcases gives_bind.1 h with ⟨e, hw, rfl⟩ | ⟨report, d₁, hw, hc⟩
  · obtain ⟨t, -, rfl⟩ := gives_request.1 hw
    exact .failed e rfl rfl rfl
  obtain ⟨t, -, rfl⟩ := gives_request.1 hw
  cases gives_classify hc with
  | gone e h₁ h₂ h₃ h₄ => exact .gone e h₁ h₂ h₃ h₄
  | stopped h₁ h₂ h₃ => exact .stopped h₁ h₂ h₃
  | failed e h₁ h₂ h₃ => exact .failed e h₁ h₂ h₃

/-! ## Running -/

/-- A request that lets the process run, and waiting for it. -/
def runAndWait (act : Action τ Unit) : Action (Debuggee τ) StopEvent := do
  request act
  setState .running
  waitForStop

/-- What running makes of a debuggee that is alive: it is still alive with the
    same breakpoints, or gone without any. -/
theorem gives_runAndWait {act : Action τ Unit} {r : Except Failure StopEvent}
    (h : (runAndWait act).Gives d r d') (hd : d.isAlive) :
    (d'.isAlive ∧ d'.breakpoints = d.breakpoints ∧ ∀ e, r = .ok e → ¬ e.isTerminal) ∨
      (d'.state = .exited ∧ d'.breakpoints = .empty ∧ ∃ e, r = .ok e ∧ e.isTerminal) := by
  rcases gives_bind.1 h with ⟨e, hreq, rfl⟩ | ⟨_, d₁, hreq, hw⟩
  · obtain ⟨t, -, rfl⟩ := gives_request.1 hreq
    exact Or.inl ⟨hd, rfl, by simp⟩
  obtain ⟨t, -, rfl⟩ := gives_request.1 hreq
  rw [setState, gives_modify_bind] at hw
  cases waitForStop_waited hw with
  | gone e hr ht hs hb => exact Or.inr ⟨hs, hb, e, hr, ht⟩
  | stopped hr hs hb => exact Or.inl ⟨isAlive_iff.2 (by simp [hs]), hb, hr⟩
  | failed e hr hs hb => exact Or.inl ⟨isAlive_iff.2 (by simp [hs]), hb, by simp [hr]⟩

section
variable {T : τ → τ → Prop} [IsPreorder τ T] (hwait : (Tracee.wait : Action τ Report).Keeps T)
  (hread : (Tracee.readRegister .rip : Action τ UInt64).Keeps T)
  (hwrite : ∀ a, (Tracee.writeRegister .rip a : Action τ Unit).Keeps T)
include hwait hread hwrite

/-- What waiting, reading and writing the program counter keep of a tracee is
    kept by waiting for a stop. -/
theorem waitForStop_keeps :
    (waitForStop : Action (Debuggee τ) StopEvent).Keeps (InvImage T Debuggee.tracee) := by
  refine .of_gives fun d r d' h => Keeps.gives ?_ (gives_waitForStop.1 h)
  refine .bind (request_keeps hwait) fun report => ?_
  have htrap : ∀ code, (classifyTrap code : Action (Debuggee τ) StopEvent).Keeps
      (InvImage T Debuggee.tracee) := by
    intro code
    unfold classifyTrap
    split_ifs
    · refine .bind (requestAlive_keeps (request_keeps hread)) fun here => ?_
      refine .bind (.inspect _) fun known => ?_
      cases known
      · exact .bind (.log _ _ _) fun _ => .pure _
      · exact .bind (requestAlive_keeps (request_keeps (hwrite _))) fun _ => .pure _
    · exact .pure _
    · exact .bind (.log _ _ _) fun _ => .pure _
  cases report with
  | signal signal code =>
    refine .bind (fun d => refl_of T d.tracee) fun _ => ?_
    split_ifs
    · exact htrap code
    · exact .pure _
    · exact .pure _
  | _ => exact .bind (fun d => refl_of T d.tracee) fun _ => .pure _

theorem runAndWait_keeps {act : Action τ Unit} (hact : act.Keeps T) :
    (runAndWait act : Action (Debuggee τ) StopEvent).Keeps (InvImage T Debuggee.tracee) :=
  .bind (request_keeps hact) fun _ =>
    .bind (fun d => refl_of T d.tracee) fun _ => waitForStop_keeps hwait hread hwrite

end

theorem singleStep_eq : (singleStep : Action (Debuggee τ) StopEvent) =
    ensureAlive >>= fun _ => runAndWait Tracee.step := by
  rw [singleStep, requestAlive, bind_assoc, runAndWait]

/-- A step is made of a debuggee that is alive. -/
theorem gives_singleStep {r : Except Failure StopEvent} :
    (singleStep : Action (Debuggee τ) StopEvent).Gives d r d' ↔
      if d.isAlive then (runAndWait Tracee.step).Gives d r d'
      else r = .error .processExited ∧ d' = d := by
  rw [singleStep_eq, gives_ensureAlive_bind]

/-! ## Patching -/

/-- A breakpoint is inserted for a debuggee that is alive. -/
theorem setBreakpoint_inserts {a : Addr} {r : Except Failure Bool} :
    (setBreakpoint a : Action (Debuggee τ) Bool).Gives d r d' ↔
      if d.isAlive then (insertBreakpoint a).Gives d r d'
      else r = .error .processExited ∧ d' = d := by
  rw [setBreakpoint, gives_ensureAlive_bind]
  split_ifs
  swap
  · exact Iff.rfl
  refine ⟨fun h => ?_, fun h => ?_⟩
  · obtain ⟨e, hadd, rfl⟩ | ⟨added, d₁, hadd, h⟩ := gives_bind.1 h
    · exact hadd
    · have hend : r = .ok added ∧ d' = d₁ := by
        cases added
        · exact gives_pure.1 h
        · exact gives_pure.1 (gives_log_bind.1 h)
      rw [hend.1, hend.2]
      exact hadd
  · rcases r with e | added
    · exact h.bind_error
    · refine h.bind ?_
      cases added
      · exact gives_pure.2 ⟨rfl, rfl⟩
      · exact gives_log_bind.2 (gives_pure.2 ⟨rfl, rfl⟩)

/-- A relation that is kept where a breakpoint of the table is patched, one is
    added, and one is forgotten. -/
structure KeptByPatching (R : Debuggee τ → Debuggee τ → Prop) : Prop where
  enable {d d' : Debuggee τ} {a : Addr} {b : Breakpoint} {r : Except Failure Unit} :
    d.breakpoints.get? a = some b → (requestPut b.enable).Gives d r d' → R d d'
  disable {d d' : Debuggee τ} {a : Addr} {b : Breakpoint} {r : Except Failure Unit} :
    d.breakpoints.get? a = some b → (requestPut b.disable).Gives d r d' → R d d'
  add {d d' : Debuggee τ} {a : Addr} {r : Except Failure Unit} :
    d.isAlive → (requestPut (Breakpoint.enable ⟨a, none⟩)).Gives d r d' → R d d'
  forget (d : Debuggee τ) (a : Addr) : R d { d with breakpoints := d.breakpoints.erase a }

section
variable {R : Debuggee τ → Debuggee τ → Prop} [IsPreorder (Debuggee τ) R]

/-- What reading and writing words keep of a tracee. -/
theorem KeptByPatching.of_words {T : τ → τ → Prop} [IsPreorder τ T]
    (hread : ∀ a, (Tracee.readWord a : Action τ Word).Keeps T)
    (hwrite : ∀ a w, (Tracee.writeWord a w : Action τ Unit).Keeps T) :
    KeptByPatching (InvImage T Debuggee.tracee) := by
  have hput {act : Action τ Breakpoint} (h : act.Keeps T) :
      (requestPut act).Keeps (InvImage T Debuggee.tracee) :=
    .bind (request_keeps h) fun _ d => refl_of T d.tracee
  exact ⟨fun _ => (hput (Breakpoint.enable_keeps hread hwrite _)).gives,
    fun _ => (hput (Breakpoint.disable_keeps hread hwrite _)).gives,
    fun _ => (hput (Breakpoint.enable_keeps hread hwrite _)).gives, fun d _ => refl_of T d.tracee⟩

theorem keeps_disableEach (hdisable : ∀ a, (disableAt a).Keeps R) :
    ∀ addrs, (disableEach addrs).Keeps R
  | [] => .pure ()
  | a :: addrs => by
    refine .bind (.inspect _) fun enabled => ?_
    split_ifs
    · exact .bind (hdisable a) fun _ => keeps_disableEach hdisable addrs
    · exact keeps_disableEach hdisable addrs

theorem KeptByPatching.enableAt (hR : KeptByPatching R) (a : Addr) :
    (Debuggee.enableAt a).Keeps R := by
  refine .of_gives fun d r d' h => ?_
  rw [Debuggee.enableAt, gives_inspect_bind] at h
  split at h
  · exact (gives_pure.1 h).2 ▸ refl_of R d
  · rename_i b hb
    exact hR.enable hb h

theorem KeptByPatching.disableAt (hR : KeptByPatching R) (a : Addr) :
    (Debuggee.disableAt a).Keeps R := by
  refine .of_gives fun d r d' h => ?_
  rw [Debuggee.disableAt, gives_inspect_bind] at h
  split at h
  · exact (gives_pure.1 h).2 ▸ refl_of R d
  · rename_i b hb
    exact hR.disable hb h

theorem KeptByPatching.disableEach (hR : KeptByPatching R) (addrs : List Addr) :
    (Debuggee.disableEach addrs).Keeps R := keeps_disableEach hR.disableAt addrs

theorem KeptByPatching.setBreakpoint (hR : KeptByPatching R) (a : Addr) :
    (Debuggee.setBreakpoint a).Keeps R := by
  refine .of_gives fun d r d' h => ?_
  rw [setBreakpoint_inserts] at h
  split_ifs at h with ha
  swap
  · exact h.2 ▸ refl_of R d
  rw [insertBreakpoint, gives_inspect_bind] at h
  split at h
  · split_ifs at h
    · refine Keeps.gives (.bind (hR.enableAt a) fun _ => ?_) h
      exact .bind (.log _ _ _) fun _ => .pure _
    · rw [gives_log_bind, gives_pure] at h
      exact h.2 ▸ refl_of R d
  · rw [← Action.bind_assoc] at h
    obtain ⟨e, hput, -⟩ | ⟨_, d₁, hput, hr⟩ := gives_bind.1 h
    · exact hR.add ha hput
    · obtain ⟨-, rfl⟩ := gives_pure.1 hr
      exact hR.add ha hput

theorem KeptByPatching.removeBreakpoint (hR : KeptByPatching R) (a : Addr) :
    (Debuggee.removeBreakpoint a).Keeps R := by
  refine .bind (fun d => refl_of R d) fun _ => .bind (.inspect _) fun b => ?_
  rcases b with _ | b
  · exact .log _ _ _
  · dsimp only
    split_ifs
    · exact .bind (hR.disableAt a) fun _ d => hR.forget d a
    · exact fun d => hR.forget d a

end

/-! ## Operations that leave the process alone -/

theorem state_patching : KeptByPatching (Unchanged (Debuggee.state (τ := τ))) := by
  have hput (act : Action τ Breakpoint) : (requestPut act).Keeps (Unchanged Debuggee.state) :=
    .bind (fun _ => rfl) fun _ _ => rfl
  exact ⟨fun _ => (hput _).gives, fun _ => (hput _).gives, fun _ => (hput _).gives,
    fun _ _ => rfl⟩

theorem enableAt_state (a : Addr) :
    (enableAt a : Action (Debuggee τ) Unit).Keeps (Unchanged Debuggee.state) :=
  state_patching.enableAt a

theorem disableAt_state (a : Addr) :
    (disableAt a : Action (Debuggee τ) Unit).Keeps (Unchanged Debuggee.state) :=
  state_patching.disableAt a

theorem disableEach_state (addrs : List Addr) :
    (disableEach addrs : Action (Debuggee τ) Unit).Keeps (Unchanged Debuggee.state) :=
  state_patching.disableEach addrs

theorem setBreakpoint_state (a : Addr) :
    (setBreakpoint a : Action (Debuggee τ) Bool).Keeps (Unchanged Debuggee.state) :=
  state_patching.setBreakpoint a

theorem removeBreakpoint_state (a : Addr) :
    (removeBreakpoint a : Action (Debuggee τ) Unit).Keeps (Unchanged Debuggee.state) :=
  state_patching.removeBreakpoint a

theorem writeMemory_state (a : Addr) (value : Word) :
    (writeMemory a value : Action (Debuggee τ) Unit).Keeps (Unchanged Debuggee.state) :=
  .bind (fun _ => rfl) fun _ _ => rfl

/-! ## Stepping over a breakpoint -/

/-- How the attempt to step over a breakpoint ends. -/
inductive SteppedOver (d : Debuggee τ) : Except Failure (Option StopEvent) → Debuggee τ → Prop where
  /-- The program counter cannot be read. -/
  | unread {e : Failure} {d' : Debuggee τ} (pc : Debuggee.pc.Gives d (.error e) d') :
      SteppedOver d (.error e) d'
  /-- There is nothing to step over. -/
  | absent {here : Addr} {d' : Debuggee τ} (pc : Debuggee.pc.Gives d (.ok here) d')
      (free : ¬ d'.breakpoints.isEnabledAt here) : SteppedOver d (.ok none) d'
  /-- The breakpoint cannot be disabled. -/
  | stuck {here : Addr} {d₁ : Debuggee τ} {e : Failure} {d' : Debuggee τ}
      (pc : Debuggee.pc.Gives d (.ok here) d₁) (enabled : d₁.breakpoints.isEnabledAt here)
      (disable : (disableAt here).Gives d₁ (.error e) d') : SteppedOver d (.error e) d'
  /-- The process does not survive the step. -/
  | gone {here : Addr} {d₁ d₂ : Debuggee τ} {r : Except Failure StopEvent} {d' : Debuggee τ}
      (pc : Debuggee.pc.Gives d (.ok here) d₁) (enabled : d₁.breakpoints.isEnabledAt here)
      (disable : (disableAt here).Gives d₁ (.ok ()) d₂) (step : singleStep.Gives d₂ r d')
      (dead : ¬ d'.isAlive) : SteppedOver d (r.map some) d'
  /-- The breakpoint is enabled again, if that is possible. -/
  | survived {here : Addr} {d₁ d₂ d₃ : Debuggee τ} {r : Except Failure StopEvent}
      {r' : Except Failure Unit} {d' : Debuggee τ}
      (pc : Debuggee.pc.Gives d (.ok here) d₁) (enabled : d₁.breakpoints.isEnabledAt here)
      (disable : (disableAt here).Gives d₁ (.ok ()) d₂) (step : singleStep.Gives d₂ r d₃)
      (alive : d₃.isAlive) (enable : (enableAt here).Gives d₃ r' d') :
      SteppedOver d (r'.bind fun _ => r.map some) d'

theorem gives_stepOverBreakpoint {r : Except Failure (Option StopEvent)} :
    (stepOverBreakpoint : Action (Debuggee τ) (Option StopEvent)).Gives d r d' ↔
      SteppedOver d r d' := by
  unfold stepOverBreakpoint
  constructor
  · intro h
    rcases gives_bind.1 h with ⟨e, hpc, rfl⟩ | ⟨here, d₁, hpc, h⟩
    · exact .unread hpc
    rw [gives_inspect_bind] at h
    split_ifs at h with hen
    · rw [gives_log_bind] at h
      rcases gives_bind.1 h with ⟨e, hdis, rfl⟩ | ⟨_, d₂, hdis, h⟩
      · exact .stuck hpc hen hdis
      obtain ⟨r₁, d₃, hstep, h⟩ := gives_attempt_bind.1 h
      rw [gives_inspect_bind] at h
      split_ifs at h with hal
      · rcases gives_bind.1 h with ⟨e, henable, rfl⟩ | ⟨_, d₄, henable, h⟩
        · exact .survived hpc hen hdis hstep hal henable
        · obtain ⟨rfl, rfl⟩ := gives_map_ofExcept.1 h
          exact .survived hpc hen hdis hstep hal henable
      · obtain ⟨rfl, rfl⟩ := gives_map_ofExcept.1 h
        exact .gone hpc hen hdis hstep hal
    · obtain ⟨rfl, rfl⟩ := gives_pure.1 h
      exact .absent hpc hen
  · rintro (⟨hpc⟩ | ⟨hpc, hen⟩ | ⟨hpc, hen, hdis⟩ | ⟨hpc, hen, hdis, hstep, hal⟩ |
      ⟨hpc, hen, hdis, hstep, hal, henable⟩)
    · exact hpc.bind_error
    · refine hpc.bind (gives_inspect_bind.2 ?_)
      rw [if_neg hen]
      exact gives_pure.2 ⟨rfl, rfl⟩
    · refine hpc.bind (gives_inspect_bind.2 ?_)
      rw [if_pos hen, gives_log_bind]
      exact hdis.bind_error
    · refine hpc.bind (gives_inspect_bind.2 ?_)
      rw [if_pos hen, gives_log_bind]
      refine hdis.bind (gives_attempt_bind.2 ⟨_, _, hstep, gives_inspect_bind.2 ?_⟩)
      simp only [if_neg hal]
      exact gives_map_ofExcept.2 ⟨rfl, rfl⟩
    · refine hpc.bind (gives_inspect_bind.2 ?_)
      rw [if_pos hen, gives_log_bind]
      refine hdis.bind (gives_attempt_bind.2 ⟨_, _, hstep, gives_inspect_bind.2 ?_⟩)
      simp only [if_pos hal]
      exact gives_bind_const (fun _ => gives_map_ofExcept.2 ⟨rfl, rfl⟩) henable

/-- Only a debuggee that is alive is stepped over a breakpoint and runs on. -/
theorem stepOverBreakpoint_alive {o : Option StopEvent}
    (h : (stepOverBreakpoint : Action (Debuggee τ) (Option StopEvent)).Gives d (.ok o) d')
    (ho : o = none ∨ o = some .stepped) : d'.isAlive := by
  generalize hr : Except.ok o = r at h
  cases gives_stepOverBreakpoint.1 h with
  | unread => cases hr
  | absent hpc _ =>
    exact isAlive_of_state (gives_pc hpc).1 (alive_of_requestAlive hpc)
  | stuck => cases hr
  | @gone _ _ d₂ r _ _ _ _ hstep hdead =>
    rcases r with e | event
    · cases hr
    cases hr
    have hevent : event = .stepped := by simpa using ho
    rw [gives_singleStep] at hstep
    split_ifs at hstep with hd
    · rcases gives_runAndWait hstep hd with ⟨halive, -, -⟩ | ⟨-, -, e, he, hterm⟩
      · exact halive
      · rw [Except.ok.inj he] at hevent
        simp [hevent, StopEvent.isTerminal] at hterm
    · cases hstep.1
  | survived _ _ _ _ halive henable =>
    exact isAlive_of_state ((enableAt_state _).gives henable) halive

/-! ## Running on -/

/-- How the attempt to run to the next stop ends. -/
inductive Continued (d : Debuggee τ) : Except Failure StopEvent → Debuggee τ → Prop where
  /-- The breakpoint at the program counter cannot be stepped over. -/
  | failed {e : Failure} {d' : Debuggee τ} (step : stepOverBreakpoint.Gives d (.error e) d') :
      Continued d (.error e) d'
  /-- The instruction under the breakpoint stops the process. -/
  | stopped {event : StopEvent} {d' : Debuggee τ}
      (step : stepOverBreakpoint.Gives d (.ok (some event)) d') (ne : event ≠ .stepped) :
      Continued d (.ok event) d'
  /-- The process runs on. -/
  | resumed {o : Option StopEvent} {d₁ : Debuggee τ} {r : Except Failure StopEvent}
      {d' : Debuggee τ} (step : stepOverBreakpoint.Gives d (.ok o) d₁)
      (past : o = none ∨ o = some .stepped) (run : (runAndWait Tracee.resume).Gives d₁ r d') :
      Continued d r d'

theorem gives_continueExecution {r : Except Failure StopEvent} :
    (continueExecution : Action (Debuggee τ) StopEvent).Gives d r d' ↔
      if d.isAlive then Continued d r d' else r = .error .processExited ∧ d' = d := by
  rw [continueExecution, gives_ensureAlive_bind]
  split_ifs
  swap
  · exact Iff.rfl
  refine ⟨fun h => ?_, fun h => ?_⟩
  · rcases gives_bind.1 h with ⟨e, hover, rfl⟩ | ⟨o, d₁, hover, h₁⟩
    · exact .failed hover
    split at h₁
    · exact .resumed hover (Or.inr rfl) h₁
    · exact .resumed hover (Or.inl rfl) h₁
    · rename_i event hne
      obtain ⟨rfl, rfl⟩ := gives_pure.1 h₁
      exact .stopped hover hne
  · cases h with
    | failed hover => exact hover.bind_error
    | stopped hover hne =>
      refine hover.bind ?_
      split
      · rename_i he
        exact absurd (Option.some.inj he) hne
      · rename_i he
        cases he
      · rename_i he
        cases he
        exact gives_pure.2 ⟨rfl, rfl⟩
    | resumed hover hpast hrun =>
      refine hover.bind ?_
      rcases hpast with rfl | rfl <;> exact hrun

/-! ## What is kept on the way -/

section
variable {R : Debuggee τ → Debuggee τ → Prop} [IsPreorder (Debuggee τ) R]

/-- What the parts of stepping over a breakpoint keep, the whole keeps. -/
theorem keeps_stepOverBreakpoint (hpc : pc.Keeps R) (hdisable : ∀ a, (disableAt a).Keeps R)
    (hstep : singleStep.Keeps R) (henable : ∀ a, (enableAt a).Keeps R) :
    stepOverBreakpoint.Keeps R := by
  refine .bind hpc fun here => .bind (.inspect _) fun enabled => ?_
  split_ifs
  · refine .bind (.log _ _ _) fun _ => .bind (hdisable here) fun _ => ?_
    refine .bind (.attempt hstep) fun event => .bind (.inspect _) fun alive => ?_
    have htail : (do return some (← .ofExcept event) : Action (Debuggee τ) (Option StopEvent)).Keeps
        R := .bind (.ofExcept _) fun _ => .pure _
    split_ifs
    · exact .bind (henable here) fun _ => htail
    · exact htail
  · exact .pure _

theorem keeps_continueExecution (hover : stepOverBreakpoint.Keeps R)
    (hrun : ∀ {d r d'}, (runAndWait Tracee.resume).Gives d r d' → d.isAlive → R d d') :
    continueExecution.Keeps R := by
  refine .of_gives fun d r d' h => ?_
  rw [gives_continueExecution] at h
  split_ifs at h
  · cases h with
    | failed hstep => exact hover.gives hstep
    | stopped hstep _ => exact hover.gives hstep
    | resumed hstep hpast hresume =>
      exact trans_of R (hover.gives hstep) (hrun hresume (stepOverBreakpoint_alive hstep hpast))
  · exact h.2 ▸ refl_of R d

end

end SourceDebugger.Debuggee
