/-
  Operations of a debuggee that fail before they have done anything.

  * `Debuggee.setBreakpoint_error`, `Debuggee.removeBreakpoint_error`: a
    breakpoint that cannot be set or removed leaves the debuggee as it is;
  * `Debuggee.classify_succeeds`, `Debuggee.runAndWait_error`: once a process
    runs, waiting for it fails only if it runs away;
  * `Debuggee.Moves` is what that says of the operations that move a debuggee.
-/
import SourceDebugger.Proofs.Progress

namespace SourceDebugger

open SourceDebugger.Action

/-! ## Patching that fails -/

namespace Breakpoint

open Simulated

variable {p p' : Simulated} {b : Breakpoint} {e : Failure}

theorem enable_error (h : b.enable.Gives p (.error e) p') : p' = p := by
  obtain ⟨a, _ | v⟩ := b
  · by_cases hp : p.isAlive ∧ p.isWritable a
    · obtain ⟨w, hw⟩ := Option.isSome_iff_exists.1 (isWritable_iff.1 hp.2).2
      cases (h.unique (enable_gives hp.1 hp.2 (Memory.getWord?_lowByte hw))).1
    · obtain ⟨e', hfail⟩ := enable_fails hp
      exact (h.unique hfail).2
  · exact (gives_fail.1 h).2

theorem disable_error (h : b.disable.Gives p (.error e) p') : p' = p := by
  obtain ⟨a, _ | v⟩ := b
  · exact (gives_fail.1 h).2
  · by_cases hp : p.isAlive ∧ p.isWritable a
    · cases (h.unique (disable_gives hp.1 hp.2)).1
    · obtain ⟨e', hfail⟩ := disable_fails (v := v) hp
      exact (h.unique hfail).2

end Breakpoint

namespace Debuggee

open Simulated

variable {d d' d₁ : Debuggee Simulated} {a : Addr} {v : UInt8} {e : Failure}

theorem requestPut_error {act : Action Simulated Breakpoint}
    (hact : ∀ {p p' e}, act.Gives p (.error e) p' → p' = p)
    (h : (do
      let b ← request act
      modify fun d => { d with breakpoints := d.breakpoints.put b } :
        Action (Debuggee Simulated) Unit).Gives d (.error e) d') : d' = d := by
  obtain ⟨_, t, ht, -, rfl⟩ | ⟨_, _, -, ⟨⟩, -⟩ := gives_requestPut.1 h
  rw [hact ht]

theorem enableAt_error (h : (enableAt a).Gives d (.error e) d') : d' = d := by
  rw [enableAt, gives_inspect_bind] at h
  split at h
  · exact (gives_pure.1 h).2
  · exact requestPut_error Breakpoint.enable_error h

theorem disableAt_error (h : (disableAt a).Gives d (.error e) d') : d' = d := by
  rw [disableAt, gives_inspect_bind] at h
  split at h
  · exact (gives_pure.1 h).2
  · exact requestPut_error Breakpoint.disable_error h

/-- An enabled breakpoint that is disabled is one that can be patched. -/
theorem disableAt_ok (hen : d.breakpoints.isEnabledAt a) (h : (disableAt a).Gives d (.ok ()) d') :
    ∃ v, d.breakpoints.saved? a = some v ∧ d.tracee.isAlive ∧ d.tracee.isWritable a ∧
      d' = d.patch a v (d.breakpoints.put ⟨a, none⟩) := by
  obtain ⟨v, hv⟩ := BreakpointTable.exists_saved? hen
  by_cases hp : d.tracee.isAlive ∧ d.tracee.isWritable a
  · exact ⟨v, hv, hp.1, hp.2, (h.unique (disableAt_patches hp.1 hp.2 hv)).2⟩
  · obtain ⟨e, hfail⟩ := Breakpoint.disable_fails (v := v) hp
    rw [disableAt, gives_inspect_bind, BreakpointTable.saved?_eq_some.1 hv] at h
    cases (h.unique (gives_request.2 ⟨_, hfail, rfl⟩).bind_error).1

theorem setBreakpoint_error (h : (setBreakpoint a).Gives d (.error e) d') : d' = d := by
  rw [setBreakpoint_inserts] at h
  split_ifs at h
  swap
  · exact h.2
  rw [insertBreakpoint, gives_inspect_bind] at h
  split at h
  · split_ifs at h
    · obtain ⟨e', hen, -⟩ | ⟨_, d₁, -, hlog⟩ := gives_bind.1 h
      · exact enableAt_error hen
      · rw [gives_log_bind] at hlog
        cases (gives_pure.1 hlog).1
    · rw [gives_log_bind] at h
      cases (gives_pure.1 h).1
  · rw [← bind_assoc] at h
    obtain ⟨e', hput, -⟩ | ⟨_, d₁, -, hpure⟩ := gives_bind.1 h
    · exact requestPut_error Breakpoint.enable_error hput
    · cases (gives_pure.1 hpure).1

theorem removeBreakpoint_error (h : (removeBreakpoint a).Gives d (.error e) d') : d' = d := by
  rw [removeBreakpoint, gives_ensureAlive_bind] at h
  split_ifs at h
  swap
  · exact h.2
  rw [eraseBreakpoint, gives_inspect_bind] at h
  split at h
  · cases (gives_log.1 h).1
  split_ifs at h
  · obtain ⟨e', hdis, -⟩ | ⟨_, d₁, -, h₁⟩ := gives_bind.1 h
    · exact disableAt_error hdis
    · cases (gives_modify.1 h₁).1
  · cases (gives_modify.1 h).1

/-! ## Running that fails -/

section
variable {α : Type} {f : Simulated → α × Simulated}

/-- A request is fulfilled by a process that is there. -/
theorem requestAlive_ok {v : α} (h : (requestAlive (whileAlive f)).Gives d (.ok v) d') :
    d.tracee.isAlive ∧ d' = { d with tracee := (f d.tracee).2 } := by
  rw [gives_requestAlive] at h
  split_ifs at h
  · obtain ⟨t, ht, rfl⟩ := gives_request.1 h
    rw [gives_whileAlive] at ht
    split_ifs at ht with hp
    · exact ⟨hp, by rw [ht.2]⟩
    · cases ht.1
  · cases h.1

/-- A request to a process that is gone does nothing. -/
theorem requestAlive_error (h : (requestAlive (whileAlive f)).Gives d (.error e) d') : d' = d := by
  rw [gives_requestAlive] at h
  split_ifs at h
  · obtain ⟨t, ht, rfl⟩ := gives_request.1 h
    rw [gives_whileAlive] at ht
    split_ifs at ht
    · cases ht.1
    · rw [ht.2]
  · exact h.2

end

/-- The program counter is read of a process that is there. -/
theorem tracee_isAlive_of_pc {here : Addr} (h : pc.Gives d (.ok here) d') : d.tracee.isAlive :=
  (requestAlive_ok h).1

theorem classify_unknown_trap {code : Int} (hcode : ¬ (code = kernelCode ∨ code = breakpointCode))
    (htrace : code ≠ traceCode) :
    (classify (.signal .sigtrap code)).Gives d (.ok (.otherTrap code))
      { d with state := .stopped } := by
  refine gives_modify_bind.2 ?_
  rw [if_pos rfl, classifyTrap, if_neg hcode, if_neg htrace, gives_log_bind]
  exact gives_pure.2 ⟨rfl, rfl⟩

/-- Every report of a process that is there can be classified. -/
theorem classify_succeeds {report : Report}
    (hp : ∀ signal code, report = .signal signal code → d.tracee.isAlive) :
    ∃ event d', (classify report).Gives d (.ok event) d' := by
  cases report with
  | exited code => exact ⟨_, _, classify_exited code⟩
  | killed signal => exact ⟨_, _, gives_modify_bind.2 (gives_pure.2 ⟨rfl, rfl⟩)⟩
  | signal signal code =>
    replace hp := hp signal code rfl
    by_cases hs : signal = .sigtrap
    swap
    · exact ⟨_, _, classify_fault hs code⟩
    subst hs
    by_cases hcode : code = kernelCode ∨ code = breakpointCode
    · have hback : d.tracee.pc = d.tracee.pc - 1 + 1 := (UInt64.sub_add_cancel _ _).symm
      by_cases hc : d.breakpoints.contains (d.tracee.pc - 1)
      · exact ⟨_, _, classify_trap hcode hp hback hc⟩
      · exact ⟨_, _, classify_foreign_trap hcode hp hback hc⟩
    · by_cases htrace : code = traceCode
      · exact ⟨_, _, htrace ▸ classify_stepped⟩
      · exact ⟨_, _, classify_unknown_trap hcode htrace⟩

/-- Waiting for a process that was made to run fails only if there is no report,
    because the process runs away. -/
theorem runAndWait_error {f : Simulated → Simulated}
    (hact : Runs (whileAlive fun p => ((), f p))) (hp : d.tracee.isAlive)
    (h : (runAndWait (whileAlive fun p => ((), f p))).Gives d (.error e) d') :
    e = .processAccess .echild ∧ (f d.tracee).pending = none := by
  have hgives : (whileAlive fun p => ((), f p)).Gives d.tracee (.ok ()) (f d.tracee) := by
    rw [gives_whileAlive, if_pos hp]
    exact ⟨rfl, rfl⟩
  rcases hpending : (f d.tracee).pending with _ | report
  · have hwait : takePending.Gives (f d.tracee) (.error (.processAccess .echild)) (f d.tracee) := by
      simp [Gives, takePending, hpending]
    have hfail : (runAndWait (whileAlive fun p => ((), f p))).Gives d
        (.error (.processAccess .echild)) { d with tracee := f d.tracee, state := .running } := by
      refine (gives_request.2 ⟨_, hgives, rfl⟩).bind (gives_modify_bind.2 ?_)
      rw [gives_waitForStop]
      exact (gives_request.2 ⟨_, hwait, rfl⟩).bind_error
    exact ⟨Except.error.inj (h.unique hfail).1, rfl⟩
  · have hreport : (whileAlive fun p => ((), f p)).Gives d.tracee (.ok ())
        { f d.tracee with pending := some report } := by
      rw [← hpending]
      exact hgives
    have hsignal : ∀ signal code, report = .signal signal code → (f d.tracee).isAlive := by
      rintro signal code rfl
      obtain halive | ⟨-, code', hcode⟩ := hact.isAlive hgives hp
      · exact halive
      · rw [hpending] at hcode
        cases hcode
    obtain ⟨event, d₁, hc⟩ := classify_succeeds
      (d := { d with tracee := { f d.tracee with pending := none }, state := .running }) hsignal
    cases (h.unique (runAndWait_gives hreport hc)).1

theorem stepOnce_pending (p : Simulated) : p.stepOnce.pending ≠ none := by
  unfold stepOnce
  split <;> simp

/-- A single step always ends with a stop. -/
theorem singleStep_succeeds (hd : d.isAlive) (hp : d.tracee.isAlive) :
    ¬ singleStep.Gives d (.error e) d' := by
  rw [gives_singleStep, if_pos hd]
  exact fun h => stepOnce_pending _ (runAndWait_error step_runs hp h).2

/-- What can be patched afterwards is what could be patched before, and if the
    debuggee is alive, so is the process. -/
def Sound (d d' : Debuggee Simulated) : Prop :=
  d'.tracee.isWritable = d.tracee.isWritable ∧ (d'.isAlive → d'.tracee.isAlive)

theorem singleStep_sound (hd : d.isAlive) (hp : d.tracee.isAlive) {r : Except Failure StopEvent}
    (h : singleStep.Gives d r d') : Sound d d' := by
  rw [gives_singleStep, if_pos hd] at h
  obtain ⟨hw, ha⟩ := runAndWait_runs step_runs h
  exact ⟨hw, fun h => ha h hp⟩

/-- Stepping over a breakpoint fails before anything has been done, or it leaves a
    process that can be patched as before. -/
theorem stepOverBreakpoint_ends {r : Except Failure (Option StopEvent)}
    (h : stepOverBreakpoint.Gives d r d') :
    (∃ e, r = .error e ∧ d' = d) ∨ ∃ o, r = .ok o ∧ Sound d d' := by
  cases gives_stepOverBreakpoint.1 h with
  | unread hpc => exact Or.inl ⟨_, rfl, eq_of_gives_pc hpc⟩
  | absent hpc _ =>
    have hp := tracee_isAlive_of_pc hpc
    obtain rfl := eq_of_gives_pc hpc
    exact Or.inr ⟨none, rfl, rfl, fun _ => hp⟩
  | stuck hpc _ hdis =>
    obtain rfl := eq_of_gives_pc hpc
    exact Or.inl ⟨_, rfl, disableAt_error hdis⟩
  | @gone _ _ _ step _ hpc hen hdis hstep _ =>
    have ha := alive_of_requestAlive hpc
    obtain rfl := eq_of_gives_pc hpc
    obtain ⟨v, -, hp, hw, rfl⟩ := disableAt_ok hen hdis
    rcases step with e | event
    · exact absurd hstep (singleStep_succeeds ha hp)
    obtain ⟨hw', hp'⟩ := singleStep_sound (d := Debuggee.patch _ _ _ _) ha hp hstep
    exact Or.inr ⟨some event, rfl, hw'.trans (isWritable_patch hw), hp'⟩
  | @survived _ _ _ _ step enabled _ hpc hen hdis hstep ha' henable =>
    have ha := alive_of_requestAlive hpc
    obtain rfl := eq_of_gives_pc hpc
    obtain ⟨v, hv, hp, hw, rfl⟩ := disableAt_ok hen hdis
    rcases step with e | event
    · exact absurd hstep (singleStep_succeeds ha hp)
    -- what could be disabled can be enabled again
    obtain ⟨hgives, hp', hw'⟩ := enableAt_restores hp hw hv hstep ha'
    obtain ⟨rfl, rfl⟩ := henable.unique hgives
    exact Or.inr ⟨some event, rfl, (isWritable_patch (hw' ▸ hw)).trans hw', fun _ => hp'⟩

theorem stepOverBreakpoint_error (h : stepOverBreakpoint.Gives d (.error e) d') : d' = d := by
  obtain ⟨_, -, hd⟩ | ⟨_, ⟨⟩, -⟩ := stepOverBreakpoint_ends h
  exact hd

theorem stepOverBreakpoint_sound {o : Option StopEvent}
    (h : stepOverBreakpoint.Gives d (.ok o) d') : Sound d d' := by
  obtain ⟨_, ⟨⟩, -⟩ | ⟨_, -, hd⟩ := stepOverBreakpoint_ends h
  exact hd

/-- Behind the breakpoint where it stands, if any, the process executes as many
    instructions as there may be without a stop. -/
def RunsAway (d : Debuggee Simulated) : Prop :=
  ∃ o d₁, stepOverBreakpoint.Gives d (.ok o) d₁ ∧ (d₁.tracee.run runLimit).pending = none

/-- An operation that moves the debuggee: it fails before it has done anything,
    unless the process runs away. -/
structure Moves (act : Action (Debuggee Simulated) StopEvent) : Prop where
  error {d d' : Debuggee Simulated} {e : Failure} :
    act.Gives d (.error e) d' → d' = d ∨ e = .processAccess .echild ∧ d.RunsAway
  sound {d d' : Debuggee Simulated} {event : StopEvent} :
    act.Gives d (.ok event) d' → Sound d d'

theorem stepInstruction_moves : Moves stepInstruction where
  error {d d' e} h := by
    obtain ⟨e', hover, -⟩ | ⟨o, d₁, hover, hthen⟩ := gives_bind.1 h
    · exact Or.inl (stepOverBreakpoint_error hover)
    cases o with
    | some event => cases (gives_pure.1 hthen).1
    | none =>
      have ha := stepOverBreakpoint_alive hover (Or.inl rfl)
      exact absurd hthen (singleStep_succeeds ha ((stepOverBreakpoint_sound hover).2 ha))
  sound {d d' event} h := by
    obtain ⟨o, d₁, hover, hthen⟩ := gives_bind_ok.1 h
    cases o with
    | some event =>
      obtain ⟨-, rfl⟩ := gives_pure.1 hthen
      exact stepOverBreakpoint_sound hover
    | none =>
      have ha := stepOverBreakpoint_alive hover (Or.inl rfl)
      obtain ⟨hw, hp⟩ := stepOverBreakpoint_sound hover
      obtain ⟨hw', hp'⟩ := singleStep_sound ha (hp ha) hthen
      exact ⟨hw'.trans hw, hp'⟩

theorem continueExecution_moves : Moves continueExecution where
  error {d d' e} h := by
    rw [gives_continueExecution] at h
    split_ifs at h
    swap
    · exact Or.inl h.2
    generalize hr : (Except.error e : Except Failure StopEvent) = r at h
    cases h with
    | failed hover => exact Or.inl (stepOverBreakpoint_error hover)
    | stopped => cases hr
    | resumed hover hpast hrun =>
      subst hr
      have ha := stepOverBreakpoint_alive hover hpast
      have hp := (stepOverBreakpoint_sound hover).2 ha
      obtain ⟨he, hpending⟩ := runAndWait_error resume_runs hp hrun
      exact Or.inr ⟨he, _, _, hover, hpending⟩
  sound {d d' event} h := by
    rw [gives_continueExecution] at h
    split_ifs at h
    swap
    · cases h.1
    cases h with
    | stopped hover _ => exact stepOverBreakpoint_sound hover
    | resumed hover hpast hrun =>
      obtain ⟨hw, hp⟩ := stepOverBreakpoint_sound hover
      obtain ⟨hw', hp'⟩ := runAndWait_runs resume_runs hrun
      exact ⟨hw'.trans hw, fun ha => hp' ha (hp (stepOverBreakpoint_alive hover hpast))⟩

end Debuggee

end SourceDebugger
