/-
  What the stops of a simulated process are reported as.

  * `Simulated.Honest`: a process whose own stops do not look like the end of a
    step;
  * `Debuggee.Classified`: what a report is taken for, and `Debuggee.stepOver_cases`:
    what stepping over a breakpoint can do;
  * `Debuggee.continueExecution_hits`: a debuggee that has hit a breakpoint stands
    there;
  * `Debuggee.continueExecution_ne_stepped`: one that runs does not end a step;
  * `Session.runTo_stepped`: a run to candidates that ends as a step is at one of
    them.
-/
import SourceDebugger.Proofs.Stops

namespace SourceDebugger

open SourceDebugger.Action

/-! ## Processes whose stops are their own -/

namespace Simulated

variable {p p' : Simulated} {o : Option Report}

/-- The report of a finished step. -/
def stepReport : Report := .signal .sigtrap traceCode

/-- No stop of the program looks like the end of a step. -/
structure Honest (p : Simulated) : Prop where
  trapCode : p.trapCode ≠ traceCode
  faults (a : Addr) : p.faults[a]? ≠ some (.sigtrap, traceCode)
  pending : p.pending ≠ some stepReport

theorem Conventional.honest (h : p.Conventional) (hn : p.pending = none) : p.Honest where
  trapCode := by
    rcases h.trapCode with hcode | hcode
    · rw [hcode]
      decide
    · rw [hcode]
      decide
  faults a := h.faults a traceCode
  pending := by simp [hn]

theorem Honest.of_executed (h : p.Honest) (he : Executed p o p') :
    p'.Honest ∧ o ≠ some stepReport := by
  cases he with
  | trapped _ =>
    refine ⟨⟨h.trapCode, h.faults, h.pending⟩, fun ho => h.trapCode ?_⟩
    simpa [stepReport] using ho
  | faulted _ hfault =>
    refine ⟨h, fun ho => h.faults p.pc ?_⟩
    simp only [stepReport, Option.some.injEq, Report.signal.injEq] at ho
    rw [hfault, ho.1, ho.2]
  | moved => exact ⟨⟨h.trapCode, h.faults, h.pending⟩, by simp⟩
  | ended => exact ⟨⟨h.trapCode, h.faults, h.pending⟩, by simp [stepReport]⟩

theorem Honest.run (h : p.Honest) (n : Nat) : (p.run n).Honest := by
  induction n generalizing p with
  | zero => exact h
  | succ n ih =>
    rw [Simulated.run]
    split
    · rename_i hexec
      obtain ⟨h', hne⟩ := h.of_executed (executed hexec)
      exact ⟨h'.trapCode, h'.faults, hne⟩
    · rename_i hexec
      exact ih (h.of_executed (executed hexec)).1

/-- The report of a step is waited for. -/
theorem Honest.stepOnce (h : p.Honest) : Honest { p.stepOnce with pending := none } := by
  rw [Simulated.stepOnce]
  split
  all_goals
    rename_i hexec
    obtain ⟨h', -⟩ := h.of_executed (executed hexec)
    exact ⟨h'.trapCode, h'.faults, by simp⟩

theorem Honest.setPc (h : p.Honest) (a : Addr) : (p.setPc a).Honest :=
  ⟨h.trapCode, h.faults, h.pending⟩

theorem Honest.patch (h : p.Honest) (a : Addr) (v : UInt8) : (p.patch a v).Honest :=
  ⟨h.trapCode, h.faults, h.pending⟩

end Simulated

/-! ## Events -/

namespace Debuggee

open Simulated

variable {d d' : Debuggee Simulated} {a : Addr} {event : StopEvent}

/-- The debuggee stands at its breakpoint at `a`. -/
structure Hit (d : Debuggee Simulated) (a : Addr) : Prop where
  pc : d.tracee.pc = a
  alive : d.isAlive
  known : d.breakpoints.contains a

/-- What a report is taken for. -/
inductive Classified (d : Debuggee Simulated) (report : Report) (d' : Debuggee Simulated) :
    StopEvent → Prop where
  /-- A breakpoint was hit, and the program counter is moved back. -/
  | hit {a : Addr} (hit : Hit d' a) (moved : d'.tracee = d.tracee.setPc a) :
      Classified d report d' (.hitBreakpoint a)
  /-- The process is left alone.  Only a step that has ended is taken for one. -/
  | other {event : StopEvent} (free : ∀ a, event ≠ .hitBreakpoint a)
      (stepped : event = .stepped → report = stepReport) (same : d'.tracee = d.tracee) :
      Classified d report d' event

theorem eq_of_gives_setPc (h : (setPc a).Gives d (.ok ()) d') :
    d.isAlive ∧ d' = { d with tracee := d.tracee.setPc a } := by
  have ha := alive_of_requestAlive h
  rw [setPc, writeRegister, gives_requestAlive, if_pos ha] at h
  obtain ⟨t, ht, rfl⟩ := gives_request.1 h
  have hwrite := gives_whileAlive.1 ht
  split_ifs at hwrite
  · exact ⟨ha, by rw [hwrite.2]; rfl⟩
  · cases hwrite.1

theorem classifyTrap_cases {code : Int} (h : (classifyTrap code).Gives d (.ok event) d') :
    Classified d (.signal .sigtrap code) d' event := by
  unfold classifyTrap at h
  split_ifs at h with htrap hstep
  · obtain ⟨here, d₁, hpc, hback⟩ := gives_bind_ok.1 h
    obtain rfl := eq_of_gives_pc hpc
    rw [gives_inspect_bind] at hback
    split_ifs at hback with hc
    · obtain ⟨_, d₂, hset, hend⟩ := gives_bind_ok.1 hback
      obtain ⟨ha, rfl⟩ := eq_of_gives_setPc hset
      obtain ⟨⟨⟩, rfl⟩ := gives_pure.1 hend
      exact .hit ⟨setPc_pc, ha, hc⟩ rfl
    · rw [gives_log_bind, gives_pure] at hback
      obtain ⟨⟨⟩, rfl⟩ := hback
      exact .other (by simp) (by simp) rfl
  · obtain ⟨⟨⟩, rfl⟩ := gives_pure.1 h
    exact .other (by simp) (fun _ => by rw [hstep, stepReport]) rfl
  · rw [gives_log_bind, gives_pure] at h
    obtain ⟨⟨⟩, rfl⟩ := h
    exact .other (by simp) (by simp) rfl

theorem classify_cases {report : Report} (h : (classify report).Gives d (.ok event) d') :
    Classified d report d' event := by
  cases report with
  | signal signal code =>
    rw [classify, setState, gives_modify_bind] at h
    split_ifs at h with htrap
    · rw [htrap]
      cases classifyTrap_cases h with
      | hit hhit hmoved => exact .hit hhit hmoved
      | other hfree hstepped hsame => exact .other hfree hstepped hsame
    all_goals
      obtain ⟨⟨⟩, rfl⟩ := gives_pure.1 h
      exact .other (by simp) (by simp) rfl
  | _ =>
    rw [classify, markExited, gives_modify_bind, gives_pure] at h
    obtain ⟨⟨⟩, rfl⟩ := h
    exact .other (by simp) (by simp) rfl

/-- A request that was waited for has left a report behind. -/
theorem runAndWait_cases {act : Action Simulated Unit}
    (h : (runAndWait act).Gives d (.ok event) d') :
    ∃ p report, act.Gives d.tracee (.ok ()) p ∧ p.pending = some report ∧
      Classified { d with tracee := { p with pending := none }, state := .running } report d'
        event := by
  obtain ⟨_, d₁, hact, hwait⟩ := gives_bind_ok.1 h
  obtain ⟨p, hp, rfl⟩ := gives_request.1 hact
  rw [setState, gives_modify_bind, gives_waitForStop] at hwait
  obtain ⟨report, d₂, hw, hc⟩ := gives_bind_ok.1 hwait
  obtain ⟨t, ht, rfl⟩ := gives_request.1 hw
  obtain ⟨rfl, ⟨stop, hstop, ⟨⟩⟩ | ⟨-, ⟨⟩⟩⟩ := gives_takePending ht
  exact ⟨p, report, hp, hstop, classify_cases hc⟩

/-! ## Stepping -/

theorem runAndWait_hits {act : Action Simulated Unit}
    (h : (runAndWait act).Gives d (.ok (.hitBreakpoint a)) d') : Hit d' a := by
  obtain ⟨p, report, -, -, hc⟩ := runAndWait_cases h
  cases hc with
  | hit hhit => exact hhit
  | other hfree => exact absurd rfl (hfree a)

theorem singleStep_hits (h : singleStep.Gives d (.ok (.hitBreakpoint a)) d') : Hit d' a := by
  rw [gives_singleStep] at h
  split_ifs at h
  · exact runAndWait_hits h
  · cases h.1

theorem singleStep_honest (hd : d.tracee.Honest) (h : singleStep.Gives d (.ok event) d') :
    d'.tracee.Honest := by
  rw [gives_singleStep] at h
  split_ifs at h
  swap
  · cases h.1
  obtain ⟨p, report, hstep, -, hc⟩ := runAndWait_cases h
  have hp := gives_whileAlive.1 hstep
  split_ifs at hp
  swap
  · cases hp.1
  obtain ⟨-, rfl⟩ := hp
  cases hc with
  | hit _ hmoved => exact hmoved ▸ hd.stepOnce.setPc _
  | other _ _ hsame => exact hsame ▸ hd.stepOnce

/-- What stepping over a breakpoint can do: nothing, or one step while the byte under
    the breakpoint is back. -/
theorem stepOverBreakpoint_cases (hd : d.Settled) {o : Option StopEvent}
    (h : stepOverBreakpoint.Gives d (.ok o) d') :
    (o = none ∧ d' = d) ∨ ∃ here v event d₁, o = some event ∧ d.breakpoints.saved? here = some v ∧
      singleStep.Gives (d.patch here v (d.breakpoints.put ⟨here, none⟩)) (.ok event) d₁ ∧
      d' = if d₁.isAlive then d₁.patch here trapByte d.breakpoints else d₁ := by
  generalize hr : Except.ok o = r at h
  cases gives_stepOverBreakpoint.1 h with
  | unread => cases hr
  | absent hpc => exact Or.inl ⟨Except.ok.inj hr, eq_of_gives_pc hpc⟩
  | stuck => cases hr
  | @gone _ _ _ r _ hpc hen hdis hstep hdead =>
    obtain rfl := eq_of_gives_pc hpc
    obtain ⟨v, hv, -, rfl⟩ := disableAt_settled hd hen hdis
    rcases r with _ | event
    · cases hr
    · exact Or.inr ⟨_, v, event, d', Except.ok.inj hr, hv, hstep, (if_neg hdead).symm⟩
  | @survived _ _ _ d₃ r _ _ hpc hen hdis hstep ha' henable =>
    obtain rfl := eq_of_gives_pc hpc
    obtain ⟨v, hv, -, rfl⟩ := disableAt_settled hd hen hdis
    obtain ⟨hgives, -⟩ := enableAt_again hd hv hstep ha'
    obtain ⟨rfl, rfl⟩ := henable.unique hgives
    rcases r with _ | event
    · cases hr
    · exact Or.inr ⟨_, v, event, d₃, Except.ok.inj hr, hv, hstep, (if_pos ha').symm⟩

section
variable (hd : d.Settled)
include hd

theorem stepOverBreakpoint_hits
    (h : stepOverBreakpoint.Gives d (.ok (some (.hitBreakpoint a))) d') : Hit d' a := by
  obtain ⟨⟨⟩, -⟩ | ⟨here, v, event, d₁, ⟨⟩, hv, hstep, rfl⟩ := stepOverBreakpoint_cases hd h
  have hhit := singleStep_hits hstep
  obtain ⟨-, hb, -⟩ := singleStep_alive hstep hhit.alive
  have hknown := hhit.known
  rw [hb] at hknown
  rw [if_pos hhit.alive]
  have hhere : d.breakpoints.contains here :=
    BreakpointTable.contains_of_isEnabledAt (by rw [BreakpointTable.isEnabledAt_eq, hv]; rfl)
  exact ⟨hhit.pc, hhit.alive, contains_of_put hhere a hknown⟩

theorem stepOverBreakpoint_honest (hh : d.tracee.Honest) {o : Option StopEvent}
    (h : stepOverBreakpoint.Gives d (.ok o) d') : d'.tracee.Honest := by
  obtain ⟨-, rfl⟩ | ⟨here, v, event, d₁, -, -, hstep, rfl⟩ := stepOverBreakpoint_cases hd h
  · exact hh
  · have h₁ := singleStep_honest (hh.patch here v) hstep
    split_ifs
    · exact h₁.patch _ _
    · exact h₁

/-- **A breakpoint that was hit is where the debuggee stands.** -/
theorem continueExecution_hits (h : continueExecution.Gives d (.ok (.hitBreakpoint a)) d') :
    Hit d' a := by
  rw [gives_continueExecution] at h
  split_ifs at h
  swap
  · cases h.1
  cases h with
  | stopped hover => exact stepOverBreakpoint_hits hd hover
  | resumed _ _ hrun => exact runAndWait_hits hrun

/-- A process that runs on reports no step. -/
theorem continueExecution_ne_stepped (hh : d.tracee.Honest) :
    ¬ continueExecution.Gives d (.ok .stepped) d' := by
  intro h
  rw [gives_continueExecution] at h
  split_ifs at h
  swap
  · cases h.1
  cases h with
  | stopped _ hne => exact hne rfl
  | resumed hover _ hrun =>
    have h₁ := stepOverBreakpoint_honest hd hh hover
    obtain ⟨p, report, hresume, hpending, hc⟩ := runAndWait_cases hrun
    have hp := gives_whileAlive.1 hresume
    split_ifs at hp
    swap
    · cases hp.1
    obtain ⟨-, rfl⟩ := hp
    cases hc with
    | other _ hstepped => exact (h₁.run runLimit).pending (hpending.trans (by rw [hstepped rfl]))

end

end Debuggee

/-! ## Running to candidates -/

namespace Session

open Debuggee Simulated

variable {s s' : Session Simulated} {stops : List Addr}

theorem relabel_eq_stepped {added : List Addr} {event : StopEvent}
    (h : relabel added event = .stepped) :
    event = .stepped ∨ ∃ a ∈ added, event = .hitBreakpoint a := by
  unfold relabel at h
  split at h
  · rename_i a
    split_ifs at h with ha
    exact Or.inr ⟨a, ha, rfl⟩
  · exact Or.inl h

/-- **A run to candidates that ends as a step is at one of them.** -/
theorem runTo_stepped (hd : s.debuggee.Settled) (ha : s.debuggee.isAlive)
    (hp : s.debuggee.tracee.isAlive) (hh : s.debuggee.tracee.Honest)
    (h : (runTo stops).Gives s (.ok .stepped) s') : s'.debuggee.tracee.pc ∈ stops := by
  generalize hr : Except.ok StopEvent.stepped = r at h
  cases gives_runTo h with
  | failed => cases hr
  | @arrived added s₁ s₂ s₃ _ event shown hadd hrun hremove hpresent =>
    rcases shown with _ | _
    · cases hr
    obtain ⟨added', _, ⟨⟩, he, hadded⟩ := gives_addTemporary hadd (.refl hd ha)
    obtain ⟨d₂, hcont, rfl⟩ := gives_onDebuggee.1 hrun
    have hh₁ : s₁.debuggee.tracee.Honest := by
      rw [eq_of_rest hadded.rest]
      exact ⟨hh.trapCode, hh.faults, hh.pending⟩
    have hsteady := continueExecution_steady.gives hcont
    obtain ⟨d₃, hgives, hd₃⟩ :=
      removeTemporary_gives (s := { s₁ with debuggee := d₂ }) (he.steady hsteady)
    obtain ⟨-, rfl⟩ := hremove.unique hgives
    obtain heq | ⟨a, hmem, rfl⟩ := relabel_eq_stepped (Except.ok.inj hr).symm
    · exact absurd (heq ▸ hcont) (continueExecution_ne_stepped he.settled hh₁)
    have hhit := continueExecution_hits he.settled hcont
    rw [if_pos hhit.alive] at hd₃
    obtain ⟨he₃, hrest⟩ := hd₃
    have hshow := presentLocation_gives (s := { s₁ with debuggee := d₃ }) fun _ => he₃.process hp
    obtain ⟨-, rfl⟩ := hpresent.unique hshow
    have hpc : d₃.tracee.pc = d₂.tracee.pc := congrArg (fun d => d.tracee.pc) hrest
    show d₃.tracee.pc ∈ stops
    rw [hpc, hhit.pc]
    exact (hadded.stop a hmem).resolve_left List.not_mem_nil

end Session

end SourceDebugger
