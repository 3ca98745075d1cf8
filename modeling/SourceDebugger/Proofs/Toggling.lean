/-
  No breakpoint is enabled or disabled twice.  Failures leave entries of the
  table disabled, and one check stands in another function than the patch that
  it guards, with a step of the program in between; still the two errors for it
  never come out of a session.

  * `Observed.answered`: bounds in which they come from the tracee itself;
  * `Session.toggles_once`: no interaction ends with one of them, unless it was
    the tracee that answered with it.
-/
import SourceDebugger.Proofs.Bounds
import SourceDebugger.Proofs.Observed

namespace SourceDebugger

open SourceDebugger.Action

/-! ## Answers -/

namespace Observed

variable {τ α : Type}

/-- Whoever sees one of the two errors has it from the tracee. -/
def answered : Bounds (Observed τ) where
  fails e o := e.Redundant → ∃ c ∈ o.calls, c.answer = .error e
  tells _ := True

theorem observe_answered (request : Request) (act : Action τ α) (report? : α → Option Report) :
    answered.Confines (observe request act report?) := by
  refine fun o => ⟨fun {e} he _ => ?_, fun _ _ => trivial, fun he hr => ?_⟩
  · refine ⟨⟨o.tracee, request, (act o.tracee).result.map report?⟩, List.mem_concat_self, ?_⟩
    have hact : (act o.tracee).result = .error e := he
    rw [hact]
    rfl
  · obtain ⟨c, hc, hanswer⟩ := he hr
    exact ⟨c, List.mem_append_left _ hc, hanswer⟩

theorem answered_respected [Tracee τ] : (answered (τ := τ)).Respected where
  own _ hown hr := absurd hr hown
  log _ := trivial
  window _ := trivial
  readWord _ := observe_answered _ _ _
  writeWord _ _ := observe_answered _ _ _
  readRegister _ := observe_answered _ _ _
  writeRegister _ _ := observe_answered _ _ _
  resume := observe_answered _ _ _
  step := observe_answered _ _ _
  wait := observe_answered _ _ _
  memoryMap := observe_answered _ _ _
  kill := observe_answered _ _ _
  detach := observe_answered _ _ _

end Observed

/-! ## Sessions -/

namespace Session

variable {τ : Type} [Tracee τ]

/-- Observing changes no result. -/
theorem results_erased (s : Session (Observed τ)) (is : List Interaction) :
    (s.erased.exchanges is).map Exchange.result = (s.exchanges is).map Exchange.result := by
  induction is generalizing s with
  | nil => rfl
  | cons i is ih =>
    obtain ⟨hresult, hstate, -⟩ := perform_erased i s
    rw [exchanges, exchanges, List.map_cons, List.map_cons, hstate, ih, hresult]

/-- **The two errors come from the tracee,** if at all. -/
theorem answered_of_redundant {s : Session τ} {is : List Interaction} {x : Exchange τ}
    (hx : x ∈ s.exchanges is) {e : Failure} (he : x.result = .error e) (hr : e.Redundant) :
    ∃ c ∈ s.calls is, c.answer = .error e := by
  have hmem : .error e ∈ (s.observed.exchanges is).map Exchange.result := by
    rw [← results_erased]
    exact he ▸ List.mem_map_of_mem hx
  obtain ⟨y, hy, hresult⟩ := List.mem_map.1 hmem
  exact exchange_fails Observed.answered_respected hy hresult hr

/-- What succeeds does not give a failure back. -/
theorem perform_ok_ne_failed (i : Interaction) {s s' : Session τ} {e : Failure} :
    ¬ (perform i).Gives s (.ok (.failed e)) s' := by
  intro h
  cases i with
  | command c => exact execute_ok_ne_failed c h
  | _ =>
    obtain ⟨_, _, -, hend⟩ := gives_bind_ok.1 h
    cases (gives_pure.1 hend).1

theorem exchange_gives {s : Session τ} {is : List Interaction} {x : Exchange τ}
    (hx : x ∈ s.exchanges is) : x.result = (perform x.interaction x.before).result := by
  induction is generalizing s with
  | nil => cases hx
  | cons i is ih =>
    obtain rfl | hx := List.mem_cons.1 hx
    · rfl
    · exact ih hx

/-- Where the tracee does not answer with one of the errors, no feedback is about
    it. -/
theorem feedback_ne_failed {s : Session τ} {is : List Interaction} {e : Failure}
    (hr : e.Redundant) (answers : ∀ c ∈ s.calls is, c.answer ≠ .error e) {x : Exchange τ}
    (hx : x ∈ s.exchanges is) : Feedback.ofResult x.result ≠ .failed e := by
  intro hfailed
  rcases hresult : x.result with e' | feedback
  · rw [hresult] at hfailed
    obtain rfl := Feedback.failed.inj hfailed
    obtain ⟨c, hc, hanswer⟩ := answered_of_redundant hx hresult hr
    exact answers c hc hanswer
  · rw [hresult] at hfailed
    obtain rfl : feedback = .failed e := hfailed
    exact perform_ok_ne_failed x.interaction ⟨(exchange_gives hx).symm.trans hresult, rfl⟩

/-- **No breakpoint is enabled or disabled twice.**  Whatever the tracee answers
    and wherever it fails, as long as it does not answer with one of the two
    errors itself, no command, no cleanup and no detaching ends with one of
    them, from whatever table the session begins. -/
theorem toggles_once (s : Session τ) (is : List Interaction)
    (answers : ∀ c ∈ s.calls is, c.answer ≠ .error .breakpointAlreadyEnabled ∧
      c.answer ≠ .error .breakpointAlreadyDisabled) :
    ∀ x ∈ s.exchanges is,
      Feedback.ofResult x.result ≠ .failed .breakpointAlreadyEnabled ∧
        Feedback.ofResult x.result ≠ .failed .breakpointAlreadyDisabled := by
  intro x hx
  constructor
  · exact feedback_ne_failed (e := .breakpointAlreadyEnabled) trivial
      (fun c hc => (answers c hc).1) hx
  · exact feedback_ne_failed (e := .breakpointAlreadyDisabled) trivial
      (fun c hc => (answers c hc).2) hx

/-- A process with four instructions.  At the first one the trap cannot be put
    back after a step, at the third one the saved byte cannot be restored the
    first time. -/
def stubborn : Session Scripted :=
  fresh
    (Scripted.flow
      { memory := ({} : Memory).setBytes 0x1000 (List.replicate 16 0x90)
        registers := RegisterFile.zero.set .rip 0x1000
        rules := [
          { on := .writeWord, addr := some 0x1000, skip := 2, times := some 1 },
          { on := .writeWord, addr := some 0x1002, skip := 1, times := some 1 }] }
      [0x1000, 0x1001, 0x1002, 0x1003])
    ⟨⟨[], [], false⟩, 0⟩ { onExit := .detach }

/-- A breakpoint is left disabled, enabled again, stepped over and removed, and
    another one is enabled still when the process is let go a second time. -/
def stubbornCommands : List Interaction :=
  [.command (.setBreakpoint (.address 0x1000)), .command (.setBreakpoint (.address 0x1002)),
    .command .stepInstruction, .cleanup, .command (.setBreakpoint (.address 0x1000)),
    .command (.deleteBreakpoint 0x1000), .command .continue, .cleanup]

theorem toggles_once_stubborn :
    let left := (stubborn.after (stubbornCommands.take 4)).debuggee.breakpoints
    (left.contains 0x1000 ∧ ¬ left.isEnabledAt 0x1000 ∧ left.isEnabledAt 0x1002) ∧
      (∀ c ∈ stubborn.calls stubbornCommands, c.answer ≠ .error .breakpointAlreadyEnabled ∧
        c.answer ≠ .error .breakpointAlreadyDisabled) ∧
      ∀ x ∈ stubborn.exchanges stubbornCommands,
        Feedback.ofResult x.result ≠ .failed .breakpointAlreadyEnabled ∧
          Feedback.ofResult x.result ≠ .failed .breakpointAlreadyDisabled := by
  have answers : ∀ c ∈ stubborn.calls stubbornCommands,
      c.answer ≠ .error .breakpointAlreadyEnabled ∧
        c.answer ≠ .error .breakpointAlreadyDisabled := by
    decide +kernel
  exact ⟨by decide +kernel, answers, toggles_once stubborn stubbornCommands answers⟩

end Session

end SourceDebugger
