/-
  Sessions without a process.  Once it has exited, or was killed or detached,
  nothing changes any more and nothing is asked of the tracee.

  * `act.Idle s r`: begun in `s`, `act` gives `r`, changes nothing and shows
    nothing;
  * `Interaction.Declines`: the answers that are still given;
  * `Session.exited_terminal`: in a session whose process is gone every
    interaction is idle and gives such an answer.
-/
import SourceDebugger.Proofs.Protocol

namespace SourceDebugger

namespace Action

variable {σ τ α β : Type}

/-- Begun in `s`, `act` gives `r`, changes nothing and shows nothing. -/
structure Idle (act : Action σ α) (s : σ) (r : Except Failure α) : Prop where
  gives : act.Gives s r s
  windows : act.windows s = []

section
variable {act : Action σ α} {next : α → Action σ β} {s : σ}

theorem Idle.pure (a : α) : (Pure.pure a : Action σ α).Idle s (.ok a) := ⟨⟨rfl, rfl⟩, rfl⟩

theorem Idle.fail (e : Failure) : (fail e : Action σ α).Idle s (.error e) := ⟨⟨rfl, rfl⟩, rfl⟩

theorem Idle.inspect (f : σ → α) : (inspect f).Idle s (.ok (f s)) := ⟨⟨rfl, rfl⟩, rfl⟩

theorem Idle.log (level : LogLevel) (source : LogSource) (message : String) :
    (log level source message).Idle s (.ok ()) := ⟨⟨rfl, rfl⟩, rfl⟩

theorem Idle.bind {a : α} {r : Except Failure β} (h : act.Idle s (.ok a)) (hn : (next a).Idle s r) :
    (act >>= next).Idle s r := by
  refine ⟨h.gives.bind hn.gives, ?_⟩
  rw [windows_bind, h.windows, h.gives.1, h.gives.2]
  exact hn.windows

theorem Idle.bind_error {e : Failure} (h : act.Idle s (.error e)) :
    (act >>= next).Idle s (.error e) := by
  refine ⟨h.gives.bind_error, ?_⟩
  rw [windows_bind, h.windows, h.gives.1]
  rfl

theorem Idle.within {get : σ → τ} {put : τ → σ → σ} {act : Action τ α} {r : Except Failure α}
    (h : act.Idle (get s) r) (hput : put (get s) s = s) : (act.within get put).Idle s r :=
  ⟨gives_within.2 ⟨get s, h.gives, hput.symm⟩, h.windows⟩

end

end Action

open SourceDebugger.Action

/-! ## The debuggee -/

namespace Debuggee

variable {τ α : Type} {d : Debuggee τ} (hd : d.state = .exited)
include hd

theorem ensureAlive_idle :
    (ensureAlive : Action (Debuggee τ) Unit).Idle d (.error .processExited) := by
  have hdead : ¬ d.isAlive := by simp [isAlive_iff, hd]
  refine ⟨gives_ensureAlive.2 ⟨?_, rfl⟩, rfl⟩
  rw [if_neg hdead]

theorem requestAlive_idle (act : Action τ α) :
    (requestAlive act).Idle d (.error .processExited) := (ensureAlive_idle hd).bind_error

variable [Tracee τ]

theorem stepInstruction_idle : stepInstruction.Idle d (.error .processExited) :=
  .bind_error (.bind_error (requestAlive_idle hd _))

theorem readRegisters_idle {regs : List Register} (h : regs ≠ []) :
    (readRegisters regs).Idle d (.error .processExited) := by
  cases regs with
  | nil => exact absurd rfl h
  | cons reg regs => exact .bind_error (requestAlive_idle hd _)

theorem readSized_idle (a : Addr) (n : UInt64) :
    (readSized a n).Idle d (.error .processExited) ∨
      (readSized a n).Idle d (.error (.unsupportedSize n)) := by
  unfold readSized
  split
  · exact Or.inr (.fail _)
  · exact Or.inl (.bind_error (requestAlive_idle hd _))

end Debuggee

/-! ## Answers -/

/-- The answers that are given without a process.  Names and sizes are looked at
    first; what is known of the program can still be asked. -/
def Interaction.Declines : Interaction → Except Failure Feedback → Prop
  | .command (.setBreakpoint _), r =>
    r = .error .processExited ∨ ∃ what, r = .error (.symbolNotFound what)
  | .command (.readMemory _ _), r =>
    r = .error .processExited ∨ ∃ n, r = .error (.unsupportedSize n)
  | .command (.findSymbols _), r | .command .info, r | .command .quit, r =>
    ∃ feedback, r = .ok feedback
  | .cleanup, r => r = .ok .ok
  | .command _, r | .detach _, r => r = .error .processExited

namespace Resolver

variable {σ : Type} {s : σ} (r : Resolver)

/-- A function is found or not, and nothing is done. -/
theorem bodyOf_idle (name : String) : ∀ candidates, ∃ result,
    (r.bodyOf name candidates).Idle s result ∧
      ∀ e, result = .error e → ∃ what, e = .symbolNotFound what
  | [] => ⟨_, .fail _, fun _ h => ⟨_, (Except.error.inj h).symm⟩⟩
  | (table, f) :: candidates => by
    unfold bodyOf
    dsimp only
    split
    · obtain ⟨result, hbody, hresult⟩ := bodyOf_idle name candidates
      exact ⟨result, .bind (.log _ _ _) hbody, hresult⟩
    · exact ⟨_, .bind (.log _ _ _) (.pure _), nofun⟩

theorem addressForLine_idle (file : String) (line : UInt64) : ∃ result,
    (r.addressForLine file line).Idle s result ∧
      ∀ e, result = .error e → ∃ what, e = .symbolNotFound what := by
  unfold addressForLine
  dsimp only
  cases r.statementOn? file line with
  | none => exact ⟨_, .bind_error (.fail _), fun _ h => ⟨_, (Except.error.inj h).symm⟩⟩
  | some row => exact ⟨_, .bind (.pure _) (.bind (.log _ _ _) (.pure _)), nofun⟩

end Resolver

/-! ## Sessions -/

namespace Session

open Debuggee

variable {τ α : Type} {s : Session τ}

theorem onDebuggee_idle {act : Action (Debuggee τ) α} {r : Except Failure α}
    (h : act.Idle s.debuggee r) : (onDebuggee act).Idle s r := .within h rfl

theorem locate_idle (place : Place) : ∃ result, (locate place).Idle s result ∧
    ∀ e, result = .error e → ∃ what, e = .symbolNotFound what := by
  cases place with
  | address a => exact ⟨_, .pure a, nofun⟩
  | line file line =>
    obtain ⟨result, ⟨hg, hw⟩, hresult⟩ := s.resolver.addressForLine_idle (s := s) file line
    exact ⟨result, ⟨hg, hw⟩, hresult⟩
  | function name =>
    obtain ⟨result, ⟨hg, hw⟩, hresult⟩ :=
      s.resolver.bodyOf_idle (s := s) name (s.resolver.functionsNamed name)
    exact ⟨result, ⟨hg, hw⟩, hresult⟩

variable [Tracee τ]

section
variable (hs : s.debuggee.state = .exited)
include hs

theorem setBreakpoint_idle (place : Place) : ∃ result, (setBreakpoint place).Idle s result ∧
    (result = .error .processExited ∨ ∃ what, result = .error (.symbolNotFound what)) := by
  obtain ⟨r, hlocate, hr⟩ := locate_idle (s := s) place
  cases r with
  | error e =>
    obtain ⟨what, rfl⟩ := hr e rfl
    exact ⟨_, hlocate.bind_error, Or.inr ⟨what, rfl⟩⟩
  | ok a =>
    have hset : (onDebuggee (Debuggee.setBreakpoint a)).Idle s (.error .processExited) :=
      onDebuggee_idle (ensureAlive_idle hs).bind_error
    exact ⟨_, hlocate.bind hset.bind_error, Or.inl rfl⟩

theorem readMemory_idle (a : Addr) (size : Option UInt64) : ∃ result,
    (readMemory a size).Idle s result ∧
      (result = .error .processExited ∨ ∃ n, result = .error (.unsupportedSize n)) := by
  cases size with
  | none => exact ⟨_, onDebuggee_idle (requestAlive_idle hs _), Or.inl rfl⟩
  | some n =>
    obtain h | h := readSized_idle hs a n
    · exact ⟨_, onDebuggee_idle h, Or.inl rfl⟩
    · exact ⟨_, onDebuggee_idle h, Or.inr ⟨n, rfl⟩⟩

theorem info_idle : ∃ text, info.Idle s (.ok text) := by
  have hdead : ¬ s.debuggee.isAlive := by simp [isAlive_iff, hs]
  apply Exists.intro
  apply Idle.bind (.inspect _)
  dsimp only [id]
  rw [if_neg hdead]
  exact .bind (.pure _) (.pure _)

/-- Every command is refused or answered from what is known without the
    process. -/
theorem execute_idle (c : Command) : ∃ result, (execute c).Idle s result ∧
    (Interaction.command c).Declines result := by
  have hask {α : Type} (act : Action τ α) :
      (onDebuggee (requestAlive act)).Idle s (.error .processExited) :=
    onDebuggee_idle (requestAlive_idle hs act)
  have hguarded {α : Type} (next : Unit → Action (Debuggee τ) α) :
      (onDebuggee (ensureAlive >>= next)).Idle s (.error .processExited) :=
    onDebuggee_idle (ensureAlive_idle hs).bind_error
  have hstep : (onDebuggee Debuggee.stepInstruction).Idle s (.error .processExited) :=
    onDebuggee_idle (stepInstruction_idle hs)
  have hregs : (onDebuggee (Debuggee.readRegisters Register.all)).Idle s (.error .processExited) :=
    onDebuggee_idle (readRegisters_idle hs (by simp [Register.all]))
  -- what the first request that a command makes is answered, the command is
  have refused {α : Type} {act : Action (Session τ) α} {next : α → Action (Session τ) Feedback}
      {message : String} {e : Failure} (h : act.Idle s (.error e)) :
      (log .trace .engine message >>= fun _ => act >>= next).Idle s (.error e) :=
    .bind (.log _ _ _) h.bind_error
  cases c with
  | «continue» => exact ⟨_, refused (.bind_error (hguarded _)), rfl⟩
  | setBreakpoint place =>
    obtain ⟨r, hset, rfl | ⟨what, rfl⟩⟩ := setBreakpoint_idle hs place
    · exact ⟨_, refused hset, Or.inl rfl⟩
    · exact ⟨_, refused hset, Or.inr ⟨what, rfl⟩⟩
  | deleteBreakpoint a => exact ⟨_, refused (hguarded _), rfl⟩
  | dumpRegisters => exact ⟨_, refused hregs, rfl⟩
  | readRegister reg => exact ⟨_, refused (hask _), rfl⟩
  | writeRegister reg value => exact ⟨_, refused (.bind_error (hask _)), rfl⟩
  | readMemory a size =>
    obtain ⟨r, hread, rfl | ⟨n, rfl⟩⟩ := readMemory_idle hs a size
    · exact ⟨_, refused hread, Or.inl rfl⟩
    · exact ⟨_, refused hread, Or.inr ⟨n, rfl⟩⟩
  | writeMemory a value => exact ⟨_, refused (hask _), rfl⟩
  | stepIn => exact ⟨_, refused (.bind_error (.bind_error (hask _))), rfl⟩
  | stepInstruction => exact ⟨_, refused (.bind_error hstep), rfl⟩
  | stepOver => exact ⟨_, refused (.bind_error (hask _)), rfl⟩
  | stepOut => exact ⟨_, refused (.bind_error (.bind_error (hask _))), rfl⟩
  | findSymbols name => exact ⟨_, .bind (.log _ _ _) (.bind (.inspect _) (.pure _)), _, rfl⟩
  | info =>
    obtain ⟨text, hinfo⟩ := info_idle hs
    exact ⟨_, .bind (.log _ _ _) (hinfo.bind (.pure _)), _, rfl⟩
  | maps => exact ⟨_, refused (hask _), rfl⟩
  | kill => exact ⟨_, refused (onDebuggee_idle (.bind_error (requestAlive_idle hs _))), rfl⟩
  | quit => exact ⟨_, .bind (.log _ _ _) (.pure _), _, rfl⟩

theorem perform_idle (i : Interaction) :
    ∃ result, (perform i).Idle s result ∧ i.Declines result := by
  cases i with
  | command c => exact execute_idle hs c
  | cleanup =>
    have hdead : s.debuggee.isAlive = false := by simp [isAlive, hs]
    have hclean : (cleanup : Action (Session τ) Unit).Idle s (.ok ()) := by
      refine .bind (.inspect _) (.bind (.inspect _) ?_)
      rw [hdead]
      exact .pure ()
    exact ⟨_, hclean.bind (.pure _), rfl⟩
  | detach order =>
    exact ⟨_, .bind_error (onDebuggee_idle (ensureAlive_idle hs).bind_error), rfl⟩

/-- A session without a process stays what it is. -/
theorem after_exited (is : List Interaction) : s.after is = s ∧
    ∀ x ∈ s.exchanges is, x.before = s ∧ x.interaction.Declines x.result ∧
      (perform x.interaction).windows s = [] := by
  induction is with
  | nil => exact ⟨rfl, by simp [exchanges]⟩
  | cons i is ih =>
    obtain ⟨r, hidle, hr⟩ := perform_idle hs i
    rw [after, exchanges, hidle.gives.2, List.forall_mem_cons]
    exact ⟨ih.1, ⟨rfl, hidle.gives.1 ▸ hr, hidle.windows⟩, ih.2⟩

end

/-- **To have exited is final.**  Once the process has exited, or was killed or
    detached, the session is what it is after any interactions, without
    breakpoints; no more requests are made of the tracee, nothing is shown, and
    everything that needs the process is refused. -/
theorem exited_terminal (t : τ) (resolver : Resolver) (config : Config) {is : List Interaction}
    (exited : ((fresh t resolver config).after is).debuggee.state = .exited)
    (js : List Interaction) :
    let s := (fresh t resolver config).after is
    s.after js = s ∧ s.debuggee.breakpoints = .empty ∧ s.calls js = [] ∧
      ∀ x ∈ s.exchanges js, x.before = s ∧ x.interaction.Declines x.result ∧
        (perform x.interaction).windows s = [] := by
  intro s
  obtain ⟨hsame, hanswers⟩ := after_exited exited js
  refine ⟨hsame, ?_, ?_, hanswers⟩
  · have herased : ((fresh t resolver config).observed.after is).erased =
        (fresh t resolver config).after is := after_erased _ is
    have horderly := orderly_after (orderly_fresh t resolver config) is
    show ((fresh t resolver config).after is).debuggee.breakpoints = .empty
    rw [← herased] at exited ⊢
    exact horderly.bare exited
  · rw [calls, (after_exited (s := s.observed) exited js).1]
    rfl

/-- A killed process: nothing is left to continue, or to clean up. -/
theorem exited_terminal_killed :
    let s := (fresh vanishing ⟨⟨[], [], false⟩, 0⟩ {}).after
      [.command (.setBreakpoint (.address 0x1000)), .command .kill]
    let js := [.command .continue, .cleanup, .command .info]
    s.debuggee.state = .exited ∧ s.after js = s ∧ s.debuggee.breakpoints = .empty ∧
      s.calls js = [] ∧ ∀ x ∈ s.exchanges js, x.before = s ∧ x.interaction.Declines x.result ∧
        (perform x.interaction).windows s = [] := by
  have hexited : ((fresh vanishing ⟨⟨[], [], false⟩, 0⟩ {}).after
      [.command (.setBreakpoint (.address 0x1000)), .command .kill]).debuggee.state = .exited := by
    decide +kernel
  exact ⟨hexited, exited_terminal vanishing _ _ hexited _⟩

end Session

end SourceDebugger
