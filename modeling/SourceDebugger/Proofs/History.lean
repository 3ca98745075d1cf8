/-
  Sessions as sequences of interactions.

  * `Session.fresh` is a session as `attach` begins it, `Session.after` the one
    that is reached by a list of interactions;
  * `Session.exchanges` records them with their results, so that what the user
    asked for can be read off: `Session.written` is the memory with the words
    that were written, `Session.chosen` the addresses at which the user has
    breakpoints;
  * `Session.invariant_after` is the induction over all of them.
-/
import Mathlib.Data.Set.Insert
import SourceDebugger.Proofs.Session
import SourceDebugger.Simulation.Memory

namespace SourceDebugger

open SourceDebugger.Action

/-- What is done with a session. -/
inductive Interaction where
  /-- A command, be it that it fails. -/
  | command (command : Command)
  /-- Killing or detaching by the settings. -/
  | cleanup
  /-- Detaching, with the saved bytes restored in this order. -/
  | detach (order : List Addr)
  deriving DecidableEq

namespace Session

variable {τ : Type}

/-- A session with a stopped tracee and without breakpoints. -/
def fresh (tracee : τ) (resolver : Resolver) (config : Config) : Session τ :=
  ⟨{ tracee }, resolver, config⟩

variable [Tracee τ]

/-- Sessions begin so. -/
theorem attach_fresh {info : DebugInfo} {config : Config} {t t' : τ} {s : Session τ}
    (h : (attach info config).Gives t (.ok s) t') :
    ∃ loadAddress, s = fresh t' ⟨info, loadAddress⟩ config := by
  rcases gives_bind.1 h with ⟨e, -, he⟩ | ⟨loadAddress, t₁, -, h₁⟩
  · cases he
  rw [gives_inspect_bind, gives_log_bind, gives_inspect] at h₁
  obtain ⟨hs, rfl⟩ := h₁
  exact ⟨loadAddress, Except.ok.inj hs⟩

/-- Does what is asked for. -/
def perform : Interaction → Action (Session τ) Feedback
  | .command command => execute command
  | .cleanup => do
    cleanup
    return .ok
  | .detach order => do
    onDebuggee (Debuggee.detachIn order)
    return .ok

/-- An interaction, what it found and what it gave. -/
structure Exchange (τ : Type) where
  before : Session τ
  interaction : Interaction
  result : Except Failure Feedback

/-- The session after some interactions. -/
def after (s : Session τ) : List Interaction → Session τ
  | [] => s
  | i :: is => after (perform i s).state is

theorem after_append (s : Session τ) (is js : List Interaction) :
    s.after (is ++ js) = (s.after is).after js := by
  induction is generalizing s with
  | nil => rfl
  | cons i is ih => exact ih _

def exchanges (s : Session τ) : List Interaction → List (Exchange τ)
  | [] => []
  | i :: is => ⟨s, i, (perform i s).result⟩ :: exchanges (perform i s).state is

/-! ## What the user asked for -/

/-- A word that was written is in memory. -/
def Exchange.write (m : Memory) (x : Exchange τ) : Memory :=
  match x.interaction, x.result with
  | .command (.writeMemory a value), .ok _ => m.setWord a value
  | _, _ => m

/-- The memory `m` with all words that were written. -/
def written (m : Memory) (xs : List (Exchange τ)) : Memory := xs.foldl Exchange.write m

/-- A breakpoint that was set is wanted until it is deleted. -/
def Exchange.choose (user : Set Addr) (x : Exchange τ) : Set Addr :=
  match x.interaction, x.result with
  | .command (.setBreakpoint _), .ok (.breakpointSet a) => insert a user
  | .command (.deleteBreakpoint a), .ok _ => user \ {a}
  | _, _ => user

/-- The addresses at which the user has set a breakpoint and not deleted it
    again. -/
def chosen (xs : List (Exchange τ)) : Set Addr := xs.foldl Exchange.choose ∅

/-! ## Invariants -/

/-- **What every interaction keeps holds after all of them.**  `P` may speak
    of a value that is read off the exchanges, and `A` be what the user promises
    for each. -/
theorem invariant_after {γ : Type} {P : γ → Session τ → Prop} {g : γ → Exchange τ → γ}
    {A : Exchange τ → Prop}
    (hstep : ∀ c s i r s', P c s → (perform i).Gives s r s' → A ⟨s, i, r⟩ → P (g c ⟨s, i, r⟩) s')
    {c : γ} {s : Session τ} (h : P c s) {is : List Interaction}
    (hA : ∀ x ∈ exchanges s is, A x) : P ((exchanges s is).foldl g c) (after s is) := by
  induction is generalizing c s with
  | nil => exact h
  | cons i is ih =>
    obtain ⟨hi, his⟩ := List.forall_mem_cons.1 hA
    exact ih (hstep c s i _ _ h (gives_self (perform i) s) hi) his

section
variable {R : Debuggee τ → Debuggee τ → Prop} [IsPreorder (Debuggee τ) R]

/-- What moving keeps is kept by interactions that do not patch. -/
theorem perform_keeps (hR : Debuggee.KeptByMoving R)
    (hrun : ∀ stops, (runTo stops).Keeps (InvImage R Session.debuggee)) {i : Interaction}
    (hi : ∀ c, i = .command c → ¬ Patches c) :
    (perform i).Keeps (InvImage R Session.debuggee) := by
  cases i with
  | command c => exact execute_keeps hR hrun (hi c rfl)
  | cleanup => exact .bind (cleanup_keeps hR) fun _ => .pure _
  | detach order => exact .bind (onDebuggee_keeps (hR.detachIn order)) fun _ => .pure _

/-- What moving and patching keep is kept by every interaction. -/
theorem perform_keeps_each (hR : Debuggee.KeptByMoving R) (hP : Debuggee.KeptByPatching R)
    (hwrite : ∀ a value, (Debuggee.writeMemory a value).Keeps R) (i : Interaction) :
    (perform i).Keeps (InvImage R Session.debuggee) := by
  by_cases hp : ∃ c, i = .command c ∧ Patches c
  · obtain ⟨c, rfl, hc⟩ := hp
    refine .bind (.log _ _ _) fun _ => ?_
    cases c with
    | setBreakpoint place =>
      exact .bind (setBreakpoint_keeps hP.setBreakpoint place) fun _ => .pure _
    | deleteBreakpoint a => exact .bind (onDebuggee_keeps (hP.removeBreakpoint a)) fun _ => .pure _
    | writeMemory a value => exact .bind (onDebuggee_keeps (hwrite a value)) fun _ => .pure _
    | _ => cases hc
  · refine perform_keeps hR (fun stops => ?_) fun c hc hpc => hp ⟨c, hc, hpc⟩
    exact runTo_keeps hR.toKeptByReading hP.setBreakpoint hP.removeBreakpoint
      hR.continueExecution stops

end

/-- What every interaction keeps is kept by all of them. -/
theorem after_keeps {R : Session τ → Session τ → Prop} [IsPreorder (Session τ) R]
    (hR : ∀ i, (perform i).Keeps R) (s : Session τ) (is : List Interaction) : R s (s.after is) := by
  induction is generalizing s with
  | nil => exact refl_of R s
  | cons i is ih => exact trans_of R (hR i s) (ih _)

end Session

end SourceDebugger
