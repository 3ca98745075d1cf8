/-
  What the operations of a session keep.  A session changes its debuggee and
  nothing else, and only by the operations of the debuggee; so a relation that
  these keep is kept by the commands.

  * `Debuggee.KeptByReading` and `Debuggee.KeptByMoving` collect what is to be
    known of the operations of the debuggee;
  * `Session.execute_keeps`, `Session.cleanup_keeps`: the commands that set no
    breakpoints for the user and write no memory, and the end of a session;
  * `Session.runTo_keeps`: running with temporary breakpoints.
-/
import SourceDebugger.Proofs.Debuggee
import SourceDebugger.Session

namespace SourceDebugger

open SourceDebugger.Action

/-! ## Operations of the debuggee -/

namespace Debuggee

variable {τ : Type} [Tracee τ]

/-- A relation that reading keeps. -/
structure KeptByReading (R : Debuggee τ → Debuggee τ → Prop) : Prop where
  readRegister (reg : Register) : (readRegister reg).Keeps R
  readMemory (a : Addr) : (readMemory a).Keeps R
  memoryMap : (requestAlive Tracee.memoryMap).Keeps R

/-- A relation that is kept by all but operations on breakpoints and memory. -/
structure KeptByMoving (R : Debuggee τ → Debuggee τ → Prop) : Prop extends KeptByReading R where
  writeRegister (reg : Register) (value : UInt64) : (writeRegister reg value).Keeps R
  stepInstruction : stepInstruction.Keeps R
  continueExecution : continueExecution.Keeps R
  kill : kill.Keeps R
  detachIn (order : List Addr) : (detachIn order).Keeps R

variable {R : Debuggee τ → Debuggee τ → Prop} [IsPreorder (Debuggee τ) R]

theorem KeptByReading.readRegisters (h : KeptByReading R) :
    ∀ regs, (readRegisters regs).Keeps R
  | [] => .pure _
  | reg :: regs => .bind (h.readRegister reg) fun _ => .bind (h.readRegisters regs) fun _ => .pure _

theorem KeptByReading.readDwarfRegister (h : KeptByReading R) (number : Nat) :
    (readDwarfRegister number).Keeps R := by
  unfold Debuggee.readDwarfRegister
  split
  · exact h.readRegister _
  · exact .fail _

theorem KeptByReading.readSized (h : KeptByReading R) (a : Addr) (size : UInt64) :
    (readSized a size).Keeps R := by
  unfold Debuggee.readSized
  split
  · exact .fail _
  · exact .bind (h.readMemory a) fun _ => .bind (.log _ _ _) fun _ => .pure _

end Debuggee

/-! ## Queries -/

namespace Resolver

variable {σ α : Type} {S : σ → σ → Prop} [IsPreorder σ S]

theorem found_keeps (what : String) (o : Option α) : (found what o : Action σ α).Keeps S := by
  cases o
  · exact .fail _
  · exact .pure _

theorem lineEntry_keeps (r : Resolver) (a : Addr) :
    (r.lineEntry a : Action σ LineEntry).Keeps S :=
  .bind (found_keeps _ _) fun _ => .bind (.log _ _ _) fun _ => .pure _

theorem functionContaining_keeps (r : Resolver) (a : Addr) :
    (r.functionContaining a : Action σ Function).Keeps S :=
  .bind (.log _ _ _) fun _ => found_keeps _ _

theorem bodyOf_keeps (r : Resolver) (name : String) :
    ∀ candidates, (r.bodyOf name candidates : Action σ Addr).Keeps S
  | [] => .fail _
  | (table, f) :: candidates => by
    unfold bodyOf
    split
    · exact .bind (.log _ _ _) fun _ => bodyOf_keeps r name candidates
    · exact .bind (.log _ _ _) fun _ => .pure _

theorem addressForLine_keeps (r : Resolver) (file : String) (line : UInt64) :
    (r.addressForLine file line : Action σ Addr).Keeps S :=
  .bind (found_keeps _ _) fun _ => .bind (.log _ _ _) fun _ => .pure _

end Resolver

/-! ## Operations of the session -/

namespace Session

variable {τ α : Type}

theorem ask_keeps {S : Session τ → Session τ → Prop} {query : Resolver → Action (Session τ) α}
    (h : ∀ r, (query r).Keeps S) : (ask query).Keeps S :=
  fun s => h s.resolver s

theorem gives_ask {query : Resolver → Action (Session τ) α} {s s' : Session τ}
    {r : Except Failure α} : (ask query).Gives s r s' ↔ (query s.resolver).Gives s r s' := Iff.rfl

theorem gives_onDebuggee {act : Action (Debuggee τ) α} {s s' : Session τ} {r : Except Failure α} :
    (onDebuggee act).Gives s r s' ↔
      ∃ d, act.Gives s.debuggee r d ∧ s' = { s with debuggee := d } :=
  gives_within

variable {R : Debuggee τ → Debuggee τ → Prop}

theorem onDebuggee_keeps {act : Action (Debuggee τ) α} (h : act.Keeps R) :
    (onDebuggee act).Keeps (InvImage R Session.debuggee) :=
  .within h fun _ _ hr => hr

variable [IsPreorder (Debuggee τ) R]

theorem locate_keeps (place : Place) : (locate place).Keeps (InvImage R Session.debuggee) := by
  cases place with
  | address a => exact .pure a
  | line file line => exact ask_keeps fun r => r.addressForLine_keeps file line
  | function name => exact ask_keeps fun r => r.bodyOf_keeps name _

variable [Tracee τ]

section
variable (hR : Debuggee.KeptByReading R)
include hR

theorem currentLine_keeps : currentLine.Keeps (InvImage R Session.debuggee) := by
  refine .bind (onDebuggee_keeps (hR.readRegister _)) fun here => ?_
  refine .bind (.attempt (ask_keeps fun r => r.lineEntry_keeps _)) fun entry => ?_
  cases entry <;> exact .pure _

theorem presentLocation_keeps : presentLocation.Keeps (InvImage R Session.debuggee) := by
  refine .bind (.inspect _) fun alive => ?_
  cases alive
  · exact .pure _
  refine .bind (currentLine_keeps hR) fun entry => ?_
  cases entry
  · exact .log _ _ _
  · exact .bind (.inspect _) fun _ => .tell _

theorem readMemory_keeps (a : Addr) (size : Option UInt64) :
    (readMemory a size).Keeps (InvImage R Session.debuggee) := by
  cases size
  · exact onDebuggee_keeps (hR.readMemory a)
  · exact onDebuggee_keeps (hR.readSized a _)

theorem returnAddress_keeps : returnAddress.Keeps (InvImage R Session.debuggee) := by
  refine .bind (onDebuggee_keeps (hR.readDwarfRegister _)) fun frame => ?_
  split
  · exact .fail _
  · exact .bind (onDebuggee_keeps (hR.readSized _ _)) fun _ => .bind (.log _ _ _) fun _ => .pure _

theorem describePlace_keeps : describePlace.Keeps (InvImage R Session.debuggee) := by
  refine .bind (onDebuggee_keeps (hR.readRegister _)) fun here => ?_
  refine .bind (currentLine_keeps hR) fun entry => ?_
  cases entry
  · refine .bind (onDebuggee_keeps hR.memoryMap) fun map => ?_
    split <;> exact .pure _
  · exact .pure _

theorem info_keeps : info.Keeps (InvImage R Session.debuggee) := by
  refine .bind (.inspect _) fun s => ?_
  dsimp only
  split_ifs
  · exact .bind (describePlace_keeps hR) fun _ => .bind (.pure _) fun _ => .pure _
  · exact .bind (.pure _) fun _ => .pure _

theorem stepFrom_keeps (hstep : Debuggee.stepInstruction.Keeps R) (start : Option SourceLocation) :
    ∀ limit, (stepFrom start limit).Keeps (InvImage R Session.debuggee)
  | 0 => .bind (presentLocation_keeps hR) fun _ => .pure _
  | limit + 1 => by
    refine .bind (onDebuggee_keeps hstep) fun event => ?_
    split_ifs
    · exact .bind (presentLocation_keeps hR) fun _ => .pure _
    refine .bind (currentLine_keeps hR) fun entry => ?_
    cases entry
    · exact stepFrom_keeps hstep start limit
    · dsimp only
      split_ifs
      · exact stepFrom_keeps hstep start limit
      · exact .bind (presentLocation_keeps hR) fun _ => .pure _

theorem stepIn_keeps (hstep : Debuggee.stepInstruction.Keeps R) :
    stepIn.Keeps (InvImage R Session.debuggee) :=
  .bind (currentLine_keeps hR) fun _ => .bind (.log _ _ _) fun _ => stepFrom_keeps hR hstep _ _

end

theorem setBreakpoint_keeps (hset : ∀ a, (Debuggee.setBreakpoint a).Keeps R) (place : Place) :
    (setBreakpoint place).Keeps (InvImage R Session.debuggee) :=
  .bind (locate_keeps place) fun a => .bind (onDebuggee_keeps (hset a)) fun _ => .pure _

/-! ## Temporary breakpoints -/

theorem addTemporary_keeps (hset : ∀ a, (Debuggee.setBreakpoint a).Keeps R) :
    ∀ stops added, (addTemporary added stops).Keeps (InvImage R Session.debuggee)
  | [], _ => .pure _
  | a :: stops, added => by
    refine .bind (.inspect _) fun there => ?_
    cases there
    · refine .bind (.attempt (onDebuggee_keeps (hset a))) fun r => ?_
      rcases r with e | _ | _
      · exact .pure _
      · exact addTemporary_keeps hset stops _
      · exact addTemporary_keeps hset stops _
    · exact addTemporary_keeps hset stops _

theorem removeEach_keeps (hremove : ∀ a, (Debuggee.removeBreakpoint a).Keeps R) :
    ∀ addrs, (removeEach addrs).Keeps (InvImage R Session.debuggee)
  | [] => .pure _
  | a :: addrs => .bind (onDebuggee_keeps (hremove a)) fun _ => removeEach_keeps hremove addrs

theorem removeTemporary_keeps (hremove : ∀ a, (Debuggee.removeBreakpoint a).Keeps R)
    (added : List Addr) : (removeTemporary added).Keeps (InvImage R Session.debuggee) := by
  refine .bind (.inspect _) fun alive => ?_
  cases alive
  · exact .pure _
  · exact .bind (removeEach_keeps hremove added) fun _ => .log _ _ _

/-- Runs, if the breakpoints for it could be set. -/
def runReady : Except Failure Unit → Action (Session τ) (Except Failure StopEvent)
  | .ok () => (onDebuggee Debuggee.continueExecution).attempt
  | .error e => pure (.error e)

/-- A hit of one of the temporary breakpoints `added` is a finished step. -/
def relabel (added : List Addr) : StopEvent → StopEvent
  | .hitBreakpoint a => if a ∈ added then .stepped else .hitBreakpoint a
  | event => event

theorem runTo_eq (stops : List Addr) : (runTo stops : Action (Session τ) StopEvent) = (do
    let (added, ready) ← addTemporary [] stops
    let result ← runReady ready
    let removed ← (removeTemporary added).attempt
    let event ← .ofExcept result
    .ofExcept removed
    presentLocation
    return relabel added event) := by
  refine bind_congr fun (added, ready) => ?_
  rcases ready with e | _
  all_goals
    refine bind_congr fun result => bind_congr fun removed => bind_congr fun event => ?_
    refine bind_congr fun _ => bind_congr fun _ => ?_
    cases event <;> rfl

/-- Adding stops at what cannot be set, without a failure of its own. -/
theorem addTemporary_succeeds {stops added : List Addr} {s s' : Session τ}
    {r : Except Failure (List Addr × Except Failure Unit)}
    (h : (addTemporary added stops).Gives s r s') : ∃ added' ready, r = .ok (added', ready) := by
  induction stops generalizing added s with
  | nil => exact ⟨_, _, (gives_pure.1 h).1⟩
  | cons a stops ih =>
    rw [addTemporary, gives_inspect_bind] at h
    split_ifs at h
    · exact ih h
    · obtain ⟨r₁, s₁, -, h₁⟩ := gives_attempt_bind.1 h
      rcases r₁ with e | _ | _
      · exact ⟨_, _, (gives_pure.1 h₁).1⟩
      · exact ih h₁
      · exact ih h₁

/-- How a run with temporary breakpoints ends. -/
inductive RanTo (stops : List Addr) (s : Session τ) :
    Except Failure StopEvent → Session τ → Prop where
  /-- The breakpoints could not all be set, or running or removing them
      failed. -/
  | failed {added : List Addr} {ready : Except Failure Unit} {s₁ s₂ s' : Session τ}
      {result : Except Failure StopEvent} {removed : Except Failure Unit} {e : Failure}
      (add : (addTemporary [] stops).Gives s (.ok (added, ready)) s₁)
      (run : (runReady ready).Gives s₁ (.ok result) s₂)
      (remove : (removeTemporary added).Gives s₂ removed s')
      (failure : (result.bind fun _ => removed) = .error e) : RanTo stops s (.error e) s'
  /-- The process stopped, and the place is shown. -/
  | arrived {added : List Addr} {s₁ s₂ s₃ s' : Session τ} {event : StopEvent}
      {shown : Except Failure Unit}
      (add : (addTemporary [] stops).Gives s (.ok (added, .ok ())) s₁)
      (run : (onDebuggee Debuggee.continueExecution).Gives s₁ (.ok event) s₂)
      (remove : (removeTemporary added).Gives s₂ (.ok ()) s₃)
      (present : presentLocation.Gives s₃ shown s') :
      RanTo stops s (shown.map fun _ => relabel added event) s'

theorem gives_runTo {stops : List Addr} {s s' : Session τ} {r : Except Failure StopEvent}
    (h : (runTo stops).Gives s r s') : RanTo stops s r s' := by
  rw [runTo_eq] at h
  obtain ⟨e, hadd, -⟩ | ⟨⟨added, ready⟩, s₁, hadd, h₁⟩ := gives_bind.1 h
  · obtain ⟨_, _, ⟨⟩⟩ := addTemporary_succeeds hadd
  obtain ⟨result, s₂, hrun, h₂⟩ : ∃ result s₂, (runReady ready).Gives s₁ (.ok result) s₂ ∧ _ := by
    obtain ⟨e, hrun, -⟩ | h₂ := gives_bind.1 h₁
    · rcases ready with e' | _
      · cases (gives_pure.1 hrun).1
      · obtain ⟨_, -, ⟨⟩⟩ := gives_attempt.1 hrun
    · exact h₂
  obtain ⟨removed, s₃, hremove, h₃⟩ := gives_attempt_bind.1 h₂
  obtain ⟨e, hresult, rfl⟩ | ⟨event, _, hresult, h₄⟩ := gives_bind.1 h₃
  · obtain ⟨he, rfl⟩ := gives_ofExcept.1 hresult
    exact .failed hadd hrun hremove (by rw [← he]; rfl)
  obtain ⟨he, rfl⟩ := gives_ofExcept.1 hresult
  obtain ⟨e, hremoved, rfl⟩ | ⟨_, _, hremoved, h₅⟩ := gives_bind.1 h₄
  · obtain ⟨he', rfl⟩ := gives_ofExcept.1 hremoved
    exact .failed hadd hrun hremove (by rw [← he, ← he']; rfl)
  obtain ⟨he', rfl⟩ := gives_ofExcept.1 hremoved
  obtain rfl := he
  obtain rfl := he'
  obtain ⟨shown, hshown, rfl⟩ := gives_map.1 h₅
  rcases ready with e' | _
  · cases (gives_pure.1 hrun).1
  · obtain ⟨_, hcont, ⟨⟩⟩ := gives_attempt.1 hrun
    exact .arrived hadd hcont hremove hshown

theorem runReady_keeps (hrun : Debuggee.continueExecution.Keeps R) :
    ∀ ready, (runReady ready).Keeps (InvImage R Session.debuggee)
  | .ok () => .attempt (onDebuggee_keeps hrun)
  | .error _ => .pure _

/-- What setting and removing breakpoints and running keep is kept by running
    with temporary breakpoints. -/
theorem runTo_keeps (hR : Debuggee.KeptByReading R)
    (hset : ∀ a, (Debuggee.setBreakpoint a).Keeps R)
    (hremove : ∀ a, (Debuggee.removeBreakpoint a).Keeps R)
    (hrun : Debuggee.continueExecution.Keeps R) (stops : List Addr) :
    (runTo stops).Keeps (InvImage R Session.debuggee) := by
  rw [runTo_eq]
  refine .bind (addTemporary_keeps hset stops []) fun (added, ready) => ?_
  refine .bind (runReady_keeps hrun ready) fun result => ?_
  refine .bind (.attempt (removeTemporary_keeps hremove added)) fun removed => ?_
  refine .bind (.ofExcept _) fun event => .bind (.ofExcept _) fun _ => ?_
  exact .bind (presentLocation_keeps hR) fun _ => .pure _

/-- Where `stepOver` wants to stop. -/
def nextStops : Action (Session τ) (List Addr) := do
  let here ← onDebuggee Debuggee.pc
  let static ← .inspect fun s => s.resolver.toStatic here
  let f ← ask (·.functionContaining static)
  let start ← ask (·.lineEntry static)
  let rows ← ask (·.functionLines f)
  let others := rows.filter fun e => e.address != start.address
  let targets ← .inspect fun s => others.map fun e => s.resolver.toRuntime e.address
  let stops := targets ++ [← returnAddress]
  .log .debug .engine
    ("step over from " ++ here.padded ++ ", " ++ Numeral.decimal stops.length ++
      " candidate stops")
  return stops

/-- Where `stepOut` wants to stop. -/
def callerStops : Action (Session τ) (List Addr) := do
  let a ← returnAddress
  .log .debug .engine ("step out to " ++ a.padded)
  return [a]

theorem stepOver_eq : (stepOver : Action (Session τ) StopEvent) = nextStops >>= runTo := by
  simp only [nextStops, bind_assoc, pure_bind]
  rfl

theorem stepOut_eq : (stepOut : Action (Session τ) StopEvent) = callerStops >>= runTo := by
  simp only [callerStops, bind_assoc, pure_bind]
  rfl

theorem nextStops_keeps (hR : Debuggee.KeptByReading R) :
    nextStops.Keeps (InvImage R Session.debuggee) := by
  refine .bind (onDebuggee_keeps (hR.readRegister _)) fun here => ?_
  refine .bind (.inspect _) fun static => ?_
  refine .bind (ask_keeps fun r => r.functionContaining_keeps _) fun f => ?_
  refine .bind (ask_keeps fun r => r.lineEntry_keeps _) fun start => ?_
  refine .bind (ask_keeps fun r => Resolver.found_keeps _ _) fun rows => ?_
  refine .bind (.inspect _) fun targets => .bind (returnAddress_keeps hR) fun a => ?_
  exact .bind (.log _ _ _) fun _ => .pure _

theorem callerStops_keeps (hR : Debuggee.KeptByReading R) :
    callerStops.Keeps (InvImage R Session.debuggee) :=
  .bind (returnAddress_keeps hR) fun _ => .bind (.log _ _ _) fun _ => .pure _

theorem stepOut_keeps (hR : Debuggee.KeptByReading R)
    (hrun : ∀ stops, (runTo stops).Keeps (InvImage R Session.debuggee)) :
    stepOut.Keeps (InvImage R Session.debuggee) := by
  rw [stepOut_eq]
  exact .bind (callerStops_keeps hR) hrun

theorem stepOver_keeps (hR : Debuggee.KeptByReading R)
    (hrun : ∀ stops, (runTo stops).Keeps (InvImage R Session.debuggee)) :
    stepOver.Keeps (InvImage R Session.debuggee) := by
  rw [stepOver_eq]
  exact .bind (nextStops_keeps hR) hrun

/-! ## Commands -/

/-- The commands with which the user changes breakpoints or memory. -/
def Patches : Command → Prop
  | .setBreakpoint _ | .deleteBreakpoint _ | .writeMemory _ _ => True
  | _ => False

/-- **What commands keep.**  All but those that patch keep what moving keeps,
    if running with temporary breakpoints does. -/
theorem execute_keeps (hR : Debuggee.KeptByMoving R)
    (hrun : ∀ stops, (runTo stops).Keeps (InvImage R Session.debuggee)) {command : Command}
    (hc : ¬ Patches command) : (execute command).Keeps (InvImage R Session.debuggee) := by
  have hread := hR.toKeptByReading
  have hpresent := presentLocation_keeps hread
  refine .bind (.log _ _ _) fun _ => ?_
  cases command with
  | «continue» =>
    exact .bind (.bind (onDebuggee_keeps hR.continueExecution) fun _ =>
      .bind hpresent fun _ => .pure _) fun _ => .pure _
  | setBreakpoint | deleteBreakpoint | writeMemory => exact absurd trivial hc
  | dumpRegisters => exact .bind (onDebuggee_keeps (hread.readRegisters _)) fun _ => .pure _
  | readRegister reg => exact .bind (onDebuggee_keeps (hread.readRegister _)) fun _ => .pure _
  | writeRegister reg value =>
    refine .bind (.bind (onDebuggee_keeps (hR.writeRegister _ _)) fun _ => ?_) fun _ => .pure _
    split_ifs
    · exact hpresent
    · exact .pure _
  | readMemory a size => exact .bind (readMemory_keeps hread a size) fun _ => .pure _
  | stepIn => exact .bind (stepIn_keeps hread hR.stepInstruction) fun _ => .pure _
  | stepInstruction =>
    exact .bind (.bind (onDebuggee_keeps hR.stepInstruction) fun _ =>
      .bind hpresent fun _ => .pure _) fun _ => .pure _
  | stepOver => exact .bind (stepOver_keeps hread hrun) fun _ => .pure _
  | stepOut => exact .bind (stepOut_keeps hread hrun) fun _ => .pure _
  | findSymbols name => exact .bind (.inspect _) fun _ => .pure _
  | info => exact .bind (info_keeps hread) fun _ => .pure _
  | maps => exact .bind (onDebuggee_keeps hread.memoryMap) fun _ => .pure _
  | kill => exact .bind (onDebuggee_keeps hR.kill) fun _ => .pure _
  | quit => exact .pure _

theorem cleanupIn_keeps (hR : Debuggee.KeptByMoving R) (order : List Addr) :
    (cleanupIn order).Keeps (InvImage R Session.debuggee) := by
  refine .bind (.inspect _) fun alive => ?_
  cases alive
  · exact .pure _
  refine .bind (.inspect _) fun policy => ?_
  cases policy
  · exact onDebuggee_keeps hR.kill
  · exact .bind (.log _ _ _) fun _ => onDebuggee_keeps (hR.detachIn order)

theorem cleanup_keeps (hR : Debuggee.KeptByMoving R) :
    cleanup.Keeps (InvImage R Session.debuggee) :=
  .bind (.inspect _) fun order => cleanupIn_keeps hR order

/-! ## Feedback -/

omit [Tracee τ] in
theorem gives_map_ne_failed {α : Type} {act : Action (Session τ) α} {f : α → Feedback}
    {e : Failure} {s s' : Session τ} (hf : ∀ a, f a ≠ .failed e) :
    ¬ (do return f (← act) : Action (Session τ) Feedback).Gives s (.ok (.failed e)) s' := by
  intro h
  obtain ⟨r, -, hr⟩ := gives_map.1 h
  rcases r with _ | a
  · cases hr
  · exact hf a (Except.ok.inj hr).symm

/-- No command that succeeds answers with a failure. -/
theorem execute_ok_ne_failed (c : Command) {e : Failure} {s s' : Session τ} :
    ¬ (execute c).Gives s (.ok (.failed e)) s' := by
  intro h
  replace h := gives_log_bind.1 h
  cases c with
  | quit => cases (gives_pure.1 h).1
  | _ => exact gives_map_ne_failed (by simp) h

end Session

end SourceDebugger
