/-
  The requests that a session makes of its tracee.

  * `Observed τ` is a tracee that keeps a record of the requests made of it,
    each with the tracee it was made of and the answer;
  * `Session.calls`: the requests that a session makes in some interactions;
  * `Session.after_erased`, `Session.perform_erased`: with the record forgotten,
    a session with an observed tracee is the session itself.
-/
import SourceDebugger.Proofs.History
import SourceDebugger.Proofs.Mirrored
import SourceDebugger.Simulation.Scripted

namespace SourceDebugger

open SourceDebugger.Action

/-- A request that was made of a tracee. -/
structure Call (τ : Type) where
  /-- The tracee it was made of. -/
  before : τ
  request : Request
  /-- The answer; only waiting is answered by a report. -/
  answer : Except Failure (Option Report)

/-- A tracee with the requests made of it so far, the first one first. -/
structure Observed (τ : Type) where
  tracee : τ
  calls : List (Call τ) := []

namespace Observed

variable {τ α : Type}

/-- Makes a request of the tracee and records it. -/
def observe (request : Request) (act : Action τ α) (report? : α → Option Report := fun _ => none) :
    Action (Observed τ) α := fun o =>
  let out := act o.tracee
  ⟨out.result, ⟨out.state, o.calls ++ [⟨o.tracee, request, out.result.map report?⟩]⟩, out.events⟩

instance [Tracee τ] : Tracee (Observed τ) where
  pid o := Tracee.pid o.tracee
  executable? o := Tracee.executable? o.tracee
  readWord a := observe { primitive := .readWord, addr := some a } (Tracee.readWord a)
  writeWord a w := observe { primitive := .writeWord, addr := some a } (Tracee.writeWord a w)
  readRegister reg :=
    observe { primitive := .readRegister, register := some reg } (Tracee.readRegister reg)
  writeRegister reg value :=
    observe { primitive := .writeRegister, register := some reg } (Tracee.writeRegister reg value)
  resume := observe { primitive := .resume } Tracee.resume
  step := observe { primitive := .step } Tracee.step
  wait := observe { primitive := .wait } Tracee.wait some
  memoryMap := observe { primitive := .memoryMap } Tracee.memoryMap
  kill := observe { primitive := .kill } Tracee.kill
  detach := observe { primitive := .detach } Tracee.detach

/-- A request adds itself to the record. -/
theorem gives_observe {request : Request} {act : Action τ α} {report? : α → Option Report}
    {o o' : Observed τ} {r : Except Failure α} :
    (observe request act report?).Gives o r o' ↔
      ∃ t, act.Gives o.tracee r t ∧
        o' = ⟨t, o.calls ++ [⟨o.tracee, request, r.map report?⟩]⟩ := by
  constructor
  · rintro ⟨rfl, rfl⟩
    exact ⟨_, gives_self act o.tracee, rfl⟩
  · rintro ⟨t, ⟨rfl, rfl⟩, rfl⟩
    exact ⟨rfl, rfl⟩

/-- Nothing is taken from the record. -/
def Grows (o o' : Observed τ) : Prop := o.calls <+: o'.calls

instance : IsPreorder (Observed τ) Grows where
  refl o := List.prefix_refl o.calls
  trans _ _ _ h₁ h₂ := List.IsPrefix.trans h₁ h₂

theorem observe_grows (request : Request) (act : Action τ α) (report? : α → Option Report) :
    (observe request act report?).Keeps Grows :=
  fun o => List.prefix_append o.calls _

instance [Tracee τ] [QuietTracee τ] : QuietTracee (Observed τ) where
  readWord a o := QuietTracee.readWord a o.tracee
  writeWord a w o := QuietTracee.writeWord a w o.tracee
  readRegister reg o := QuietTracee.readRegister reg o.tracee
  writeRegister reg value o := QuietTracee.writeRegister reg value o.tracee
  resume o := QuietTracee.resume o.tracee
  step o := QuietTracee.step o.tracee
  wait o := QuietTracee.wait o.tracee
  memoryMap o := QuietTracee.memoryMap o.tracee
  kill o := QuietTracee.kill o.tracee

end Observed

namespace Session

variable {τ : Type}

/-- The session with an observed tracee. -/
def observed (s : Session τ) : Session (Observed τ) where
  debuggee := ⟨{ tracee := s.debuggee.tracee }, s.debuggee.breakpoints, s.debuggee.state⟩
  resolver := s.resolver
  config := s.config

/-- The session without the record. -/
def erased (s : Session (Observed τ)) : Session τ where
  debuggee := ⟨s.debuggee.tracee.tracee, s.debuggee.breakpoints, s.debuggee.state⟩
  resolver := s.resolver
  config := s.config

/-- The requests that are made of the tracee in some interactions. -/
def calls [Tracee τ] (s : Session τ) (is : List Interaction) : List (Call τ) :=
  (s.observed.after is).debuggee.tracee.calls

end Session

/-! ## Forgetting the record -/

section
variable (b : Breakpoint) (c : Command) (r : Resolver)

theorem Failure.shift_zero (e : Failure) : e.shift 0 = e := by
  cases e <;> simp [shift]

theorem Breakpoint.shift_zero : b.shift 0 = b := by
  simp [shift]

theorem Resolver.shift_zero : r.shift 0 = r := by
  simp [shift]

theorem Command.shift_zero : c.shift 0 = c := by
  rcases c with _ | (_ | _ | _) | _ <;> simp [shift]

theorem StopEvent.shift_zero : StopEvent.shift 0 = id := by
  funext event
  cases event <;> simp [shift]

theorem Feedback.shift_zero : Feedback.shift 0 = id := by
  funext feedback
  cases feedback <;> simp [shift, StopEvent.shift_zero, Failure.shift_zero]

theorem shiftResult_zero {α : Type} (r : Except Failure α) : shiftResult 0 id r = r := by
  cases r <;> simp [shiftResult, Failure.shift_zero]

theorem BreakpointTable.shifted_zero {t t' : BreakpointTable} (h : t.Shifted 0 t') : t' = t := by
  refine ext_get? fun a => ?_
  have ha := h a
  rw [UInt64.add_zero] at ha
  rw [ha, show Breakpoint.shift 0 = id from funext Breakpoint.shift_zero, Option.map_id, id]

end

namespace Observed

open Link

variable {τ α : Type}

/-- An observed tracee and the tracee itself. -/
def erasing : Link (Observed τ) τ where
  offset := 0
  rel o t := t = o.tracee
  clear _ := True

theorem add_erasing : (fun a : Addr => a + (erasing (τ := τ)).offset) = id :=
  funext UInt64.add_zero

theorem shift_erasing : Breakpoint.shift (erasing (τ := τ)).offset = id :=
  funext Breakpoint.shift_zero

theorem observe_mirrors {request : Request} {act : Action τ α} {report? : α → Option Report} :
    erasing.Mirrors id (observe request act report?) act where
  lasting _ _ := trivial
  result := by
    rintro o _ rfl -
    exact (shiftResult_zero _).symm
  state := by
    rintro o _ rfl -
    rfl
  windows := by
    rintro o _ rfl -
    rfl

/-- What is done with an observed tracee is done with the tracee. -/
theorem gives_erased {act : Action (Observed τ) α} {act' : Action τ α}
    (h : erasing.Mirrors id act act') {o o' : Observed τ} {r : Except Failure α}
    (hg : act.Gives o r o') : act'.Gives o.tracee r o'.tracee := by
  obtain ⟨rfl, rfl⟩ := hg
  exact ⟨(h.result rfl trivial).trans (shiftResult_zero _), h.state rfl trivial⟩

variable [Tracee τ]

theorem enable_mirrors (b : Breakpoint) :
    (erasing (τ := τ)).Mirrors id b.enable b.enable := by
  unfold Breakpoint.enable
  split_ifs
  · exact .fail _
  · refine .bind observe_mirrors fun _ => .bind (.log _ _ _ _) fun _ => ?_
    exact .bind (.log _ _ _ _) fun _ => .bind observe_mirrors fun _ => .pure _

theorem disable_mirrors (b : Breakpoint) :
    (erasing (τ := τ)).Mirrors id b.disable b.disable := by
  unfold Breakpoint.disable
  split
  · exact .fail _
  · refine .bind observe_mirrors fun _ => .bind (.log _ _ _ _) fun _ => ?_
    exact .bind (.log _ _ _ _) fun _ => .bind observe_mirrors fun _ => .pure _

theorem tracked : (erasing (τ := τ)).Tracked where
  readPc := by
    rw [add_erasing]
    exact observe_mirrors
  writePc a := by
    rw [show a + (erasing (τ := τ)).offset = a from UInt64.add_zero a]
    exact observe_mirrors
  enable b := by
    rw [shift_erasing]
    exact enable_mirrors b
  disable b := by
    rw [shift_erasing]
    exact disable_mirrors b
  resume := observe_mirrors
  step := observe_mirrors
  wait := observe_mirrors

/-! ### The debuggee -/

theorem readRegisters_mirrors : ∀ regs,
    (erasing (τ := τ)).debuggee.Mirrors id (Debuggee.readRegisters regs)
      (Debuggee.readRegisters regs)
  | [] => .pure _
  | _ :: regs => .bind (Debuggee.requestAlive_mirrors observe_mirrors) fun _ =>
    .bind (readRegisters_mirrors regs) fun _ => .pure _

theorem readDwarfRegister_mirrors (number : Nat) :
    (erasing (τ := τ)).debuggee.Mirrors id (Debuggee.readDwarfRegister number)
      (Debuggee.readDwarfRegister number) := by
  unfold Debuggee.readDwarfRegister
  split
  · exact Debuggee.requestAlive_mirrors observe_mirrors
  · exact .fail _

theorem readSized_mirrors (a : Addr) (size : UInt64) :
    (erasing (τ := τ)).debuggee.Mirrors id (Debuggee.readSized a size)
      (Debuggee.readSized a size) := by
  unfold Debuggee.readSized
  split
  · exact .fail _
  · exact .bind (Debuggee.requestAlive_mirrors observe_mirrors) fun _ =>
      .bind (.log _ _ _ _) fun _ => .pure _

theorem kill_mirrors :
    (erasing (τ := τ)).debuggee.Mirrors id Debuggee.kill Debuggee.kill :=
  .bind (Debuggee.requestAlive_mirrors observe_mirrors) fun _ => .bind (.log _ _ _ _) fun _ =>
    Debuggee.markExited_mirrors

theorem disableEach_mirrors : ∀ order,
    (erasing (τ := τ)).debuggee.Mirrors id (Debuggee.disableEach order)
      (Debuggee.disableEach order)
  | [] => .pure ()
  | a :: order => by
    have henabled : (erasing (τ := τ)).debuggee.Mirrors id
        (inspect fun d => d.breakpoints.isEnabledAt a)
        (inspect fun d => d.breakpoints.isEnabledAt a) :=
      .inspect fun h => by rw [BreakpointTable.shifted_zero h.2.2]; rfl
    have hdisable := Debuggee.disableAt_mirrors (tracked (τ := τ)) a
    rw [show a + (erasing (τ := τ)).offset = a from UInt64.add_zero a] at hdisable
    refine .bind henabled fun enabled => ?_
    cases enabled
    · exact disableEach_mirrors order
    · exact .bind hdisable fun _ => disableEach_mirrors order

theorem detachIn_mirrors (order : List Addr) :
    (erasing (τ := τ)).debuggee.Mirrors id (Debuggee.detachIn order) (Debuggee.detachIn order) :=
  .bind Debuggee.ensureAlive_mirrors fun _ => .bind (disableEach_mirrors order) fun _ =>
    .bind (Debuggee.request_mirrors observe_mirrors) fun _ => Debuggee.markExited_mirrors

/-! ### The session -/

variable {r : Resolver} {c : Config}

omit [Tracee τ] in
/-- Sessions correspond if one is the other without the record. -/
theorem erased_of_rel {s : Session (Observed τ)} {s' : Session τ}
    (h : ((erasing (τ := τ)).session r c).rel s s') : s' = s.erased := by
  obtain ⟨⟨t, table, state⟩, r', c'⟩ := s'
  obtain ⟨⟨ht, hs, hb⟩, ⟨rfl, hr⟩, rfl, hc⟩ := h
  obtain rfl := ht
  obtain rfl := hs
  obtain rfl := hc
  obtain rfl := BreakpointTable.shifted_zero hb
  obtain rfl := hr.trans (Resolver.shift_zero _)
  rfl

omit [Tracee τ] in
theorem rel_erased (s : Session (Observed τ)) :
    ((erasing (τ := τ)).session s.resolver s.config).rel s s.erased := by
  refine ⟨⟨rfl, rfl, fun a => ?_⟩, ⟨rfl, (Resolver.shift_zero _).symm⟩, rfl, rfl⟩
  rw [shift_erasing, Option.map_id]
  exact congrArg _ (UInt64.add_zero a)

theorem returnAddress_mirrors :
    ((erasing (τ := τ)).session r c).Mirrors id Session.returnAddress Session.returnAddress := by
  refine .bind (Session.onDebuggee_mirrors (readDwarfRegister_mirrors _)) fun frame => ?_
  dsimp only [id]
  split
  · have hfail := Mirrors.fail (L := (erasing (τ := τ)).session r c)
      (f := (id : Addr → Addr)) (.memoryAccess frame .efault)
    rwa [show ((erasing (τ := τ)).session r c).offset = 0 from rfl,
      Failure.shift_zero] at hfail
  · exact .bind (Session.onDebuggee_mirrors (readSized_mirrors _ _)) fun _ =>
      .bind (.log _ _ _ _) fun _ => .pure _

theorem maps_mirrors :
    ((erasing (τ := τ)).session r c).Mirrors id Session.maps Session.maps :=
  Session.onDebuggee_mirrors (Debuggee.requestAlive_mirrors observe_mirrors)

theorem info_mirrors :
    ((erasing (τ := τ)).session r c).Mirrors id Session.info Session.info := by
  have hpc : ((erasing (τ := τ)).session r c).Mirrors id (Session.onDebuggee Debuggee.pc)
      (Session.onDebuggee Debuggee.pc) :=
    Session.onDebuggee_mirrors (Debuggee.requestAlive_mirrors observe_mirrors)
  have hplace : ((erasing (τ := τ)).session r c).Mirrors id Session.describePlace
      Session.describePlace := by
    refine .bind hpc fun here => .bind (Session.currentLine_mirrors tracked) fun entry => ?_
    cases entry
    · refine .bind maps_mirrors fun map => ?_
      dsimp only [id]
      split <;> exact .pure _
    · exact .pure _
  refine .bind (f := Session.erased) (.inspect fun h => erased_of_rel h) fun s => ?_
  dsimp only
  rw [show s.erased.debuggee.isAlive = s.debuggee.isAlive from rfl]
  split_ifs
  · exact .bind hplace fun place => .bind (f := id) (.pure _) fun _ => .pure _
  · exact .bind (f := id) (.pure _) fun _ => .pure _

theorem execute_mirrors (command : Command) :
    ((erasing (τ := τ)).session r c).Mirrors id (Session.execute command)
      (Session.execute command) := by
  by_cases hc : command.Moves
  · have hret : ((erasing (τ := τ)).session r c).Mirrors (· + (erasing (τ := τ)).offset)
        Session.returnAddress Session.returnAddress := by
      rw [add_erasing]
      exact returnAddress_mirrors
    have hexec := Session.execute_mirrors tracked hret hc
    rwa [show (erasing (τ := τ)).offset = 0 from rfl, Feedback.shift_zero,
      Command.shift_zero] at hexec
  refine .bind (.log _ _ _ _) fun _ => ?_
  cases command with
  | dumpRegisters =>
    exact .map (Session.onDebuggee_mirrors (readRegisters_mirrors _)) fun _ => rfl
  | readRegister reg =>
    exact .map (Session.onDebuggee_mirrors (Debuggee.requestAlive_mirrors observe_mirrors))
      fun _ => rfl
  | writeRegister reg value =>
    refine .bind (f := id) (.bind (Session.onDebuggee_mirrors
      (Debuggee.requestAlive_mirrors observe_mirrors)) fun _ => ?_) fun _ => .pure _
    split_ifs
    · exact Session.presentLocation_mirrors tracked
    · exact .pure _
  | readMemory a size =>
    cases size with
    | none =>
      exact .map (Session.onDebuggee_mirrors (Debuggee.requestAlive_mirrors observe_mirrors))
        fun _ => rfl
    | some n => exact .map (Session.onDebuggee_mirrors (readSized_mirrors a n)) fun _ => rfl
  | writeMemory a value =>
    exact .bind (Session.onDebuggee_mirrors (Debuggee.requestAlive_mirrors observe_mirrors))
      fun _ => .pure _
  | findSymbols name =>
    refine .bind (f := id) (.inspect fun h => ?_) fun _ => .pure _
    rw [erased_of_rel h]
    rfl
  | info => exact .map info_mirrors fun _ => rfl
  | maps => exact .map maps_mirrors fun _ => rfl
  | kill => exact .bind (Session.onDebuggee_mirrors kill_mirrors) fun _ => .pure _
  | quit => exact .pure _
  | _ => exact absurd trivial hc

theorem cleanupIn_mirrors (order : List Addr) :
    ((erasing (τ := τ)).session r c).Mirrors id (Session.cleanupIn order)
      (Session.cleanupIn order) := by
  refine .bind Session.alive_mirrors fun alive => ?_
  cases alive
  · exact .pure ()
  have hpolicy : ((erasing (τ := τ)).session r c).Mirrors id (inspect fun s => s.config.onExit)
      (inspect fun s => s.config.onExit) := .inspect fun h => by rw [h.2.2.1, h.2.2.2]; rfl
  refine .bind hpolicy fun policy => ?_
  cases policy
  · exact Session.onDebuggee_mirrors kill_mirrors
  · exact .bind (.log _ _ _ _) fun _ => Session.onDebuggee_mirrors (detachIn_mirrors order)

theorem cleanup_mirrors :
    ((erasing (τ := τ)).session r c).Mirrors id Session.cleanup Session.cleanup := by
  have horder : ((erasing (τ := τ)).session r c).Mirrors id
      (inspect fun s => s.debuggee.breakpoints.addresses)
      (inspect fun s => s.debuggee.breakpoints.addresses) :=
    .inspect fun h => by rw [BreakpointTable.shifted_zero h.1.2.2]; rfl
  exact .bind horder fun order => cleanupIn_mirrors order

theorem perform_mirrors : ∀ i : Interaction,
    ((erasing (τ := τ)).session r c).Mirrors id (Session.perform i) (Session.perform i)
  | .command c => execute_mirrors c
  | .cleanup => .bind cleanup_mirrors fun _ => .pure _
  | .detach order => .bind (Session.onDebuggee_mirrors (detachIn_mirrors order)) fun _ => .pure _

end Observed

namespace Session

open Observed

variable {τ : Type} [Tracee τ]

/-- An interaction gives the same with an observed tracee. -/
theorem perform_erased (i : Interaction) (s : Session (Observed τ)) :
    (perform i s.erased).result = (perform i s).result ∧
      (perform i s.erased).state = (perform i s).state.erased ∧
      (perform i).windows s.erased = (perform i).windows s := by
  have h := perform_mirrors (r := s.resolver) (c := s.config) (τ := τ) i
  refine ⟨?_, erased_of_rel (h.state (rel_erased s) trivial), h.windows (rel_erased s) trivial⟩
  exact (h.result (rel_erased s) trivial).trans (shiftResult_zero _)

/-- **Observing changes nothing.** -/
theorem after_erased (s : Session (Observed τ)) (is : List Interaction) :
    (s.after is).erased = s.erased.after is := by
  induction is generalizing s with
  | nil => rfl
  | cons i is ih =>
    rw [after, after, ih, (perform_erased i s).2.1]

/-- The debug information and the settings stay what they are. -/
theorem perform_constant (i : Interaction) (s : Session τ) :
    (perform i s).state.resolver = s.resolver ∧ (perform i s).state.config = s.config := by
  have h := (perform_mirrors (r := s.resolver) (c := s.config) i).state
    (rel_erased s.observed) trivial
  exact ⟨h.2.1.2.trans (Resolver.shift_zero _), h.2.2.2⟩

end Session

end SourceDebugger
