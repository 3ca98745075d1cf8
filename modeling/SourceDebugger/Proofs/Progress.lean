/-
  What a breakpoint changes of the instruction under it.  To step over a
  breakpoint is to execute the instruction of the program itself, unless that is
  a trap, which is then taken for the trap of the breakpoint.

  * `Simulated.effect`: the event and the registers after an instruction that
    begins with a given byte;
  * `Debuggee.stepInstruction_effect`: one step does what the program itself
    does, unless the debuggee is `Caught`;
  * `Session.stepInstruction_bare`: so it is with a session without
    breakpoints;
  * `Session.caught_after`: a debuggee that is caught stays where it is.
-/
import SourceDebugger.Proofs.Stops
import SourceDebugger.Proofs.Writing

namespace SourceDebugger

open SourceDebugger.Action

namespace Simulated

variable {p : Simulated}

/-- The event and the registers after the instruction at the program counter, if
    its first byte is `byte`. -/
def effect (p : Simulated) (byte : Option UInt8) : StopEvent × RegisterFile :=
  if byte = some trapByte then (.otherTrap p.trapCode, p.registers.set .rip (p.pc + 1))
  else
    match p.faults[p.pc]?, p.successors[p.pc]? with
    | none, some next => (.stepped, p.registers.set .rip next)
    | _, _ => (p.eventAt p.pc, p.registers)

end Simulated

namespace Debuggee

open Simulated

variable {d d' d₀ : Debuggee Simulated} {a : Addr} {v : UInt8}

/-! ## One instruction -/

/-- What is reported of the instruction that a step executes is classified. -/
theorem singleStep_gives {o : Option Report} {q : Simulated} {r : Except Failure StopEvent}
    (hd : d.isAlive) (hp : d.tracee.isAlive) (hexec : d.tracee.execute = (o, q))
    (hc : (classify (o.getD (.signal .sigtrap traceCode))).Gives
      { d with tracee := { q with pending := none }, state := .running } r d') :
    singleStep.Gives d r d' := by
  rw [gives_singleStep, if_pos hd]
  refine runAndWait_gives (q := q) (gives_whileAlive.2 ?_) hc
  rw [if_pos hp, stepOnce, hexec]
  cases o <;> exact ⟨rfl, rfl⟩

/-- Behind a trap that is no breakpoint the program counter stays. -/
theorem classify_foreign_trap {code : Int} (hcode : code = kernelCode ∨ code = breakpointCode)
    (hp : d.tracee.isAlive) (hpc : d.tracee.pc = a + 1) (hc : ¬ d.breakpoints.contains a) :
    (classify (.signal .sigtrap code)).Gives d (.ok (.otherTrap code))
      { d with state := .stopped } := by
  refine gives_modify_bind.2 ?_
  rw [if_pos rfl, classifyTrap, if_pos hcode]
  refine (pc_gives (d := { d with state := .stopped }) rfl hp).bind ?_
  have hback : d.tracee.pc - trapWidth = a := by
    rw [hpc]
    exact UInt64.add_sub_cancel a 1
  rw [gives_inspect_bind, hback, if_neg hc, gives_log_bind]
  exact gives_pure.2 ⟨rfl, rfl⟩

/-- A step has the effect of the instruction that is in memory, if that is not
    the trap of a breakpoint. -/
theorem singleStep_effect (hd : d.isAlive) (hp : d.tracee.isAlive)
    (hconv : d.tracee.Conventional)
    (hc : d.memory.get? d.tracee.pc = some trapByte → ¬ d.BreaksAt d.tracee.pc) :
    ∃ event d', singleStep.Gives d (.ok event) d' ∧
      (event, d'.tracee.registers) = d.tracee.effect (d.memory.get? d.tracee.pc) ∧
      d'.isAlive = !event.isTerminal := by
  have hbyte : d.memory.get? d.tracee.pc = d.tracee.memory.get? d.tracee.pc := rfl
  rcases hexec : d.tracee.execute with ⟨o, q⟩
  unfold effect
  cases executed hexec with
  | trapped byte =>
    rw [← hbyte] at byte
    refine ⟨_, _, singleStep_gives hd hp hexec
      (classify_foreign_trap hconv.trapCode hp setPc_pc (hc byte)), ?_, rfl⟩
    rw [if_pos byte]
    rfl
  | @faulted signal code byte fault =>
    have hsignal : signal ≠ .sigtrap := fun h => hconv.faults _ code (h ▸ fault)
    refine ⟨_, _, singleStep_gives hd hp hexec (classify_fault hsignal code), ?_, ?_⟩
    · rw [hbyte, if_neg byte, fault, eventAt, fault]
    · split_ifs <;> rfl
  | moved byte plain successor =>
    refine ⟨_, _, singleStep_gives hd hp hexec classify_stepped, ?_, rfl⟩
    rw [hbyte, if_neg byte, plain, successor]
    rfl
  | ended byte plain last =>
    refine ⟨_, _, singleStep_gives hd hp hexec (classify_exited _), ?_, rfl⟩
    rw [hbyte, if_neg byte, plain, last, eventAt, plain]

/-! ## One step -/

/-- Under the breakpoint at the program counter the program itself has a trap. -/
def OnOwnTrap (d : Debuggee Simulated) : Prop :=
  d.BreaksAt d.tracee.pc ∧ d.ownByte d.tracee.pc = some trapByte

instance (d : Debuggee Simulated) : Decidable d.OnOwnTrap := inferInstanceAs (Decidable (_ ∧ _))

theorem stepInstruction_over {event : StopEvent}
    (h : stepOverBreakpoint.Gives d (.ok (some event)) d') :
    stepInstruction.Gives d (.ok event) d' :=
  h.bind (gives_pure.2 ⟨rfl, rfl⟩)

/-- **A breakpoint does not change what a step does,** if the program itself has
    no trap there. -/
theorem stepInstruction_effect (hd : d.Settled) (ha : d.isAlive) (hp : d.tracee.isAlive)
    (hconv : d.tracee.Conventional) (hc : ¬ d.OnOwnTrap) :
    ∃ event d', stepInstruction.Gives d (.ok event) d' ∧
      (event, d'.tracee.registers) = d.tracee.effect (d.ownByte d.tracee.pc) ∧
      d'.isAlive = !event.isTerminal := by
  have hpc := pc_gives ha hp
  by_cases hb : d.BreaksAt d.tracee.pc
  · have hen := hd.enabled _ hb
    obtain ⟨v, hv⟩ := BreakpointTable.exists_saved? hen
    have hdis := disableAt_gives hd.ready hv
    have hown : d.ownByte d.tracee.pc = some v := by
      rw [ownByte, hv]
      rfl
    have hbyte : (d.lifted v).memory.get? d.tracee.pc = some v := by
      rw [lifted, patch_memory, Memory.get?_set_self]
    have hne : (d.lifted v).memory.get? d.tracee.pc ≠ some trapByte := by
      rw [hbyte, ← hown]
      exact fun h => hc ⟨hb, h⟩
    obtain ⟨event, d₂, hstep, heffect, halive⟩ :=
      singleStep_effect (d := d.lifted v) ha hp ⟨hconv.trapCode, hconv.faults⟩ fun h => absurd h hne
    rw [show (d.lifted v).tracee.pc = d.tracee.pc from rfl, hbyte, ← hown] at heffect
    by_cases ha₂ : d₂.isAlive
    · obtain ⟨henable, -⟩ := enableAt_again hd hv hstep ha₂
      exact ⟨event, _, stepInstruction_over (gives_stepOverBreakpoint.2
        (.survived hpc hen hdis hstep ha₂ henable)), heffect, halive⟩
    · exact ⟨event, _, stepInstruction_over (gives_stepOverBreakpoint.2
        (.gone hpc hen hdis hstep ha₂)), heffect, halive⟩
  · have hen : ¬ d.breakpoints.isEnabledAt d.tracee.pc := fun h =>
      hb (BreakpointTable.contains_of_isEnabledAt h)
    have hover : stepOverBreakpoint.Gives d (.ok none) d :=
      gives_stepOverBreakpoint.2 (.absent hpc hen)
    obtain ⟨event, d', hstep, heffect⟩ := singleStep_effect ha hp hconv fun _ => hb
    rw [ownByte_of_not_enabled hen]
    exact ⟨event, d', hover.bind hstep, heffect⟩

/-! ## Traps under breakpoints -/

/-- The debuggee is held at `a`. -/
structure Caught (a : Addr) (d : Debuggee Simulated) : Prop where
  settled : d.Settled
  alive : d.isAlive
  process : d.tracee.isAlive
  conventional : d.tracee.Conventional
  pc : d.tracee.pc = a
  trap : d.OnOwnTrap

/-- The trap of the program is taken for that of the breakpoint, and the program
    counter moved back. -/
theorem Caught.stepOverBreakpoint (h : Caught a d) :
    ∃ d', stepOverBreakpoint.Gives d (.ok (some (.hitBreakpoint a))) d' ∧ Caught a d' ∧
      d'.tracee.registers = d.tracee.registers := by
  obtain ⟨hd, ha, hp, hconv, rfl, hb, hown⟩ := h
  have hen := hd.enabled _ hb
  obtain ⟨v, hv⟩ := BreakpointTable.exists_saved? hen
  have htrap : (d.lifted v).tracee.memory.get? d.tracee.pc = some trapByte := by
    rw [ownByte, hv] at hown
    rw [← hown]
    exact Memory.get?_set_self _ _ _
  have hstep := singleStep_gives (d := d.lifted v) ha hp (execute_trap htrap)
    (classify_trap hconv.trapCode hp setPc_pc (BreakpointTable.contains_put.2 (Or.inl rfl)))
  obtain ⟨henable, -⟩ := enableAt_again hd hv hstep rfl
  obtain ⟨d', hover, ha', hregs, hconv'⟩ : ∃ d',
      Debuggee.stepOverBreakpoint.Gives d (.ok (some (.hitBreakpoint d.tracee.pc))) d' ∧
        d'.isAlive ∧ d'.tracee.registers = d.tracee.registers ∧ d'.tracee.Conventional := by
    refine ⟨_, gives_stepOverBreakpoint.2 (.survived (pc_gives ha hp) hen
      (disableAt_gives hd.ready hv) hstep rfl henable), rfl, ?_, hconv.trapCode, hconv.faults⟩
    show (d.tracee.registers.set .rip (d.tracee.pc + 1)).set .rip d.tracee.pc = d.tracee.registers
    rw [RegisterFile.set_set, Simulated.pc, RegisterFile.set_get]
  obtain ⟨hd', hk⟩ := stepOverBreakpoint_steady.gives hover hd
  obtain ⟨-, hp', hb'⟩ := hk ha'
  obtain ⟨-, hown', -⟩ := stepOverBreakpoint_keeps.gives hover ha'
  have hpc' : d'.tracee.pc = d.tracee.pc := by
    rw [Simulated.pc, hregs]
    rfl
  refine ⟨d', hover, ⟨hd', ha', hp' hp, hconv', hpc', ?_⟩, hregs⟩
  rw [OnOwnTrap, BreaksAt, hpc', hb', hown']
  exact ⟨hb, hown⟩

theorem Caught.stepInstruction (h : Caught a d) :
    ∃ d', stepInstruction.Gives d (.ok (.hitBreakpoint a)) d' ∧ Caught a d' ∧
      d'.tracee.registers = d.tracee.registers := by
  obtain ⟨d', hover, hcaught⟩ := h.stepOverBreakpoint
  exact ⟨d', stepInstruction_over hover, hcaught⟩

theorem Caught.continueExecution (h : Caught a d) :
    ∃ d', continueExecution.Gives d (.ok (.hitBreakpoint a)) d' ∧ Caught a d' ∧
      d'.tracee.registers = d.tracee.registers := by
  obtain ⟨d', hover, hcaught⟩ := h.stepOverBreakpoint
  refine ⟨d', gives_continueExecution.2 ?_, hcaught⟩
  rw [if_pos h.alive]
  exact .stopped hover (by simp)

/-! ## Without breakpoints -/

/-- The same process, stopped at the same place, without any breakpoint. -/
structure Bare (d d₀ : Debuggee Simulated) : Prop where
  rest : d₀.rest = d.rest
  breakpoints : d₀.breakpoints = .empty
  memory : d₀.memory.get? = d.ownByte

theorem Bare.free {d₀ : Debuggee Simulated} (h : Bare d d₀) (x : Addr) : ¬ d₀.BreaksAt x := by
  rw [BreaksAt, h.breakpoints]
  exact not_contains_empty

theorem Bare.ownByte {d₀ : Debuggee Simulated} (h : Bare d d₀) : d₀.ownByte = d.ownByte := by
  funext x
  rw [ownByte_of_not_enabled fun he => h.free x (BreakpointTable.contains_of_isEnabledAt he),
    h.memory]

/-- The debuggee with the memory `m` and no breakpoint. -/
def bared (d : Debuggee Simulated) (m : Memory) : Debuggee Simulated :=
  { d with tracee := { d.tracee with memory := m }, breakpoints := .empty }

theorem bare_bared {m : Memory} (h : m.get? = d.ownByte) : Bare d (d.bared m) := ⟨rfl, rfl, h⟩

end Debuggee

/-! ## Sessions -/

namespace Session

open Debuggee Simulated

variable {s s' s₀ : Session Simulated} {a : Addr}

/-- What moves the debuggee shows where it is and changes nothing else. -/
theorem moved_gives {act : Action (Debuggee Simulated) StopEvent} {event : StopEvent}
    {d : Debuggee Simulated} (h : act.Gives s.debuggee (.ok event) d)
    (hp : d.isAlive → d.tracee.isAlive) :
    (do
      let event ← onDebuggee act
      presentLocation
      return event : Action (Session Simulated) StopEvent).Gives s (.ok event)
        { s with debuggee := d } := by
  have hshow := presentLocation_gives (s := { s with debuggee := d }) hp
  exact (gives_onDebuggee.2 ⟨d, h, rfl⟩).bind (hshow.bind (gives_pure.2 ⟨rfl, rfl⟩))

theorem execute_stepInstruction {event : StopEvent} {d : Debuggee Simulated}
    (h : Debuggee.stepInstruction.Gives s.debuggee (.ok event) d)
    (hp : d.isAlive → d.tracee.isAlive) :
    (execute .stepInstruction).Gives s (.ok (.stopped event)) { s with debuggee := d } :=
  gives_log_bind.2 ((moved_gives h hp).bind (gives_pure.2 ⟨rfl, rfl⟩))

theorem execute_continue {event : StopEvent} {d : Debuggee Simulated}
    (h : Debuggee.continueExecution.Gives s.debuggee (.ok event) d)
    (hp : d.isAlive → d.tracee.isAlive) :
    (execute .continue).Gives s (.ok (.stopped event)) { s with debuggee := d } :=
  gives_log_bind.2 ((moved_gives h hp).bind (gives_pure.2 ⟨rfl, rfl⟩))

/-- **One step, with and without breakpoints.**  It ends with the same event, the
    same registers and the same process, except at a breakpoint under which the
    program itself has a trap: there the program would go on behind the trap, but
    it is held where it is. -/
theorem stepInstruction_bare (hs : Reachable s) (alive : s.debuggee.isAlive)
    (conventional : s.debuggee.tracee.Conventional) (bare : Bare s.debuggee s₀.debuggee) :
    ∃ event event₀ d d₀,
      (execute .stepInstruction).Gives s (.ok (.stopped event)) { s with debuggee := d } ∧
      (execute .stepInstruction).Gives s₀ (.ok (.stopped event₀)) { s₀ with debuggee := d₀ } ∧
      d.isAlive = d₀.isAlive ∧
      (¬ s.debuggee.OnOwnTrap → event = event₀ ∧ d.tracee.registers = d₀.tracee.registers) ∧
      (s.debuggee.OnOwnTrap → d.tracee.registers = s.debuggee.tracee.registers ∧
        d₀.tracee.pc = s.debuggee.tracee.pc + 1) := by
  have hp := hs.process alive
  -- without breakpoints the same instruction is executed
  have hsame := eq_of_rest bare.rest
  have hd₀ : s₀.debuggee.Settled := settled_of_empty bare.breakpoints
  have halive₀ : s₀.debuggee.isAlive := by rw [hsame]; exact alive
  have hp₀ : s₀.debuggee.tracee.isAlive := by rw [hsame]; exact hp
  have hconv₀ : s₀.debuggee.tracee.Conventional := by
    rw [hsame]
    exact ⟨conventional.trapCode, conventional.faults⟩
  obtain ⟨event₀, d₀, hstep₀, heffect₀, hlive₀⟩ :=
    stepInstruction_effect hd₀ halive₀ hp₀ hconv₀ fun h => bare.free _ h.1
  have hpc₀ : s₀.debuggee.tracee.pc = s.debuggee.tracee.pc := by rw [hsame]; rfl
  have heq (byte) : s₀.debuggee.tracee.effect byte = s.debuggee.tracee.effect byte := by
    rw [hsame]
    rfl
  rw [bare.ownByte, hpc₀, heq] at heffect₀
  have hkept {event s₁} {d : Debuggee Simulated}
      (h : Debuggee.stepInstruction.Gives s₁ (.ok event) d) (hd : s₁.Settled)
      (hp : s₁.tracee.isAlive) (ha : d.isAlive) : d.tracee.isAlive :=
    ((stepInstruction_steady.gives h hd).2 ha).2.1 hp
  have hgives₀ := execute_stepInstruction hstep₀ (hkept hstep₀ hd₀ hp₀)
  by_cases htrap : s.debuggee.OnOwnTrap
  · have hcaught : Caught s.debuggee.tracee.pc s.debuggee :=
      ⟨hs.settled, alive, hp, conventional, rfl, htrap⟩
    obtain ⟨d, hstep, hd, hregs⟩ := hcaught.stepInstruction
    rw [htrap.2, effect, if_pos rfl] at heffect₀
    obtain ⟨rfl, hregs₀⟩ := Prod.mk.inj heffect₀
    refine ⟨_, _, d, d₀, execute_stepInstruction hstep fun _ => hd.process, hgives₀, ?_,
      absurd htrap, fun _ => ⟨hregs, ?_⟩⟩
    · rw [hd.alive, hlive₀]
      rfl
    · rw [Simulated.pc, hregs₀, RegisterFile.get_set_self]
  · obtain ⟨event, d, hstep, heffect, hlive⟩ :=
      stepInstruction_effect hs.settled alive hp conventional htrap
    obtain ⟨rfl, hregs⟩ := Prod.mk.inj (heffect.trans heffect₀.symm)
    exact ⟨_, _, d, d₀, execute_stepInstruction hstep (hkept hstep hs.settled hp), hgives₀,
      hlive.trans hlive₀.symm, fun _ => ⟨rfl, hregs⟩, fun h => absurd h htrap⟩

/-- The program of `paused` without its breakpoints. -/
def unpaused : Session Simulated :=
  { paused with debuggee := paused.debuggee.bared mainOnly.memory }

/-- To set breakpoints does not change the program. -/
theorem ownByte_paused : paused.debuggee.ownByte = mainOnly.memory.get? := by
  rw [paused, (overlaid_after mainOnly _ _ _).own paused_ready.1, exchanges, exchanges, exchanges,
    overlaid, List.foldl, List.foldl, Exchange.overlay_of_ne, Exchange.overlay_of_ne]
  · rfl
  · simp
  · simp

/-- The first instruction of `main` is executed as if there was no breakpoint. -/
theorem stepInstruction_paused : ∃ event event₀ d d₀,
    (execute .stepInstruction).Gives paused (.ok (.stopped event)) { paused with debuggee := d } ∧
    (execute .stepInstruction).Gives unpaused (.ok (.stopped event₀))
      { unpaused with debuggee := d₀ } ∧
    event = event₀ ∧ d.tracee.registers = d₀.tracee.registers := by
  obtain ⟨halive, hconv, -⟩ := paused_ready
  have hbare : Bare paused.debuggee unpaused.debuggee := bare_bared ownByte_paused.symm
  obtain ⟨event, event₀, d, d₀, hgives, hgives₀, -, hsame, -⟩ :=
    stepInstruction_bare reachable_paused halive hconv hbare
  exact ⟨event, event₀, d, d₀, hgives, hgives₀, hsame (by decide +kernel)⟩

/-- A program that begins with a trap of its own. -/
def trapping : Simulated :=
  { memory := (({} : Memory).setBytes 0x1000 (List.replicate 16 0x90)).set 0x1000 trapByte
    registers := RegisterFile.zero.set .rip 0x1000 }

/-- With a breakpoint on it the trap is not passed, without one it is. -/
theorem stepInstruction_held :
    let s := fresh trapping ⟨⟨[], [], false⟩, 0⟩ {}
    let held := s.after [.command (.setBreakpoint (.address 0x1000)), .command .stepInstruction]
    let free := s.after [.command .stepInstruction]
    trapping.Conventional ∧ held.debuggee.isAlive ∧ free.debuggee.isAlive ∧
      held.debuggee.tracee.pc = 0x1000 ∧ free.debuggee.tracee.pc = 0x1001 := by
  decide +kernel

/-- **No progress.**  A program that is caught stays where it is, however often it
    is stepped or continued. -/
theorem caught_after (h : Caught a s.debuggee) {is : List Interaction}
    (moves : ∀ i ∈ is, i = .command .stepInstruction ∨ i = .command .continue) :
    Caught a (s.after is).debuggee := by
  induction is generalizing s with
  | nil => exact h
  | cons i is ih =>
    obtain ⟨hi, his⟩ := List.forall_mem_cons.1 moves
    refine ih ?_ his
    obtain rfl | rfl := hi
    · obtain ⟨d, hstep, hd, -⟩ := h.stepInstruction
      have hgives : (perform (.command .stepInstruction)).Gives s _ _ :=
        execute_stepInstruction hstep fun _ => hd.process
      rwa [hgives.2]
    · obtain ⟨d, hcont, hd, -⟩ := h.continueExecution
      have hgives : (perform (.command .continue)).Gives s _ _ :=
        execute_continue hcont fun _ => hd.process
      rwa [hgives.2]

end Session

end SourceDebugger
