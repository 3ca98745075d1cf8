/-
  The trace of the simulated program, and where a debuggee that runs along it
  stops.

  * `Simulated.trace` are the addresses of the instructions that the program
    executes by itself, `Simulated.eventAt` what stops it there;
  * `Simulated.run_trace`: a run follows the trace as long as nothing stops it;
  * `Debuggee.resume_arrives`, `Debuggee.singleStep_ends` and
    `Debuggee.singleStep_passes`: how running and stepping end;
  * `Debuggee.Arrived`: a debuggee that was stopped at an address, and is
    otherwise what it was.
-/
import Mathlib.Logic.Function.Iterate
import SourceDebugger.Proofs.Settled

namespace SourceDebugger

open SourceDebugger.Action

/-! ## The program itself -/

namespace Simulated

variable {p : Simulated} {a : Addr} {k : Nat}

/-- The address of the next instruction, if there is one. -/
def next (p : Simulated) (a : Addr) : Addr := (p.successors[a]?).getD a

/-- The address of the `i`-th instruction from the program counter on. -/
def trace (p : Simulated) (i : Nat) : Addr := p.next^[i] p.pc

/-- What stops the program at `a`: a fault, or its end. -/
def eventAt (p : Simulated) (a : Addr) : StopEvent :=
  match p.faults[a]? with
  | some (signal, code) => if signal = .sigsegv then .crashed code else .otherSignal signal
  | none => .exited p.exitCode

/-- Traps are reported as such, and no fault is. -/
structure Conventional (p : Simulated) : Prop where
  trapCode : p.trapCode = kernelCode ∨ p.trapCode = breakpointCode
  faults (a : Addr) (code : Int) : p.faults[a]? ≠ some (.sigtrap, code)

instance (p : Simulated) : Decidable p.Conventional :=
  decidable_of_iff ((p.trapCode = kernelCode ∨ p.trapCode = breakpointCode) ∧
      ∀ f ∈ p.faults.toList, f.2.1 ≠ .sigtrap)
    ⟨fun ⟨hcode, hf⟩ => ⟨hcode, fun _ _ h =>
        hf _ (Std.ExtTreeMap.mem_toList_iff_getElem?_eq_some.2 h) rfl⟩,
      fun h => ⟨h.trapCode, fun ⟨a, _, code⟩ hf hs =>
        h.faults a code (Std.ExtTreeMap.mem_toList_iff_getElem?_eq_some.1 (hs ▸ hf))⟩⟩

/-- The instruction at `a` is executed and another one follows. -/
structure Passes (p : Simulated) (a : Addr) : Prop where
  byte : p.memory.get? a ≠ some trapByte
  plain : p.faults[a]? = none
  successor : (p.successors[a]?).isSome

@[simp] theorem setPc_pc : (p.setPc a).pc = a := RegisterFile.get_set_self _ _ _

theorem setPc_setPc (b : Addr) : (p.setPc a).setPc b = p.setPc b := by
  rw [setPc, setPc, setPc, RegisterFile.set_set]

theorem setPc_self : p.setPc p.pc = p := by
  rw [setPc, pc, RegisterFile.set_get]

theorem Passes.setPc (h : p.Passes a) (b : Addr) : (p.setPc b).Passes a :=
  ⟨h.byte, h.plain, h.successor⟩

theorem trace_setPc (i j : Nat) : (p.setPc (p.trace i)).trace j = p.trace (i + j) := by
  rw [trace, setPc_pc, trace, trace, Nat.add_comm, Function.iterate_add_apply]
  rfl

theorem execute_passes (h : p.Passes p.pc) : p.execute = (none, p.setPc (p.next p.pc)) := by
  obtain ⟨b, hb⟩ := Option.isSome_iff_exists.1 h.successor
  rw [execute, if_neg h.byte, h.plain, hb, next, hb]
  rfl

theorem execute_trap (h : p.memory.get? p.pc = some trapByte) :
    p.execute = (some (.signal .sigtrap p.trapCode), p.setPc (p.pc + 1)) := by
  rw [execute, if_pos h]

theorem execute_fault {signal : Signal} {code : Int} (h : p.memory.get? p.pc ≠ some trapByte)
    (hf : p.faults[p.pc]? = some (signal, code)) :
    p.execute = (some (.signal signal code), p) := by
  rw [execute, if_neg h, hf]

theorem execute_end (h : p.memory.get? p.pc ≠ some trapByte) (hf : p.faults[p.pc]? = none)
    (hs : p.successors[p.pc]? = none) :
    p.execute = (some (.exited p.exitCode), { p with isAlive := false }) := by
  rw [execute, if_neg h, hf, hs]

/-- A run follows the trace. -/
theorem run_trace (h : ∀ i < k, p.Passes (p.trace i)) (n : Nat) :
    p.run (k + n) = (p.setPc (p.trace k)).run n := by
  induction k generalizing n with
  | zero =>
    rw [show p.trace 0 = p.pc from rfl, setPc_self, Nat.zero_add]
  | succ k ih =>
    have hpass : (p.setPc (p.trace k)).Passes (p.setPc (p.trace k)).pc := by
      rw [setPc_pc]
      exact (h k (Nat.lt_succ_self k)).setPc _
    have hnext : (p.setPc (p.trace k)).next (p.setPc (p.trace k)).pc = p.trace (k + 1) := by
      rw [setPc_pc, trace, trace, Function.iterate_succ_apply']
      rfl
    rw [Nat.add_right_comm, Nat.add_assoc, ih (fun i hi => h i (Nat.lt_succ_of_lt hi)), run,
      execute_passes hpass, hnext, setPc_setPc]

/-- An instruction that stops is the last one of a run. -/
theorem run_stop {q : Simulated} {report : Report} (h : p.execute = (some report, q)) (n : Nat) :
    p.run (n + 1) = { q with pending := some report } := by
  rw [run, h]

theorem stepOnce_stop {q : Simulated} {report : Report} (h : p.execute = (some report, q)) :
    p.stepOnce = { q with pending := some report } := by
  rw [stepOnce, h]

end Simulated

/-! ## The debuggee -/

namespace Debuggee

open Simulated

variable {d d' : Debuggee Simulated} {a : Addr}

/-- The debuggee after a stop at `a`. -/
def haltedAt (d : Debuggee Simulated) (a : Addr) : Debuggee Simulated :=
  { d with tracee := { d.tracee.setPc a with pending := none }, state := .stopped }

/-- What a request that leaves a report behind leads to. -/
theorem runAndWait_gives {act : Action Simulated Unit} {q : Simulated} {report : Report}
    {r : Except Failure StopEvent}
    (hact : act.Gives d.tracee (.ok ()) { q with pending := some report })
    (hc : (classify report).Gives { d with tracee := { q with pending := none }, state := .running }
      r d') : (runAndWait act).Gives d r d' := by
  refine (gives_request.2 ⟨_, hact, rfl⟩).bind ?_
  rw [setState, gives_modify_bind, gives_waitForStop]
  exact (gives_request.2 ⟨_, ⟨rfl, rfl⟩, rfl⟩).bind hc

theorem classify_exited (code : Int) :
    (classify (.exited code)).Gives d (.ok (.exited code))
      { d with state := .exited, breakpoints := .empty } :=
  gives_modify_bind.2 (gives_pure.2 ⟨rfl, rfl⟩)

theorem classify_fault {signal : Signal} (hs : signal ≠ .sigtrap) (code : Int) :
    (classify (.signal signal code)).Gives d
      (.ok (if signal = .sigsegv then .crashed code else .otherSignal signal))
      { d with state := .stopped } := by
  refine gives_modify_bind.2 ?_
  rw [if_neg hs]
  split_ifs <;> exact gives_pure.2 ⟨rfl, rfl⟩

theorem classify_stepped :
    (classify (.signal .sigtrap traceCode)).Gives d (.ok .stepped) { d with state := .stopped } :=
  gives_modify_bind.2 (gives_pure.2 ⟨rfl, rfl⟩)

/-- Behind the trap of a breakpoint the program counter is moved back. -/
theorem classify_trap {code : Int} (hcode : code = kernelCode ∨ code = breakpointCode)
    (hp : d.tracee.isAlive) (hpc : d.tracee.pc = a + 1) (hc : d.breakpoints.contains a) :
    (classify (.signal .sigtrap code)).Gives d (.ok (.hitBreakpoint a))
      { d with tracee := d.tracee.setPc a, state := .stopped } := by
  refine gives_modify_bind.2 ?_
  rw [if_pos rfl, classifyTrap, if_pos hcode]
  refine (pc_gives (d := { d with state := .stopped }) rfl hp).bind ?_
  have hback : d.tracee.pc - trapWidth = a := by
    rw [hpc]
    exact UInt64.add_sub_cancel a 1
  rw [gives_inspect_bind, hback, if_pos hc]
  exact (setPc_gives (d := { d with state := .stopped }) rfl hp).bind (gives_pure.2 ⟨rfl, rfl⟩)

/-! ## Arriving -/

/-- The debuggee was stopped at `a`, and is otherwise what it was; or the
    process is gone. -/
structure Arrived (d d' : Debuggee Simulated) (a : Addr) (event : StopEvent) : Prop where
  gone : event.isTerminal → d'.state = .exited ∧ d'.breakpoints = .empty
  state : ¬ event.isTerminal → d'.state = .stopped
  pc : ¬ event.isTerminal → d'.tracee.pc = a
  breakpoints : ¬ event.isTerminal → d'.breakpoints = d.breakpoints
  memory : ¬ event.isTerminal → d'.memory = d.memory
  registers : ¬ event.isTerminal → ∀ reg, reg ≠ .rip →
    d'.tracee.registers.get reg = d.tracee.registers.get reg

/-- What stops a debuggee at `a`. -/
def stopEvent (d : Debuggee Simulated) (a : Addr) : StopEvent :=
  if d.memory.get? a = some trapByte then .hitBreakpoint a else d.tracee.eventAt a

/-- Something stops the debuggee at `a`. -/
def StopsAt (d : Debuggee Simulated) (a : Addr) : Prop :=
  if d.memory.get? a = some trapByte then d.breakpoints.contains a = true
  else (d.tracee.faults[a]?).isSome ∨ d.tracee.successors[a]? = none

theorem arrived_haltedAt {event : StopEvent} (he : ¬ event.isTerminal) :
    Arrived d (d.haltedAt a) a event where
  gone h := absurd h he
  state _ := rfl
  pc _ := setPc_pc
  breakpoints _ := rfl
  memory _ := rfl
  registers _ _ hreg := (RegisterFile.get_set _ _ _ _).trans (if_neg (Ne.symm hreg))

theorem arrived_exited {event : StopEvent} (he : event.isTerminal) (hs : d'.state = .exited)
    (hb : d'.breakpoints = .empty) : Arrived d d' a event :=
  ⟨fun _ => ⟨hs, hb⟩, absurd he, absurd he, absurd he, absurd he, absurd he⟩

/-- A request that executes the instruction at `a` last, at which the program
    faults or ends. -/
theorem runAndWait_ends {act : Action Simulated Unit}
    (hfault : ∀ code, d.tracee.faults[a]? ≠ some (.sigtrap, code))
    (hbyte : d.memory.get? a ≠ some trapByte)
    (hend : (d.tracee.faults[a]?).isSome ∨ d.tracee.successors[a]? = none)
    (hact : ∀ report q, (d.tracee.setPc a).execute = (some report, q) →
      act.Gives d.tracee (.ok ()) { q with pending := some report }) :
    ∃ d', (runAndWait act).Gives d (.ok (d.tracee.eventAt a)) d' ∧
      Arrived d d' a (d.tracee.eventAt a) := by
  have hpc : (d.tracee.setPc a).pc = a := setPc_pc
  have hbyte' : (d.tracee.setPc a).memory.get? (d.tracee.setPc a).pc ≠ some trapByte := by
    rw [hpc]
    exact hbyte
  rcases hf : d.tracee.faults[a]? with _ | ⟨signal, code⟩
  · have hlast : d.tracee.successors[a]? = none := hend.resolve_left (by simp [hf])
    have hexec := execute_end hbyte' (hpc.symm ▸ hf) (hpc.symm ▸ hlast)
    have hgives := runAndWait_gives (hact _ _ hexec) (classify_exited d.tracee.exitCode)
    rw [eventAt, hf]
    exact ⟨_, hgives, arrived_exited rfl rfl rfl⟩
  · have hsignal : signal ≠ .sigtrap := fun h => hfault code (h ▸ hf)
    have hexec := execute_fault hbyte' (hpc.symm ▸ hf)
    have hgives := runAndWait_gives (hact _ _ hexec) (classify_fault hsignal code)
    rw [eventAt, hf]
    exact ⟨_, hgives, arrived_haltedAt (by dsimp only; split_ifs <;> simp [StopEvent.isTerminal])⟩

/-- A request that executes the instruction at `a` last, which stops. -/
theorem runAndWait_arrives {act : Action Simulated Unit} (hp : d.tracee.isAlive)
    (hconv : d.tracee.Conventional) (hstop : d.StopsAt a)
    (hact : ∀ report q, (d.tracee.setPc a).execute = (some report, q) →
      act.Gives d.tracee (.ok ()) { q with pending := some report }) :
    ∃ d', (runAndWait act).Gives d (.ok (d.stopEvent a)) d' ∧ Arrived d d' a (d.stopEvent a) := by
  unfold StopsAt at hstop
  unfold stopEvent
  split_ifs at hstop ⊢ with hbyte
  · have hpc : (d.tracee.setPc a).pc = a := setPc_pc
    have hexec := execute_trap (p := d.tracee.setPc a) (by rw [hpc]; exact hbyte)
    rw [hpc, setPc_setPc] at hexec
    have hgives := runAndWait_gives (hact _ _ hexec)
      (classify_trap hconv.trapCode hp setPc_pc hstop)
    have hback : ({ d.tracee.setPc (a + 1) with pending := none } : Simulated).setPc a =
        { d.tracee.setPc a with pending := none } :=
      congrArg (fun q : Simulated => { q with pending := none }) (setPc_setPc (p := d.tracee) a)
    rw [hback] at hgives
    exact ⟨_, hgives, arrived_haltedAt (by simp [StopEvent.isTerminal])⟩
  · exact runAndWait_ends (hconv.faults a) hbyte hstop hact

/-- A run stops where it first can. -/
theorem resume_arrives {m : Nat} (hp : d.tracee.isAlive) (hconv : d.tracee.Conventional)
    (hpass : ∀ i < m, d.tracee.Passes (d.tracee.trace i)) (hm : m < runLimit)
    (hstop : d.StopsAt (d.tracee.trace m)) :
    ∃ d', (runAndWait Tracee.resume).Gives d (.ok (d.stopEvent (d.tracee.trace m))) d' ∧
      Arrived d d' (d.tracee.trace m) (d.stopEvent (d.tracee.trace m)) := by
  refine runAndWait_arrives hp hconv hstop fun report q hexec => gives_whileAlive.2 ?_
  have hlimit : runLimit = m + (runLimit - m - 1 + 1) := by omega
  rw [if_pos hp, hlimit, run_trace hpass, run_stop hexec]
  exact ⟨rfl, rfl⟩

/-- A step stays where the program faults or ends. -/
theorem singleStep_ends (hd : d.isAlive) (hp : d.tracee.isAlive)
    (hfault : ∀ code, d.tracee.faults[d.tracee.pc]? ≠ some (.sigtrap, code))
    (hbyte : d.memory.get? d.tracee.pc ≠ some trapByte)
    (hend : (d.tracee.faults[d.tracee.pc]?).isSome ∨ d.tracee.successors[d.tracee.pc]? = none) :
    ∃ d', singleStep.Gives d (.ok (d.tracee.eventAt d.tracee.pc)) d' ∧
      Arrived d d' d.tracee.pc (d.tracee.eventAt d.tracee.pc) := by
  simp only [gives_singleStep, if_pos hd]
  refine runAndWait_ends hfault hbyte hend fun report q hexec => gives_whileAlive.2 ?_
  rw [setPc_self] at hexec
  rw [if_pos hp, stepOnce_stop hexec]
  exact ⟨rfl, rfl⟩

/-- Otherwise it goes to the next instruction. -/
theorem singleStep_passes (hd : d.isAlive) (hp : d.tracee.isAlive)
    (h : d.tracee.Passes d.tracee.pc) :
    singleStep.Gives d (.ok .stepped) (d.haltedAt (d.tracee.next d.tracee.pc)) := by
  rw [gives_singleStep, if_pos hd]
  refine runAndWait_gives (q := d.tracee.setPc (d.tracee.next d.tracee.pc))
    (gives_whileAlive.2 ?_) classify_stepped
  rw [if_pos hp, stepOnce, execute_passes h]
  exact ⟨rfl, rfl⟩

end Debuggee

end SourceDebugger
