/-
  A simulated process whose memory cannot be relied on: any reading or writing
  of a word may fail, and a word is then not written.  Which ones do is decided
  by number, so that every pattern of failures is the one of some `Unreliable`.

  * `Unreliable.coherent`: in whatever way they fail, and wherever in an
    operation, memory and table of breakpoints agree.
-/
import SourceDebugger.Proofs.Coherence
import SourceDebugger.Proofs.Simulated

namespace SourceDebugger

open SourceDebugger.Action

structure Unreliable where
  process : Simulated
  /-- How the `n`-th access to memory fails, if it does. -/
  refusal : Nat → Option Failure
  /-- The number of accesses so far. -/
  accesses : Nat := 0

namespace Unreliable

variable {α : Type} {u u' : Unreliable}

/-- A request that has nothing to do with memory. -/
def onProcess (act : Action Simulated α) : Action Unreliable α :=
  act.within (·.process) fun p u => { u with process := p }

/-- An access to memory, which may be refused. -/
def access (act : Action Simulated α) : Action Unreliable α := do
  match ← .inspect fun u => u.refusal u.accesses with
  | some e =>
    .modify fun u => { u with accesses := u.accesses + 1 }
    .fail e
  | none =>
    .modify fun u => { u with accesses := u.accesses + 1 }
    onProcess act

instance : Tracee Unreliable where
  pid u := Tracee.pid u.process
  executable? u := Tracee.executable? u.process
  readWord a := access (Tracee.readWord a)
  writeWord a w := access (Tracee.writeWord a w)
  readRegister reg := onProcess (Tracee.readRegister reg)
  writeRegister reg value := onProcess (Tracee.writeRegister reg value)
  resume := onProcess Tracee.resume
  step := onProcess Tracee.step
  wait := onProcess Tracee.wait
  memoryMap := onProcess Tracee.memoryMap
  kill := onProcess Tracee.kill
  detach := onProcess Tracee.detach

/-- An access is refused, or made to the process. -/
theorem gives_access {act : Action Simulated α} {r : Except Failure α}
    (h : (access act).Gives u r u') :
    ((∃ e, r = .error e) ∧ u'.process = u.process) ∨ act.Gives u.process r u'.process := by
  rw [access, gives_inspect_bind] at h
  split at h
  · rw [gives_modify_bind, gives_fail] at h
    obtain ⟨rfl, rfl⟩ := h
    exact Or.inl ⟨⟨_, rfl⟩, rfl⟩
  · rw [gives_modify_bind] at h
    obtain ⟨p, hp, rfl⟩ := gives_within.1 h
    exact Or.inr hp

/-- The memory of the process. -/
def memory (u : Unreliable) : Memory := u.process.memory

theorem onProcess_keeps {act : Action Simulated α} (h : act.Keeps (Unchanged ByteMemory.memory)) :
    (onProcess act).Keeps (Unchanged memory) :=
  .within h fun _ _ hm => hm

theorem access_keeps {act : Action Simulated α} (h : act.Keeps (Unchanged ByteMemory.memory)) :
    (access act).Keeps (Unchanged memory) := by
  refine .of_gives fun u r u' hg => ?_
  obtain ⟨-, hu⟩ | hact := gives_access hg
  · exact congrArg Simulated.memory hu
  · exact h.gives hact

instance : ByteMemory Unreliable where
  memory := memory
  readWord_ok h := by
    obtain ⟨⟨e, ⟨⟩⟩, -⟩ | hact := gives_access h
    exact ByteMemory.readWord_ok hact
  writeWord_ok h := by
    obtain ⟨⟨e, ⟨⟩⟩, -⟩ | hact := gives_access h
    exact ByteMemory.writeWord_ok hact
  writeWord_error h := by
    obtain ⟨-, hu⟩ | hact := gives_access h
    · exact congrArg Simulated.memory hu
    · exact ByteMemory.writeWord_error hact
  readWord_keeps a := access_keeps (ByteMemory.readWord_keeps a)
  readRegister_keeps reg := onProcess_keeps (ByteMemory.readRegister_keeps reg)
  writeRegister_keeps reg value := onProcess_keeps (ByteMemory.writeRegister_keeps reg value)
  resume_keeps := onProcess_keeps ByteMemory.resume_keeps
  step_keeps := onProcess_keeps ByteMemory.step_keeps
  wait_keeps := onProcess_keeps ByteMemory.wait_keeps
  memoryMap_keeps := onProcess_keeps ByteMemory.memoryMap_keeps
  kill_keeps := onProcess_keeps ByteMemory.kill_keeps
  detach_keeps := onProcess_keeps ByteMemory.detach_keeps

/-- **Coherence under arbitrary failures.**  As long as the process is there,
    under each enabled breakpoint is a trap and the byte of the program is
    kept, and everywhere else is the byte of the program: the one from the
    beginning, or the one that the user has written there since. -/
theorem coherent (u : Unreliable) (resolver : Resolver) (config : Config) {is : List Interaction}
    (avoids : ∀ x ∈ (Session.fresh u resolver config).exchanges is, x.Avoids)
    (alive : ((Session.fresh u resolver config).after is).debuggee.isAlive) :
    ((Session.fresh u resolver config).after is).debuggee.Coherent
      (Session.written u.memory ((Session.fresh u resolver config).exchanges is)) :=
  Session.coherent_after u resolver config avoids alive

/-- Sixteen instructions of one byte; the fourth access fails. -/
def faltering : Unreliable where
  process :=
    { memory := ({} : Memory).setBytes 0x1000 (List.replicate 16 0x90)
      registers := RegisterFile.zero.set .rip 0x1000 }
  refusal n := if n = 3 then some (.memoryAccess 0x1001 .eio) else none

/-- Of two breakpoints whose words overlap the second cannot be set, and a word
    is written behind the first. -/
theorem coherent_faltering :
    let s := Session.fresh faltering ⟨⟨[], [], false⟩, 0⟩ {}
    let is := [.command (.setBreakpoint (.address 0x1000)),
      .command (.setBreakpoint (.address 0x1001)), .command (.writeMemory 0x1001 0)]
    (s.after is).debuggee.Coherent (Session.written faltering.memory (s.exchanges is)) :=
  coherent faltering _ _ (by decide +kernel) (by decide +kernel)

end Unreliable

end SourceDebugger
