/-
  The simulated process.

  * `Simulated.patch` is the process with another byte in memory: breakpoints
    of a process that can be written are enabled and disabled by it
    (`enable_gives`, `disable_gives`), and those of another one cannot be
    (`enable_fails`, `disable_fails`);
  * `Simulated.executed`: what one instruction does, and what any number of
    them leaves alone (`run_unchanged`);
  * `Simulated.Runs`: a process that has run can be patched as before, and if
    it is gone it has its exit to report (`resume_runs`, `step_runs`).
-/
import SourceDebugger.Proofs.Breakpoint
import SourceDebugger.Simulation.Process

namespace SourceDebugger

open SourceDebugger.Action

namespace RegisterFile

theorem set_set (f : RegisterFile) (r : Register) (v w : UInt64) :
    (f.set r v).set r w = f.set r w := by
  simp [set]

theorem set_get (f : RegisterFile) (r : Register) : f.set r (f.get r) = f := by
  simp [set, get]

end RegisterFile

namespace Simulated

variable {α : Type} {p p' : Simulated} {a : Addr}

/-! ## Requests -/

theorem gives_whileAlive {f : Simulated → α × Simulated} {r : Except Failure α} :
    (whileAlive f).Gives p r p' ↔
      if p.isAlive then r = .ok (f p).1 ∧ p' = (f p).2
      else r = .error (.processAccess .esrch) ∧ p' = p := by
  rw [Gives, whileAlive]
  split_ifs <;> exact and_congr eq_comm eq_comm

theorem gives_readWord {r : Except Failure Word} (h : (readWord a).Gives p r p') :
    p' = p ∧ ∀ w, r = .ok w → p.memory.getWord? a = some w := by
  obtain ⟨rfl, rfl⟩ := h
  simp only [readWord]
  split_ifs
  · exact ⟨rfl, by simp⟩
  · split
    · rename_i w hw
      refine ⟨rfl, fun w' hw' => ?_⟩
      rw [hw, Except.ok.inj hw']
    · exact ⟨rfl, by simp⟩

theorem readWord_gives {w : Word} (ha : p.isAlive) (hw : p.memory.getWord? a = some w) :
    (readWord a).Gives p (.ok w) p := by
  simp [Gives, readWord, ha, hw]

/-- No word is read where a byte of it is not mapped. -/
theorem readWord_fails (ha : p.isAlive) (hw : p.memory.getWord? a = none) :
    (readWord a).Gives p (.error (.memoryAccess a .eio)) p := by
  simp [Gives, readWord, ha, hw]

/-- Nothing is read from a process that is gone. -/
theorem isAlive_of_readWord {w : Word} (h : (readWord a).Gives p (.ok w) p') : p.isAlive := by
  by_contra hdead
  have hdead : p.isAlive = false := by simpa using hdead
  simp [Gives, readWord, hdead] at h

/-- A word is written if the process is there, writes do not fail and all its
    bytes are mapped. -/
theorem gives_writeWord {w : Word} {r : Except Failure Unit} (h : (writeWord a w).Gives p r p') :
    (∃ e, r = .error e) ∧ p' = p ∨
      ∃ m, r = .ok () ∧ p.isAlive ∧ p.failWrites = false ∧ p.memory.putWord? a w = some m ∧
        p' = { p with memory := m, writes := p.writes + 1 } := by
  obtain ⟨rfl, rfl⟩ := h
  simp only [writeWord]
  split_ifs with hdead
  · exact Or.inl ⟨⟨_, rfl⟩, rfl⟩
  · simp only [Bool.or_eq_true, Bool.not_eq_true', not_or, Bool.not_eq_false,
      Bool.not_eq_true] at hdead
    split
    · rename_i m hm
      exact Or.inr ⟨m, rfl, hdead.1, hdead.2, hm, rfl⟩
    · exact Or.inl ⟨⟨_, rfl⟩, rfl⟩

theorem gives_takePending {r : Except Failure Report} (h : takePending.Gives p r p') :
    p' = { p with pending := none } ∧
      ((∃ stop, p.pending = some stop ∧ r = .ok stop) ∨
        p.pending = none ∧ r = .error (.processAccess .echild)) := by
  obtain ⟨rfl, rfl⟩ := h
  unfold takePending
  split
  · rename_i stop hstop
    exact ⟨rfl, Or.inl ⟨stop, hstop, rfl⟩⟩
  · rename_i hnone
    exact ⟨by rw [← hnone], Or.inr ⟨hnone, rfl⟩⟩

theorem readMap_keeps (p : Simulated) : (readMap p).state = p := by
  unfold readMap
  split_ifs <;> rfl

/-! ## Instructions -/

/-- What executing an instruction can do. -/
inductive Executed (p : Simulated) : Option Report → Simulated → Prop where
  | trapped (byte : p.memory.get? p.pc = some trapByte) :
      Executed p (some (.signal .sigtrap p.trapCode)) (p.setPc (p.pc + 1))
  | faulted {signal : Signal} {code : Int} (byte : p.memory.get? p.pc ≠ some trapByte)
      (fault : p.faults[p.pc]? = some (signal, code)) : Executed p (some (.signal signal code)) p
  | moved {next : Addr} (byte : p.memory.get? p.pc ≠ some trapByte)
      (plain : p.faults[p.pc]? = none) (successor : p.successors[p.pc]? = some next) :
      Executed p none (p.setPc next)
  | ended (byte : p.memory.get? p.pc ≠ some trapByte) (plain : p.faults[p.pc]? = none)
      (last : p.successors[p.pc]? = none) :
      Executed p (some (.exited p.exitCode)) { p with isAlive := false }

theorem executed {o : Option Report} (h : p.execute = (o, p')) : Executed p o p' := by
  unfold execute at h
  split_ifs at h with hbyte
  · cases h
    exact .trapped hbyte
  split at h
  · rename_i hfault
    cases h
    exact .faulted hbyte hfault
  · rename_i hplain
    split at h
    · rename_i hnext
      cases h
      exact .moved hbyte hplain hnext
    · rename_i hlast
      cases h
      exact .ended hbyte hplain hlast

theorem Executed.memory_eq {o : Option Report} (h : Executed p o p') : p'.memory = p.memory := by
  cases h <;> rfl

theorem Executed.failWrites_eq {o : Option Report} (h : Executed p o p') :
    p'.failWrites = p.failWrites := by
  cases h <;> rfl

/-- A process that is gone has said so. -/
theorem Executed.isAlive {o : Option Report} (h : Executed p o p') (ha : p.isAlive) :
    p'.isAlive ∨ ∃ code, o = some (.exited code) := by
  cases h
  case ended => exact Or.inr ⟨_, rfl⟩
  all_goals exact Or.inl ha

section
variable {β : Type} {f : Simulated → β} (hf : ∀ {p o p'}, Executed p o p' → f p' = f p)
  (hp : ∀ p stop, f { p with pending := some stop } = f p)
include hf hp

theorem run_unchanged (n : Nat) (p : Simulated) : f (p.run n) = f p := by
  induction n generalizing p with
  | zero => rfl
  | succ n ih =>
    rw [run]
    split
    · rename_i h
      exact (hp _ _).trans (hf (executed h))
    · rename_i h
      exact (ih _).trans (hf (executed h))

theorem stepOnce_unchanged (p : Simulated) : f p.stepOnce = f p := by
  unfold stepOnce
  split
  · rename_i h
    exact (hp _ _).trans (hf (executed h))
  · rename_i h
    exact (hp _ _).trans (hf (executed h))

end

/-- A process that ends while it runs has its exit to report. -/
theorem run_isAlive (n : Nat) (ha : p.isAlive) :
    (p.run n).isAlive ∨ ∃ code, (p.run n).pending = some (.exited code) := by
  induction n generalizing p with
  | zero => exact Or.inl ha
  | succ n ih =>
    rw [run]
    split
    · rename_i h
      obtain h | ⟨code, hcode⟩ := (executed h).isAlive ha
      · exact Or.inl h
      · exact Or.inr ⟨code, hcode⟩
    · rename_i h
      obtain h | ⟨code, ⟨⟩⟩ := (executed h).isAlive ha
      exact ih h

theorem stepOnce_isAlive (ha : p.isAlive) :
    p.stepOnce.isAlive ∨ ∃ code, p.stepOnce.pending = some (.exited code) := by
  unfold stepOnce
  split
  · rename_i h
    obtain h | ⟨code, hcode⟩ := (executed h).isAlive ha
    · exact Or.inl h
    · exact Or.inr ⟨code, hcode⟩
  · rename_i h
    obtain h | ⟨code, ⟨⟩⟩ := (executed h).isAlive ha
    exact Or.inl h

theorem whileAlive_keeps {β : Type} {f : Simulated → β} {g : Simulated → α × Simulated}
    (h : ∀ p, f (g p).2 = f p) : (whileAlive g).Keeps (Unchanged f) := by
  refine .of_gives fun p r p' hg => ?_
  rw [gives_whileAlive] at hg
  split_ifs at hg
  · exact hg.2 ▸ h p
  · exact hg.2 ▸ rfl

instance : ByteMemory Simulated where
  memory := memory
  readWord_ok h := (gives_readWord h).2 _ rfl
  writeWord_ok h := by
    rcases gives_writeWord h with ⟨⟨e, he⟩, -⟩ | ⟨m, -, -, -, hm, rfl⟩
    · cases he
    · exact hm
  writeWord_error h := by
    rcases gives_writeWord h with ⟨-, rfl⟩ | ⟨m, hr, -⟩
    · rfl
    · cases hr
  readWord_keeps a := .of_gives fun _ _ _ h => congrArg memory (gives_readWord h).1
  readRegister_keeps reg := whileAlive_keeps fun _ => rfl
  writeRegister_keeps reg value := whileAlive_keeps fun _ => rfl
  resume_keeps := whileAlive_keeps (run_unchanged Executed.memory_eq (fun _ _ => rfl) runLimit)
  step_keeps := whileAlive_keeps (stepOnce_unchanged Executed.memory_eq fun _ _ => rfl)
  wait_keeps := .of_gives fun _ _ _ h => (gives_takePending h).1 ▸ rfl
  memoryMap_keeps p := congrArg memory (readMap_keeps p)
  kill_keeps := whileAlive_keeps fun _ => rfl
  detach_keeps := whileAlive_keeps fun _ => rfl

/-- A word can be written at `a`, as long as the process is there. -/
def isWritable (p : Simulated) (a : Addr) : Bool := !p.failWrites && (p.memory.getWord? a).isSome

theorem isWritable_iff : p.isWritable a ↔ p.failWrites = false ∧ (p.memory.getWord? a).isSome := by
  simp [isWritable]

theorem Executed.isWritable_eq {o : Option Report} (h : Executed p o p') :
    p'.isWritable = p.isWritable := by
  funext a
  rw [isWritable, isWritable, h.memory_eq, h.failWrites_eq]

/-- What a request that lets the process run does: nothing, or it runs and, if
    it ends, has its exit to report. -/
structure Runs (act : Action Simulated Unit) : Prop where
  isWritable : act.Keeps (Unchanged isWritable)
  isAlive {p p' : Simulated} {r : Except Failure Unit} : act.Gives p r p' → p.isAlive →
    p'.isAlive ∨ r = .ok () ∧ ∃ code, p'.pending = some (.exited code)

theorem whileAlive_runs {f : Simulated → Simulated} (hw : ∀ p, (f p).isWritable = p.isWritable)
    (ha : ∀ p : Simulated, p.isAlive →
      (f p).isAlive ∨ ∃ code, (f p).pending = some (.exited code)) :
    Runs (whileAlive fun p => ((), f p)) where
  isWritable := whileAlive_keeps hw
  isAlive {p _ _} h halive := by
    rw [gives_whileAlive, if_pos halive] at h
    obtain ⟨rfl, rfl⟩ := h
    exact (ha p halive).imp_right fun hexit => ⟨rfl, hexit⟩

theorem resume_runs : Runs Tracee.resume :=
  whileAlive_runs (run_unchanged Executed.isWritable_eq (fun _ _ => rfl) runLimit)
    fun _ => run_isAlive runLimit

theorem step_runs : Runs Tracee.step :=
  whileAlive_runs (stepOnce_unchanged Executed.isWritable_eq fun _ _ => rfl)
    fun _ => stepOnce_isAlive

/-! ## Patching -/

/-- The byte at `a` is set by writing a word. -/
def patch (p : Simulated) (a : Addr) (v : UInt8) : Simulated :=
  { p with memory := p.memory.set a v, writes := p.writes + 1 }

/-- To set bytes that are mapped maps no others. -/
theorem getWord?_setWord_isSome {m : Memory} {w : Word} (h : (m.getWord? a).isSome) (x : Addr) :
    ((m.setWord a w).getWord? x).isSome = (m.getWord? x).isSome := by
  have hget : ∀ y, ((m.setWord a w).get? y).isSome = (m.get? y).isSome := by
    intro y
    rw [Memory.get?_setWord]
    split_ifs with hy
    · have := Memory.getWord?_isSome.1 h _ hy
      rw [UInt64.ofNat_toNat, UInt64.add_comm, UInt64.sub_add_cancel] at this
      rw [this]
      rfl
    · rfl
  rw [Bool.eq_iff_iff, Memory.getWord?_isSome, Memory.getWord?_isSome]
  simp only [hget]

theorem isWritable_writeWord {w : Word} {m : Memory} (h : p.memory.putWord? a w = some m) :
    isWritable { p with memory := m, writes := p.writes + 1 } = p.isWritable := by
  obtain ⟨hword, rfl⟩ := Memory.putWord?_eq_some.1 h
  funext x
  simp only [isWritable, getWord?_setWord_isSome hword]

theorem writeWord_gives (ha : p.isAlive) (hw : p.isWritable a) (w : Word) :
    (writeWord a w).Gives p (.ok ())
      { p with memory := p.memory.setWord a w, writes := p.writes + 1 } := by
  obtain ⟨hf, hword⟩ := isWritable_iff.1 hw
  have hput : p.memory.putWord? a w = some (p.memory.setWord a w) :=
    Memory.putWord?_eq_some.2 ⟨hword, rfl⟩
  simp [Gives, writeWord, ha, hf, hput]

theorem writeWord_gives_patch {w : Word} {v : UInt8} (ha : p.isAlive) (hw : p.isWritable a)
    (hword : p.memory.getWord? a = some w) :
    (writeWord a (w.withLowByte v)).Gives p (.ok ()) (p.patch a v) := by
  have h := writeWord_gives ha hw (w.withLowByte v)
  rwa [Memory.setWord_withLowByte hword v] at h

theorem isWritable_patch {v : UInt8} (h : p.isWritable a) :
    (p.patch a v).isWritable = p.isWritable := by
  obtain ⟨w, hw⟩ := Option.isSome_iff_exists.1 (isWritable_iff.1 h).2
  refine isWritable_writeWord (a := a) (w := w.withLowByte v) (Memory.putWord?_eq_some.2 ⟨?_, ?_⟩)
  · simp [hw]
  · exact (Memory.setWord_withLowByte hw v).symm

end Simulated

namespace Breakpoint

open Simulated

variable {p : Simulated} {a : Addr} {v : UInt8}

theorem enable_gives (ha : p.isAlive) (hw : p.isWritable a) (hv : p.memory.get? a = some v) :
    (enable ⟨a, none⟩).Gives p (.ok ⟨a, some v⟩) (p.patch a trapByte) := by
  obtain ⟨w, hword⟩ := Option.isSome_iff_exists.1 (isWritable_iff.1 hw).2
  have hlow : w.toUInt8 = v := Option.some.inj ((Memory.getWord?_lowByte hword).symm.trans hv)
  rw [enable, if_neg (by simp [isEnabled])]
  refine (readWord_gives ha hword).bind ?_
  rw [gives_log_bind, gives_log_bind, ← hlow]
  exact (writeWord_gives_patch ha hw hword).bind (gives_pure.2 ⟨rfl, rfl⟩)

theorem disable_gives (ha : p.isAlive) (hw : p.isWritable a) :
    (disable ⟨a, some v⟩).Gives p (.ok ⟨a, none⟩) (p.patch a v) := by
  obtain ⟨w, hword⟩ := Option.isSome_iff_exists.1 (isWritable_iff.1 hw).2
  refine (readWord_gives ha hword).bind ?_
  rw [gives_log_bind, gives_log_bind]
  exact (writeWord_gives_patch ha hw hword).bind (gives_pure.2 ⟨rfl, rfl⟩)

/-- Where a word cannot be written, rewriting it fails and does nothing. -/
theorem rewrite_fails (h : ¬ (p.isAlive ∧ p.isWritable a)) (found rewritten : Word → String)
    (f : Word → Word) (g : Word → Breakpoint) :
    ∃ e, (do
      let w ← readWord a
      log .trace .breakpoint (found w)
      log .trace .breakpoint (rewritten w)
      writeWord a (f w)
      return g w : Action Simulated Breakpoint).Gives p (.error e) p := by
  obtain ⟨r, p₁, hr⟩ : ∃ r p₁, (readWord a).Gives p r p₁ := ⟨_, _, gives_self _ p⟩
  obtain ⟨rfl, hword⟩ := gives_readWord hr
  rcases r with e | w
  · exact ⟨e, hr.bind_error⟩
  obtain ⟨r', p₂, hw⟩ : ∃ r' p₂, (writeWord a (f w)).Gives p₁ r' p₂ := ⟨_, _, gives_self _ p₁⟩
  obtain ⟨⟨e, rfl⟩, rfl⟩ | ⟨m, -, ha, hf, -⟩ := gives_writeWord hw
  · exact ⟨e, hr.bind (gives_log_bind.2 (gives_log_bind.2 hw.bind_error))⟩
  · exact absurd ⟨ha, isWritable_iff.2 ⟨hf, by simp [hword w rfl]⟩⟩ h

/-- What cannot be written cannot be enabled. -/
theorem enable_fails (h : ¬ (p.isAlive ∧ p.isWritable a)) :
    ∃ e, (enable ⟨a, none⟩).Gives p (.error e) p := by
  rw [enable, if_neg (by simp [isEnabled])]
  exact rewrite_fails h _ _ _ _

/-- Nor can it be disabled. -/
theorem disable_fails (h : ¬ (p.isAlive ∧ p.isWritable a)) :
    ∃ e, (disable ⟨a, some v⟩).Gives p (.error e) p :=
  rewrite_fails h _ _ _ _

end Breakpoint

end SourceDebugger
