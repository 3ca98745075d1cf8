/-
  What patching a breakpoint does to the memory of a tracee.

  * `ByteMemory` is a tracee whose memory can be seen, and which nothing but
    the writing of words changes;
  * `Breakpoint.gives_enable` and `Breakpoint.gives_disable`: a breakpoint
    that is patched sets the one byte at its address, and one that is not
    leaves the memory alone;
  * `BreakpointTable.ext_get?`: a table is determined by its breakpoints.
-/
import SourceDebugger.Proofs.Action
import SourceDebugger.Proofs.Memory
import SourceDebugger.Breakpoint

namespace SourceDebugger

open SourceDebugger.Action

/-- A tracee with byte addressed memory.  Any access may fail; a word that is
    read or written is one of the memory. -/
class ByteMemory (τ : Type) [Tracee τ] where
  memory : τ → Memory
  readWord_ok {a : Addr} {w : Word} {t t' : τ} :
    (Tracee.readWord a).Gives t (.ok w) t' → (memory t).getWord? a = some w
  writeWord_ok {a : Addr} {w : Word} {t t' : τ} :
    (Tracee.writeWord a w).Gives t (.ok ()) t' → (memory t).putWord? a w = some (memory t')
  writeWord_error {a : Addr} {w : Word} {e : Failure} {t t' : τ} :
    (Tracee.writeWord a w).Gives t (.error e) t' → memory t' = memory t
  readWord_keeps (a : Addr) : (Tracee.readWord a : Action τ Word).Keeps (Unchanged memory)
  readRegister_keeps (reg : Register) :
    (Tracee.readRegister reg : Action τ UInt64).Keeps (Unchanged memory)
  writeRegister_keeps (reg : Register) (v : UInt64) :
    (Tracee.writeRegister reg v : Action τ Unit).Keeps (Unchanged memory)
  resume_keeps : (Tracee.resume : Action τ Unit).Keeps (Unchanged memory)
  step_keeps : (Tracee.step : Action τ Unit).Keeps (Unchanged memory)
  wait_keeps : (Tracee.wait : Action τ Report).Keeps (Unchanged memory)
  memoryMap_keeps : (Tracee.memoryMap : Action τ MemoryMap).Keeps (Unchanged memory)
  kill_keeps : (Tracee.kill : Action τ Unit).Keeps (Unchanged memory)
  detach_keeps : (Tracee.detach : Action τ Unit).Keeps (Unchanged memory)

/-! ## Patching -/

namespace Breakpoint

section
variable {τ : Type} [Tracee τ] {T : τ → τ → Prop} [IsPreorder τ T]
  (hread : ∀ a, (Tracee.readWord a : Action τ Word).Keeps T)
  (hwrite : ∀ a w, (Tracee.writeWord a w : Action τ Unit).Keeps T)
include hread hwrite

/-- What reading and writing words keep is kept by patching. -/
theorem enable_keeps (b : Breakpoint) : (b.enable : Action τ Breakpoint).Keeps T := by
  unfold enable
  split_ifs
  · exact .fail _
  · exact .bind (hread _) fun _ => .bind (.log _ _ _) fun _ => .bind (.log _ _ _) fun _ =>
      .bind (hwrite _ _) fun _ => .pure _

theorem disable_keeps (b : Breakpoint) : (b.disable : Action τ Breakpoint).Keeps T := by
  unfold disable
  split
  · exact .fail _
  · exact .bind (hread _) fun _ => .bind (.log _ _ _) fun _ => .bind (.log _ _ _) fun _ =>
      .bind (hwrite _ _) fun _ => .pure _

end

open ByteMemory

variable {τ : Type} [Tracee τ] [ByteMemory τ] {t t' : τ} {b : Breakpoint}

/-- A word that is read and written back with the lowest byte `v`. -/
theorem memory_of_patch {a : Addr} {w : Word} {v : UInt8} {t₁ : τ}
    (hr : (Tracee.readWord a).Gives t (.ok w) t₁)
    (hw : (Tracee.writeWord a (w.withLowByte v)).Gives t₁ (.ok ()) t') :
    (memory t).get? a = some w.toUInt8 ∧ memory t' = (memory t).set a v := by
  have hword := readWord_ok hr
  have h₁ : memory t₁ = memory t := (readWord_keeps a).gives hr
  obtain ⟨-, hput⟩ := Memory.putWord?_eq_some.1 (writeWord_ok hw)
  rw [h₁, Memory.setWord_withLowByte hword] at hput
  exact ⟨Memory.getWord?_lowByte hword, hput⟩

/-- A breakpoint that is enabled keeps the byte that the trap replaces; one
    that cannot be enabled leaves the memory as it is. -/
theorem gives_enable {r : Except Failure Breakpoint} (h : b.enable.Gives t r t') :
    (∃ e, r = .error e ∧ memory t' = memory t) ∨
      ∃ v, b.saved = none ∧ (memory t).get? b.addr = some v ∧
        r = .ok { b with saved := some v } ∧ memory t' = (memory t).set b.addr trapByte := by
  unfold enable at h
  split_ifs at h with hb
  · obtain ⟨rfl, rfl⟩ := gives_fail.1 h
    exact Or.inl ⟨_, rfl, rfl⟩
  have hs : b.saved = none := by simpa [isEnabled] using hb
  rcases gives_bind.1 h with ⟨e, he, rfl⟩ | ⟨w, t₁, hw, h⟩
  · exact Or.inl ⟨e, rfl, (readWord_keeps _).gives he⟩
  have h₁ : memory t₁ = memory t := (readWord_keeps _).gives hw
  simp only [gives_log_bind] at h
  rcases gives_bind.1 h with ⟨e, he, rfl⟩ | ⟨_, t₂, hw', h⟩
  · exact Or.inl ⟨e, rfl, (writeWord_error he).trans h₁⟩
  · obtain ⟨rfl, rfl⟩ := gives_pure.1 h
    obtain ⟨hget, hmem⟩ := memory_of_patch hw hw'
    exact Or.inr ⟨_, hs, hget, rfl, hmem⟩

/-- A breakpoint that is disabled puts the saved byte back; one that cannot be
    disabled leaves the memory as it is. -/
theorem gives_disable {r : Except Failure Breakpoint} (h : b.disable.Gives t r t') :
    (∃ e, r = .error e ∧ memory t' = memory t) ∨
      ∃ v, b.saved = some v ∧ r = .ok { b with saved := none } ∧
        memory t' = (memory t).set b.addr v := by
  unfold disable at h
  split at h
  · obtain ⟨rfl, rfl⟩ := gives_fail.1 h
    exact Or.inl ⟨_, rfl, rfl⟩
  rename_i v hs
  rcases gives_bind.1 h with ⟨e, he, rfl⟩ | ⟨w, t₁, hw, h⟩
  · exact Or.inl ⟨e, rfl, (readWord_keeps _).gives he⟩
  have h₁ : memory t₁ = memory t := (readWord_keeps _).gives hw
  simp only [gives_log_bind] at h
  rcases gives_bind.1 h with ⟨e, he, rfl⟩ | ⟨_, t₂, hw', h⟩
  · exact Or.inl ⟨e, rfl, (writeWord_error he).trans h₁⟩
  · obtain ⟨rfl, rfl⟩ := gives_pure.1 h
    exact Or.inr ⟨v, hs, rfl, (memory_of_patch hw hw').2⟩

end Breakpoint

/-! ## Tables -/

namespace BreakpointTable

variable {t u : BreakpointTable} {a : Addr}

theorem ext_get? (h : ∀ a, t.get? a = u.get? a) : t = u := by
  obtain ⟨ts⟩ := t
  obtain ⟨us⟩ := u
  refine congrArg _ (Std.ExtTreeMap.ext_getElem? fun a => ?_)
  have ha := h a
  simp only [get?] at ha
  rcases ht : ts[a]? with _ | x <;> rcases hu : us[a]? with _ | y <;> simp_all

/-- A breakpoint stands in the table under its address. -/
theorem addr_of_get? {b : Breakpoint} (h : t.get? a = some b) : b.addr = a := by
  obtain ⟨x, -, rfl⟩ := Option.map_eq_some_iff.1 h
  rfl

theorem contains_eq_isSome (t : BreakpointTable) (a : Addr) :
    t.contains a = (t.get? a).isSome := by
  simp [contains, get?]

theorem contains_of_get? {b : Breakpoint} (h : t.get? a = some b) : t.contains a := by
  rw [contains_eq_isSome, h]
  rfl

theorem contains_put {b : Breakpoint} : (t.put b).contains a ↔ b.addr = a ∨ t.contains a := by
  rw [contains_eq_isSome, contains_eq_isSome, get?_put]
  split_ifs with h <;> simp [h]

theorem contains_erase {x : Addr} : (t.erase a).contains x ↔ a ≠ x ∧ t.contains x := by
  rw [contains_eq_isSome, contains_eq_isSome, get?_erase]
  split_ifs with h <;> simp [h]

theorem get?_eq_none : t.get? a = none ↔ ¬ t.contains a := by
  rw [contains_eq_isSome, Option.not_isSome_iff_eq_none]

theorem mem_addresses : a ∈ t.addresses ↔ t.contains a := by
  simp [addresses, contains, Std.ExtTreeMap.mem_keys]

theorem nodup_addresses (t : BreakpointTable) : t.addresses.Nodup := Std.ExtTreeMap.nodup_keys

/-- To put the breakpoint back that is at its address changes nothing. -/
theorem put_eq_self {b : Breakpoint} (h : t.get? b.addr = some b) : t.put b = t := by
  refine ext_get? fun x => ?_
  rw [get?_put]
  split_ifs with hx
  · rw [← hx, h]
  · rfl

/-- Of two breakpoints that are put at one address the second stays. -/
theorem put_put {b c : Breakpoint} (h : b.addr = c.addr) : (t.put b).put c = t.put c := by
  refine ext_get? fun x => ?_
  simp only [get?_put, h]
  split_ifs <;> rfl

end BreakpointTable

end SourceDebugger
