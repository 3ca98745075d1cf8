/-
  Traps and the bytes of the program.  The memory of a debuggee holds a trap
  wherever a breakpoint is enabled; what the program itself has there is the
  byte that the breakpoint keeps.

  * `Debuggee.ownByte` is the byte of the program itself, `Debuggee.Intact`
    says that all traps are in memory;
  * `Debuggee.Patched` are the ways in which an operation on breakpoints
    changes memory and table, each of which keeps both (`Patched.undisturbed`);
  * every operation of a debuggee but the writing of memory keeps both as long
    as the process is there, whichever access fails (`Undisturbed`).
-/
import SourceDebugger.Proofs.History

namespace SourceDebugger

/-! ## Saved bytes -/

namespace BreakpointTable

variable {t : BreakpointTable} {a : Addr}

/-- The byte that an enabled breakpoint at `a` keeps. -/
def saved? (t : BreakpointTable) (a : Addr) : Option UInt8 := (t.get? a).bind (·.saved)

theorem isEnabledAt_eq : t.isEnabledAt a = (t.saved? a).isSome := by
  rw [isEnabledAt, saved?]
  cases t.get? a <;> rfl

theorem exists_saved? (h : t.isEnabledAt a) : ∃ v, t.saved? a = some v :=
  Option.isSome_iff_exists.1 (isEnabledAt_eq ▸ h)

theorem saved?_eq_some {v : UInt8} : t.saved? a = some v ↔ t.get? a = some ⟨a, some v⟩ := by
  rw [saved?, Option.bind_eq_some_iff]
  constructor
  · rintro ⟨b, hb, hv⟩
    rw [hb, ← addr_of_get? hb, ← hv]
  · intro h
    exact ⟨_, h, rfl⟩

theorem contains_of_isEnabledAt (h : t.isEnabledAt a) : t.contains a := by
  obtain ⟨b, hb, -⟩ := (Option.any_eq_true _ _).1 h
  exact contains_of_get? hb

theorem saved?_put (b : Breakpoint) (x : Addr) :
    (t.put b).saved? x = if b.addr = x then b.saved else t.saved? x := by
  rw [saved?, get?_put]
  split_ifs <;> rfl

theorem saved?_erase (x : Addr) : (t.erase a).saved? x = if a = x then none else t.saved? x := by
  rw [saved?, get?_erase]
  split_ifs <;> rfl

end BreakpointTable

namespace Debuggee

open SourceDebugger.Action ByteMemory

variable {τ : Type} [Tracee τ] [ByteMemory τ] {d d' : Debuggee τ} {a : Addr}

/-- The memory of the process, with the traps in it. -/
def memory (d : Debuggee τ) : Memory := ByteMemory.memory d.tracee

/-- The byte of the program itself at `a`: the one that a trap replaces, or
    the one in memory. -/
def ownByte (d : Debuggee τ) (a : Addr) : Option UInt8 :=
  (d.breakpoints.saved? a).or (d.memory.get? a)

/-- The trap of every enabled breakpoint is in memory. -/
def Intact (d : Debuggee τ) : Prop :=
  ∀ a, d.breakpoints.isEnabledAt a → d.memory.get? a = some trapByte

instance (d : Debuggee τ) : Decidable d.Intact :=
  have : Decidable (∀ a ∈ d.breakpoints.addresses, d.breakpoints.isEnabledAt a →
    d.memory.get? a = some trapByte) := List.decidableBAll _ _
  decidable_of_iff (∀ a ∈ d.breakpoints.addresses, d.breakpoints.isEnabledAt a →
      d.memory.get? a = some trapByte)
    ⟨fun h a ha =>
      h a (BreakpointTable.mem_addresses.2 (BreakpointTable.contains_of_isEnabledAt ha)) ha,
      fun h a _ => h a⟩

/-- If the process is there afterwards, it was there before, the program has
    the same bytes, and no trap was lost. -/
def Undisturbed (d d' : Debuggee τ) : Prop :=
  d'.isAlive → d.isAlive ∧ d'.ownByte = d.ownByte ∧ (d.Intact → d'.Intact)

instance : IsPreorder (Debuggee τ) Undisturbed where
  refl _ h := ⟨h, rfl, id⟩
  trans _ _ _ h₁ h₂ h := by
    obtain ⟨hb, ho, hi⟩ := h₂ h
    obtain ⟨ha, ho', hi'⟩ := h₁ hb
    exact ⟨ha, ho.trans ho', hi ∘ hi'⟩

theorem ownByte_of_not_enabled (h : ¬ d.breakpoints.isEnabledAt a) :
    d.ownByte a = d.memory.get? a := by
  rw [BreakpointTable.isEnabledAt_eq, Option.not_isSome_iff_eq_none] at h
  rw [ownByte, h]
  rfl

/-- Table and own bytes determine the memory. -/
theorem memory_eq (hb : d'.breakpoints = d.breakpoints) (ho : d'.ownByte = d.ownByte)
    (hi : d.Intact) (hi' : d'.Intact) : d'.memory = d.memory := by
  refine Memory.ext_get? fun a => ?_
  by_cases ha : d.breakpoints.isEnabledAt a
  · rw [hi a ha, hi' a (hb ▸ ha)]
  · rw [← ownByte_of_not_enabled ha, ← ho, ownByte_of_not_enabled (hb ▸ ha)]

/-! ## Changes of memory and table -/

/-- The ways in which an operation on breakpoints changes memory and table. -/
inductive Patched (d d' : Debuggee τ) : Prop where
  | same (memory : d'.memory = d.memory) (breakpoints : d'.breakpoints = d.breakpoints)
  /-- A byte is saved and replaced by a trap. -/
  | trapped (a : Addr) (v : UInt8) (free : d.breakpoints.saved? a = none)
      (byte : d.memory.get? a = some v) (memory : d'.memory = d.memory.set a trapByte)
      (breakpoints : d'.breakpoints = d.breakpoints.put ⟨a, some v⟩)
  /-- A saved byte is put back. -/
  | restored (a : Addr) (v : UInt8) (saved : d.breakpoints.saved? a = some v)
      (memory : d'.memory = d.memory.set a v)
      (breakpoints : d'.breakpoints = d.breakpoints.put ⟨a, none⟩)
  /-- A breakpoint that keeps no byte is forgotten. -/
  | forgotten (a : Addr) (free : d.breakpoints.saved? a = none) (memory : d'.memory = d.memory)
      (breakpoints : d'.breakpoints = d.breakpoints.erase a)

theorem Patched.ownByte_eq (h : Patched d d') : d'.ownByte = d.ownByte := by
  funext x
  cases h with
  | same hm hb => simp only [ownByte, hm, hb]
  | trapped a v hf hv hm hb =>
    simp only [ownByte, hm, hb, BreakpointTable.saved?_put, Memory.get?_set]
    split_ifs with hx
    · rw [← hx, hf, hv]
      rfl
    · rfl
  | restored a v hs hm hb =>
    simp only [ownByte, hm, hb, BreakpointTable.saved?_put, Memory.get?_set]
    split_ifs with hx
    · rw [← hx, hs]
      rfl
    · rfl
  | forgotten a hf hm hb =>
    simp only [ownByte, hm, hb, BreakpointTable.saved?_erase]
    split_ifs with hx
    · rw [← hx, hf]
    · rfl

theorem Patched.intact (h : Patched d d') (hi : d.Intact) : d'.Intact := by
  intro x hx
  rw [BreakpointTable.isEnabledAt_eq] at hx
  have hold : (d.breakpoints.saved? x).isSome → d.memory.get? x = some trapByte := by
    rw [← BreakpointTable.isEnabledAt_eq]
    exact hi x
  cases h with
  | same hm hb =>
    rw [hm]
    exact hold (hb ▸ hx)
  | trapped a v hf hv hm hb =>
    rw [hb, BreakpointTable.saved?_put] at hx
    rw [hm, Memory.get?_set]
    split_ifs at hx ⊢ with hxa
    · rfl
    · exact hold hx
  | restored a v hs hm hb =>
    rw [hb, BreakpointTable.saved?_put] at hx
    rw [hm, Memory.get?_set]
    split_ifs at hx ⊢ with hxa
    · simp at hx
    · exact hold hx
  | forgotten a hf hm hb =>
    rw [hb, BreakpointTable.saved?_erase] at hx
    rw [hm]
    split_ifs at hx with hxa
    · simp at hx
    · exact hold hx

theorem Patched.undisturbed (h : Patched d d') (hs : d'.state = d.state) : Undisturbed d d' := by
  intro ha
  refine ⟨?_, h.ownByte_eq, h.intact⟩
  rwa [isAlive_iff, ← hs, ← isAlive_iff]

/-! ## Operations on breakpoints -/

/-- Enabling a breakpoint of the table or a new one. -/
theorem gives_enable_put {b : Breakpoint} (hs : d.breakpoints.saved? b.addr = b.saved)
    {r : Except Failure Unit}
    (h : (do
      let b ← request b.enable
      modify fun d => { d with breakpoints := d.breakpoints.put b } :
        Action (Debuggee τ) Unit).Gives d r d') :
    d'.state = d.state ∧ Patched d d' := by
  obtain ⟨e, t, hen, rfl, rfl⟩ | ⟨b', t, hen, rfl, rfl⟩ := gives_requestPut.1 h
  · rcases Breakpoint.gives_enable hen with ⟨e', -, hm⟩ | ⟨v, -, -, hr, -⟩
    · exact ⟨rfl, .same hm rfl⟩
    · cases hr
  · rcases Breakpoint.gives_enable hen with ⟨e', hr, -⟩ | ⟨v, hf, hv, hr, hm⟩
    · cases hr
    · cases hr
      exact ⟨rfl, .trapped b.addr v (hs.trans hf) hv hm rfl⟩

/-- Disabling a breakpoint of the table. -/
theorem gives_disable_put {b : Breakpoint} (hs : d.breakpoints.saved? b.addr = b.saved)
    {r : Except Failure Unit}
    (h : (do
      let b ← request b.disable
      modify fun d => { d with breakpoints := d.breakpoints.put b } :
        Action (Debuggee τ) Unit).Gives d r d') :
    d'.state = d.state ∧ Patched d d' ∧
      (r = .ok () → d'.breakpoints = d.breakpoints.put { b with saved := none }) := by
  obtain ⟨e, t, hdis, rfl, rfl⟩ | ⟨b', t, hdis, rfl, rfl⟩ := gives_requestPut.1 h
  · rcases Breakpoint.gives_disable hdis with ⟨e', -, hm⟩ | ⟨v, -, hr, -⟩
    · exact ⟨rfl, .same hm rfl, by simp⟩
    · cases hr
  · rcases Breakpoint.gives_disable hdis with ⟨e', hr, -⟩ | ⟨v, hv, hr, hm⟩
    · cases hr
    · cases hr
      exact ⟨rfl, .restored b.addr v (hs.trans hv) hm rfl, fun _ => rfl⟩

theorem saved?_of_get? {t : BreakpointTable} {b : Breakpoint} (h : t.get? a = some b) :
    t.saved? b.addr = b.saved := by
  rw [BreakpointTable.addr_of_get? h, BreakpointTable.saved?, h]
  rfl

theorem gives_enableAt {r : Except Failure Unit} (h : (enableAt a).Gives d r d') :
    d'.state = d.state ∧ Patched d d' := by
  rw [enableAt, gives_inspect_bind] at h
  split at h
  · obtain ⟨rfl, rfl⟩ := gives_pure.1 h
    exact ⟨rfl, .same rfl rfl⟩
  rename_i b hb
  exact gives_enable_put (saved?_of_get? hb) h

theorem gives_disableAt {r : Except Failure Unit} (h : (disableAt a).Gives d r d') :
    d'.state = d.state ∧ Patched d d' ∧ (r = .ok () → d'.breakpoints.saved? a = none) := by
  rw [disableAt, gives_inspect_bind] at h
  split at h
  · rename_i hb
    obtain ⟨rfl, rfl⟩ := gives_pure.1 h
    exact ⟨rfl, .same rfl rfl, fun _ => by rw [BreakpointTable.saved?, hb]; rfl⟩
  rename_i b hb
  obtain ⟨hs, hp, hput⟩ := gives_disable_put (saved?_of_get? hb) h
  refine ⟨hs, hp, fun hr => ?_⟩
  rw [hput hr, BreakpointTable.saved?_put, BreakpointTable.addr_of_get? hb, if_pos rfl]

theorem enableAt_keeps (a : Addr) : (enableAt a : Action (Debuggee τ) Unit).Keeps Undisturbed :=
  .of_gives fun _ _ _ h => (gives_enableAt h).2.undisturbed (gives_enableAt h).1

theorem disableAt_keeps (a : Addr) : (disableAt a : Action (Debuggee τ) Unit).Keeps Undisturbed :=
  .of_gives fun _ _ _ h => (gives_disableAt h).2.1.undisturbed (gives_disableAt h).1

theorem insertBreakpoint_keeps (a : Addr) :
    (insertBreakpoint a : Action (Debuggee τ) Bool).Keeps Undisturbed := by
  refine .of_gives fun d r d' h => ?_
  rw [insertBreakpoint, gives_inspect_bind] at h
  split at h
  · split_ifs at h
    · rcases gives_bind.1 h with ⟨e, hen, -⟩ | ⟨_, d₁, hen, h⟩
      · exact (enableAt_keeps a).gives hen
      · rw [gives_log_bind, gives_pure] at h
        obtain ⟨-, rfl⟩ := h
        exact (enableAt_keeps a).gives hen
    · rw [gives_log_bind, gives_pure] at h
      obtain ⟨-, rfl⟩ := h
      exact refl_of Undisturbed _
  · rename_i hb
    have hs : d.breakpoints.saved? (⟨a, none⟩ : Breakpoint).addr = none := by
      rw [BreakpointTable.saved?, hb]
      rfl
    rw [← bind_assoc] at h
    rcases gives_bind.1 h with ⟨e, hput, -⟩ | ⟨_, d₁, hput, h⟩
    · exact (gives_enable_put hs hput).2.undisturbed (gives_enable_put hs hput).1
    · obtain ⟨-, rfl⟩ := gives_pure.1 h
      exact (gives_enable_put hs hput).2.undisturbed (gives_enable_put hs hput).1

theorem eraseBreakpoint_keeps (a : Addr) :
    (eraseBreakpoint a : Action (Debuggee τ) Unit).Keeps Undisturbed := by
  refine .of_gives fun d r d' h => ?_
  rw [eraseBreakpoint, gives_inspect_bind] at h
  split at h
  · obtain ⟨-, rfl⟩ := gives_log.1 h
    exact refl_of Undisturbed _
  rename_i b hb
  split_ifs at h with hen
  · rcases gives_bind.1 h with ⟨e, hdis, -⟩ | ⟨_, d₁, hdis, h⟩
    · exact (disableAt_keeps a).gives hdis
    · obtain ⟨-, rfl⟩ := gives_modify.1 h
      have hfree := (gives_disableAt hdis).2.2 rfl
      refine trans_of Undisturbed ((disableAt_keeps a).gives hdis) ?_
      exact Patched.undisturbed (.forgotten a hfree rfl rfl) rfl
  · obtain ⟨-, rfl⟩ := gives_modify.1 h
    have hfree : d.breakpoints.saved? a = none := by
      rw [BreakpointTable.saved?, hb]
      simpa [Breakpoint.isEnabled] using hen
    exact Patched.undisturbed (.forgotten a hfree rfl rfl) rfl

theorem disableEach_keeps (addrs : List Addr) :
    (disableEach addrs : Action (Debuggee τ) Unit).Keeps Undisturbed :=
  keeps_disableEach disableAt_keeps addrs

/-! ## Other operations -/

theorem undisturbed_of_memory (hm : d'.memory = d.memory) (hs : d'.state = d.state)
    (hb : d'.breakpoints = d.breakpoints) : Undisturbed d d' :=
  Patched.undisturbed (.same hm hb) hs

/-- A request that leaves the memory alone. -/
theorem requestAlive_undisturbed {α : Type} {act : Action τ α}
    (h : act.Keeps (Unchanged ByteMemory.memory)) : (requestAlive act).Keeps Undisturbed := by
  refine requestAlive_keeps (.of_gives fun d r d' hg => ?_)
  obtain ⟨t, ht, rfl⟩ := gives_request.1 hg
  exact undisturbed_of_memory (h.gives ht) rfl rfl

theorem ensureAlive_keeps : (ensureAlive : Action (Debuggee τ) Unit).Keeps Undisturbed :=
  fun d => refl_of Undisturbed d

theorem setBreakpoint_keeps (a : Addr) :
    (setBreakpoint a : Action (Debuggee τ) Bool).Keeps Undisturbed := by
  refine .bind ensureAlive_keeps fun _ => .bind (insertBreakpoint_keeps a) fun added => ?_
  cases added
  · exact .pure _
  · exact .bind (.log _ _ _) fun _ => .pure _

theorem removeBreakpoint_keeps (a : Addr) :
    (removeBreakpoint a : Action (Debuggee τ) Unit).Keeps Undisturbed :=
  .bind ensureAlive_keeps fun _ => eraseBreakpoint_keeps a

theorem runAndWait_undisturbed {act : Action τ Unit}
    (hact : act.Keeps (Unchanged ByteMemory.memory)) {r : Except Failure StopEvent}
    (h : (runAndWait act).Gives d r d') (hd : d.isAlive) :
    Undisturbed d d' := by
  have hm : d'.memory = d.memory :=
    (runAndWait_keeps wait_keeps (readRegister_keeps _) (writeRegister_keeps _) hact).gives h
  intro ha
  rcases gives_runAndWait h hd with ⟨-, hb, -⟩ | ⟨hs, -, -⟩
  · have hp : Patched d d' := .same hm hb
    exact ⟨hd, hp.ownByte_eq, hp.intact⟩
  · exact absurd hs (isAlive_iff.1 ha)

theorem singleStep_keeps : (singleStep : Action (Debuggee τ) StopEvent).Keeps Undisturbed := by
  refine .of_gives fun d r d' h => ?_
  rw [gives_singleStep] at h
  split_ifs at h with hd
  · exact runAndWait_undisturbed step_keeps h hd
  · obtain ⟨-, rfl⟩ := h
    exact refl_of Undisturbed _

theorem stepOverBreakpoint_keeps :
    (stepOverBreakpoint : Action (Debuggee τ) (Option StopEvent)).Keeps Undisturbed :=
  keeps_stepOverBreakpoint (requestAlive_undisturbed (readRegister_keeps _)) disableAt_keeps
    singleStep_keeps enableAt_keeps

theorem stepInstruction_keeps :
    (stepInstruction : Action (Debuggee τ) StopEvent).Keeps Undisturbed := by
  refine .bind stepOverBreakpoint_keeps fun event => ?_
  cases event
  · exact singleStep_keeps
  · exact .pure _

theorem continueExecution_keeps :
    (continueExecution : Action (Debuggee τ) StopEvent).Keeps Undisturbed :=
  keeps_continueExecution stepOverBreakpoint_keeps (runAndWait_undisturbed resume_keeps)

theorem markExited_keeps : (markExited : Action (Debuggee τ) Unit).Keeps Undisturbed := by
  refine .of_gives fun d r d' h ha => ?_
  obtain ⟨-, rfl⟩ := gives_markExited.1 h
  exact absurd rfl (isAlive_iff.1 ha)

theorem kill_keeps : (kill : Action (Debuggee τ) Unit).Keeps Undisturbed :=
  .bind (requestAlive_undisturbed ByteMemory.kill_keeps) fun _ => .bind (.log _ _ _) fun _ =>
    markExited_keeps

theorem detachIn_keeps (order : List Addr) :
    (detachIn order : Action (Debuggee τ) Unit).Keeps Undisturbed := by
  refine .bind ensureAlive_keeps fun _ => .bind (disableEach_keeps order) fun _ =>
    .bind (.of_gives fun d r d' h => ?_) fun _ => markExited_keeps
  obtain ⟨t, ht, rfl⟩ := gives_request.1 h
  exact undisturbed_of_memory (ByteMemory.detach_keeps.gives ht) rfl rfl

theorem readMemory_keeps (a : Addr) : (readMemory a : Action (Debuggee τ) Word).Keeps Undisturbed :=
  requestAlive_undisturbed (readWord_keeps a)

/-- Moving disturbs nothing. -/
theorem undisturbed_moving : KeptByMoving (Undisturbed (τ := τ)) where
  readRegister reg := requestAlive_undisturbed (readRegister_keeps reg)
  readMemory := readMemory_keeps
  memoryMap := requestAlive_undisturbed memoryMap_keeps
  writeRegister reg value := requestAlive_undisturbed (writeRegister_keeps reg value)
  stepInstruction := stepInstruction_keeps
  continueExecution := continueExecution_keeps
  kill := kill_keeps
  detachIn := detachIn_keeps

/-- The user writes a word, or nothing is changed. -/
theorem gives_writeMemory {value : Word} {r : Except Failure Unit}
    (h : (writeMemory a value).Gives d r d') :
    d'.state = d.state ∧ d'.breakpoints = d.breakpoints ∧
      ((∃ e, r = .error e) ∧ d'.memory = d.memory ∨
        r = .ok () ∧ d'.memory = d.memory.setWord a value) := by
  rw [writeMemory, gives_requestAlive] at h
  split_ifs at h
  · obtain ⟨t, ht, rfl⟩ := gives_request.1 h
    refine ⟨rfl, rfl, ?_⟩
    rcases r with e | _
    · exact Or.inl ⟨⟨e, rfl⟩, writeWord_error ht⟩
    · exact Or.inr ⟨rfl, (Memory.putWord?_eq_some.1 (writeWord_ok ht)).2⟩
  · obtain ⟨rfl, rfl⟩ := h
    exact ⟨rfl, rfl, Or.inl ⟨⟨_, rfl⟩, rfl⟩⟩

/-! ## Coherence -/

/-- Memory and table agree with `orig`, the memory of the program itself. -/
structure Coherent (orig : Memory) (d : Debuggee τ) : Prop where
  /-- Under an enabled breakpoint is a trap, and the byte of the program is
      kept. -/
  trapped (a : Addr) (b : Breakpoint) : d.breakpoints.get? a = some b → b.isEnabled →
    d.memory.get? a = some trapByte ∧ b.saved = orig.get? a
  /-- Elsewhere, and under a disabled breakpoint, is the byte of the program. -/
  elsewhere (a : Addr) : ¬ d.breakpoints.isEnabledAt a → d.memory.get? a = orig.get? a

theorem coherent_iff {orig : Memory} : d.Coherent orig ↔ d.Intact ∧ d.ownByte = orig.get? := by
  constructor
  · rintro ⟨htrap, helse⟩
    refine ⟨fun a ha => ?_, funext fun a => ?_⟩
    · obtain ⟨b, hb, hen⟩ := (Option.any_eq_true _ _).1 ha
      exact (htrap a b hb hen).1
    · by_cases ha : d.breakpoints.isEnabledAt a
      · obtain ⟨b, hb, hen⟩ := (Option.any_eq_true _ _).1 ha
        obtain ⟨v, hv⟩ := Option.isSome_iff_exists.1 hen
        rw [← (htrap a b hb hen).2, ownByte, BreakpointTable.saved?, hb, Option.bind_some, hv]
        rfl
      · have hfree : d.breakpoints.saved? a = none := by
          simpa [BreakpointTable.isEnabledAt_eq] using ha
        rw [ownByte, hfree, helse a ha]
        rfl
  · rintro ⟨hi, ho⟩
    refine ⟨fun a b hb hen => ?_, fun a ha => ?_⟩
    · have hs : d.breakpoints.saved? a = b.saved := by
        rw [BreakpointTable.saved?, hb]
        rfl
      obtain ⟨v, hv⟩ := Option.isSome_iff_exists.1 hen
      refine ⟨hi a ?_, ?_⟩
      · rw [BreakpointTable.isEnabledAt_eq, hs]
        exact hen
      · rw [← ho, ownByte, hs, hv]
        rfl
    · have hfree : d.breakpoints.saved? a = none := by
        simpa [BreakpointTable.isEnabledAt_eq] using ha
      rw [← ho, ownByte, hfree]
      rfl

/-- A word that is written where no breakpoint is becomes part of the program. -/
theorem Coherent.setWord {orig : Memory} {value : Word} (h : d.Coherent orig)
    (hm : d'.memory = d.memory.setWord a value) (hb : d'.breakpoints = d.breakpoints)
    (hfree : ∀ i < 8, ¬ d.breakpoints.isEnabledAt (a + UInt64.ofNat i)) :
    d'.Coherent (orig.setWord a value) := by
  have hoff : ∀ x, (x - a).toNat < 8 → ¬ d.breakpoints.isEnabledAt x := by
    intro x hx
    have := hfree _ hx
    rwa [UInt64.ofNat_toNat, UInt64.add_comm, UInt64.sub_add_cancel] at this
  refine ⟨fun x b hx hen => ?_, fun x hx => ?_⟩
  · rw [hb] at hx
    have hfar : ¬ (x - a).toNat < 8 := fun hi => hoff x hi ((Option.any_eq_true _ _).2 ⟨b, hx, hen⟩)
    rw [hm, Memory.get?_setWord, Memory.get?_setWord, if_neg hfar, if_neg hfar]
    exact h.trapped x b hx hen
  · rw [hb] at hx
    rw [hm, Memory.get?_setWord, Memory.get?_setWord, h.elsewhere x hx]

end Debuggee

/-! ## Sessions -/

/-- The addresses of the bytes that the user overwrites. -/
def Interaction.overwrites : Interaction → List Addr
  | .command (.writeMemory a _) => (List.range 8).map fun i => a + UInt64.ofNat i
  | _ => []

namespace Session

open SourceDebugger.Action Debuggee

variable {τ : Type}

/-- No byte is overwritten that belongs to a breakpoint. -/
def Exchange.Avoids (x : Exchange τ) : Prop :=
  ∀ a ∈ x.interaction.overwrites, ¬ x.before.debuggee.breakpoints.contains a

instance (x : Exchange τ) : Decidable x.Avoids :=
  List.decidableBAll _ _

theorem Exchange.write_of_ne {m : Memory} {x : Exchange τ}
    (hx : ∀ a value, x.interaction ≠ .command (.writeMemory a value)) : x.write m = m := by
  obtain ⟨s, i, r⟩ := x
  unfold Exchange.write
  split
  · rename_i a value _ hi _
    exact absurd hi (hx a value)
  · rfl

variable [Tracee τ] [ByteMemory τ]

theorem runTo_undisturbed (stops : List Addr) :
    (runTo stops : Action (Session τ) StopEvent).Keeps (InvImage Undisturbed Session.debuggee) :=
  runTo_keeps undisturbed_moving.toKeptByReading Debuggee.setBreakpoint_keeps
    Debuggee.removeBreakpoint_keeps Debuggee.continueExecution_keeps stops

/-- All but the writing of memory leaves the program as it is. -/
theorem perform_undisturbed {i : Interaction}
    (hi : ∀ a value, i ≠ .command (.writeMemory a value)) :
    (perform i : Action (Session τ) Feedback).Keeps (InvImage Undisturbed Session.debuggee) := by
  by_cases hp : ∃ c, i = .command c ∧ Patches c
  · obtain ⟨c, rfl, hc⟩ := hp
    refine .bind (.log _ _ _) fun _ => ?_
    cases c with
    | setBreakpoint place =>
      exact .bind (setBreakpoint_keeps Debuggee.setBreakpoint_keeps place) fun _ => .pure _
    | deleteBreakpoint a =>
      exact .bind (onDebuggee_keeps (Debuggee.removeBreakpoint_keeps a)) fun _ => .pure _
    | writeMemory a value => exact absurd rfl (hi a value)
    | _ => cases hc
  · refine perform_keeps undisturbed_moving runTo_undisturbed fun c hc hpc => hp ⟨c, hc, hpc⟩

/-- An interaction that avoids the breakpoints keeps a session coherent. -/
theorem coherent_perform {orig : Memory} {s s' : Session τ} {i : Interaction}
    {r : Except Failure Feedback} (h : s.debuggee.isAlive → s.debuggee.Coherent orig)
    (hp : (perform i).Gives s r s') (hi : Exchange.Avoids ⟨s, i, r⟩)
    (ha : s'.debuggee.isAlive) : s'.debuggee.Coherent (Exchange.write orig ⟨s, i, r⟩) := by
  by_cases hw : ∃ a value, i = .command (.writeMemory a value)
  · obtain ⟨a, value, rfl⟩ := hw
    rw [perform, execute, gives_log_bind, gives_map] at hp
    obtain ⟨r, hw, rfl⟩ := hp
    obtain ⟨d, hd, rfl⟩ := gives_onDebuggee.1 hw
    obtain ⟨hstate, hb, hm⟩ := gives_writeMemory hd
    have hcoh := h (isAlive_of_state hstate.symm ha)
    rcases hm with ⟨⟨e, rfl⟩, hm⟩ | ⟨rfl, hm⟩
    · have hp : Patched s.debuggee d := .same hm hb
      obtain ⟨hint, ho⟩ := coherent_iff.1 hcoh
      exact coherent_iff.2 ⟨hp.intact hint, hp.ownByte_eq.trans ho⟩
    · refine hcoh.setWord hm hb fun i hi' hen => hi (a + UInt64.ofNat i) ?_ ?_
      · exact List.mem_map.2 ⟨i, List.mem_range.2 hi', rfl⟩
      · exact BreakpointTable.contains_of_isEnabledAt hen
  · have hne : ∀ a value, i ≠ .command (.writeMemory a value) := fun a value he => hw ⟨a, value, he⟩
    obtain ⟨halive, ho, hint⟩ := (perform_undisturbed hne).gives hp ha
    obtain ⟨hint₀, ho₀⟩ := coherent_iff.1 (h halive)
    rw [Exchange.write_of_ne hne, coherent_iff]
    exact ⟨hint hint₀, ho.trans ho₀⟩

/-- **Coherence of sessions.**  However accesses fail, if no byte of a
    breakpoint is overwritten, memory and table agree with what the program had
    and the user wrote. -/
theorem coherent_after (t : τ) (resolver : Resolver) (config : Config) {is : List Interaction}
    (avoids : ∀ x ∈ (fresh t resolver config).exchanges is, x.Avoids)
    (alive : ((fresh t resolver config).after is).debuggee.isAlive) :
    ((fresh t resolver config).after is).debuggee.Coherent
      (written (ByteMemory.memory t) ((fresh t resolver config).exchanges is)) := by
  have hstart : (fresh t resolver config).debuggee.Coherent (ByteMemory.memory t) := by
    refine ⟨fun a b hb _ => ?_, fun a _ => rfl⟩
    rw [show (fresh t resolver config).debuggee.breakpoints.get? a = none from
      BreakpointTable.get?_empty a] at hb
    cases hb
  exact invariant_after (P := fun orig s => s.debuggee.isAlive → s.debuggee.Coherent orig)
    (fun _ _ _ _ _ h hp hi => coherent_perform h hp hi) (fun _ => hstart) avoids alive

end Session

end SourceDebugger
