/-
  The breakpoints of a simulated process between commands.  Each can be
  patched, so that nothing which is toggled or added for a while stays so.

  * `Debuggee.Settled`: all breakpoints are enabled and can be patched, and
    without a process there are none;
  * `Debuggee.Steady`: a settled debuggee is left settled, with the same
    breakpoints if the process is still there.  Everything that moves the
    debuggee is steady;
  * `gives_setBreakpoint`, `removeBreakpoint_gives`: what becomes of the table
    when a breakpoint is set or removed.
-/
import SourceDebugger.Proofs.Coherence
import SourceDebugger.Proofs.Simulated

namespace SourceDebugger.Debuggee

open SourceDebugger.Action Simulated

variable {d d' : Debuggee Simulated} {a : Addr} {v : UInt8}

/-! ## Debuggees that can be patched -/

/-- Every breakpoint can be patched. -/
def Ready (d : Debuggee Simulated) : Prop :=
  ∀ a, d.breakpoints.contains a → d.tracee.isAlive ∧ d.tracee.isWritable a

/-- The debuggee with the byte `v` at `a`, and other breakpoints. -/
def patch (d : Debuggee Simulated) (a : Addr) (v : UInt8) (breakpoints : BreakpointTable) :
    Debuggee Simulated :=
  { d with tracee := d.tracee.patch a v, breakpoints }

section
variable {t : BreakpointTable}

@[simp] theorem patch_tracee : (d.patch a v t).tracee = d.tracee.patch a v := rfl

@[simp] theorem patch_memory : (d.patch a v t).memory = d.memory.set a v := rfl

@[simp] theorem patch_breakpoints : (d.patch a v t).breakpoints = t := rfl

end

/-- All of a debuggee but its memory and breakpoints. -/
def rest (d : Debuggee Simulated) : Debuggee Simulated :=
  { d with tracee := { d.tracee with memory := {}, writes := 0 }, breakpoints := {} }

theorem eq_of_rest (h : d'.rest = d.rest) :
    d' = { d with
      tracee := { d.tracee with memory := d'.tracee.memory, writes := d'.tracee.writes }
      breakpoints := d'.breakpoints } := by
  exact congrArg (fun r : Debuggee Simulated => { r with
    tracee := { r.tracee with memory := d'.tracee.memory, writes := d'.tracee.writes }
    breakpoints := d'.breakpoints }) h

theorem Ready.mono (hd : d.Ready) (ha : d'.tracee.isAlive = d.tracee.isAlive)
    (hw : d'.tracee.isWritable = d.tracee.isWritable)
    (hb : ∀ a, d'.breakpoints.contains a → d.breakpoints.contains a) : d'.Ready := by
  intro a h
  rw [ha, hw]
  exact hd a (hb a h)

/-- An enabled breakpoint is disabled where a word can be written. -/
theorem disableAt_patches (hp : d.tracee.isAlive) (hw : d.tracee.isWritable a)
    (hs : d.breakpoints.saved? a = some v) :
    (disableAt a).Gives d (.ok ()) (d.patch a v (d.breakpoints.put ⟨a, none⟩)) := by
  rw [disableAt, gives_inspect_bind, BreakpointTable.saved?_eq_some.1 hs]
  exact (gives_request.2 ⟨_, Breakpoint.disable_gives hp hw, rfl⟩).bind (gives_modify.2 ⟨rfl, rfl⟩)

/-- A disabled breakpoint is enabled where a word can be written. -/
theorem enableAt_patches (hp : d.tracee.isAlive) (hw : d.tracee.isWritable a)
    (hb : d.breakpoints.get? a = some ⟨a, none⟩) (hv : d.tracee.memory.get? a = some v) :
    (enableAt a).Gives d (.ok ()) (d.patch a trapByte (d.breakpoints.put ⟨a, some v⟩)) := by
  rw [enableAt, gives_inspect_bind, hb]
  exact (gives_request.2 ⟨_, Breakpoint.enable_gives hp hw hv, rfl⟩).bind
    (gives_modify.2 ⟨rfl, rfl⟩)

/-- A breakpoint that is enabled can be disabled. -/
theorem disableAt_gives (hd : d.Ready) (hs : d.breakpoints.saved? a = some v) :
    (disableAt a).Gives d (.ok ()) (d.patch a v (d.breakpoints.put ⟨a, none⟩)) := by
  obtain ⟨ha, hw⟩ := hd a (BreakpointTable.contains_of_get? (BreakpointTable.saved?_eq_some.1 hs))
  exact disableAt_patches ha hw hs

/-- The program counter is read without a change. -/
theorem eq_of_gives_pc {r : Except Failure Addr} (h : pc.Gives d r d') : d' = d := by
  rw [pc, readRegister, gives_requestAlive] at h
  split_ifs at h
  · obtain ⟨t, ht, rfl⟩ := gives_request.1 h
    have : t = d.tracee := (whileAlive_keeps (f := id) fun _ => rfl).gives ht
    rw [this]
  · exact h.2

theorem readRegister_gives (hd : d.isAlive) (ha : d.tracee.isAlive) (reg : Register) :
    (readRegister reg).Gives d (.ok (d.tracee.registers.get reg)) d := by
  rw [readRegister, gives_requestAlive, if_pos hd]
  refine gives_request.2 ⟨d.tracee, gives_whileAlive.2 ?_, rfl⟩
  rw [if_pos ha]
  exact ⟨rfl, rfl⟩

theorem pc_gives (hd : d.isAlive) (ha : d.tracee.isAlive) : pc.Gives d (.ok d.tracee.pc) d :=
  readRegister_gives hd ha .rip

theorem setPc_gives (hd : d.isAlive) (ha : d.tracee.isAlive) :
    (setPc a).Gives d (.ok ()) { d with tracee := d.tracee.setPc a } := by
  rw [setPc, writeRegister, gives_requestAlive, if_pos hd]
  refine gives_request.2 ⟨d.tracee.setPc a, gives_whileAlive.2 ?_, rfl⟩
  rw [if_pos ha]
  exact ⟨rfl, rfl⟩

/-- What is read is at its address, in a process that is there. -/
theorem readMemory_cases {w : Word} (h : (readMemory a).Gives d (.ok w) d') :
    d' = d ∧ d.isAlive ∧ d.tracee.isAlive ∧ d.memory.getWord? a = some w := by
  rw [readMemory, gives_requestAlive] at h
  split_ifs at h with ha
  · obtain ⟨p, hp, rfl⟩ := gives_request.1 h
    obtain ⟨rfl, hword⟩ := gives_readWord hp
    exact ⟨rfl, ha, isAlive_of_readWord hp, hword _ rfl⟩
  · cases h.1

theorem readMemory_gives {w : Word} (hd : d.isAlive) (ha : d.tracee.isAlive)
    (hw : d.memory.getWord? a = some w) : (readMemory a).Gives d (.ok w) d := by
  rw [readMemory, gives_requestAlive, if_pos hd]
  exact gives_request.2 ⟨d.tracee, readWord_gives ha hw, rfl⟩

theorem readMemory_fails (hd : d.isAlive) (ha : d.tracee.isAlive)
    (hw : d.memory.getWord? a = none) :
    (readMemory a).Gives d (.error (.memoryAccess a .eio)) d := by
  rw [readMemory, gives_requestAlive, if_pos hd]
  exact gives_request.2 ⟨d.tracee, readWord_fails ha hw, rfl⟩

theorem writeMemory_gives (hd : d.isAlive) (ha : d.tracee.isAlive) (hw : d.tracee.isWritable a)
    (w : Word) :
    ∃ d', (writeMemory a w).Gives d (.ok ()) d' ∧ d'.memory = d.memory.setWord a w := by
  refine ⟨{ d with tracee :=
    { d.tracee with memory := d.memory.setWord a w, writes := d.tracee.writes + 1 } }, ?_, rfl⟩
  rw [writeMemory, gives_requestAlive, if_pos hd]
  exact gives_request.2 ⟨_, writeWord_gives ha hw w, rfl⟩

/-! ## Settled debuggees -/

/-- All breakpoints are enabled and can be patched; without a process there
    are none. -/
structure Settled (d : Debuggee Simulated) : Prop where
  ready : d.Ready
  enabled (a : Addr) : d.breakpoints.contains a → d.breakpoints.isEnabledAt a
  gone : ¬ d.isAlive → d.breakpoints = .empty

/-- A settled debuggee is left settled.  If the process is there, it was there
    before, and the breakpoints are the same. -/
def Steady (d d' : Debuggee Simulated) : Prop :=
  d.Settled → d'.Settled ∧ (d'.isAlive → d.isAlive ∧ (d.tracee.isAlive → d'.tracee.isAlive) ∧
    d'.breakpoints = d.breakpoints)

instance : IsPreorder (Debuggee Simulated) Steady where
  refl _ h := ⟨h, fun ha => ⟨ha, id, rfl⟩⟩
  trans _ _ _ h₁ h₂ h := by
    obtain ⟨hd₁, hk₁⟩ := h₁ h
    obtain ⟨hd₂, hk₂⟩ := h₂ hd₁
    refine ⟨hd₂, fun ha => ?_⟩
    obtain ⟨ha₁, ht₁, hb₁⟩ := hk₂ ha
    obtain ⟨ha₂, ht₂, hb₂⟩ := hk₁ ha₁
    exact ⟨ha₂, ht₁ ∘ ht₂, hb₁.trans hb₂⟩

theorem not_contains_empty : ¬ BreakpointTable.empty.contains a := by
  simp [BreakpointTable.contains_eq_isSome]

/-- Without a process there is nothing to settle. -/
theorem settled_of_empty (h : d.breakpoints = .empty) : d.Settled where
  ready _ ha := absurd (h ▸ ha) not_contains_empty
  enabled _ ha := absurd (h ▸ ha) not_contains_empty
  gone _ := h

theorem steady_of_exited (hs : d'.state = .exited) (hb : d'.breakpoints = .empty) : Steady d d' :=
  fun _ => ⟨settled_of_empty hb, fun ha => absurd hs (isAlive_iff.1 ha)⟩

/-- What changes neither the table nor whether it can be patched. -/
theorem steady_of_same (hs : d'.isAlive = d.isAlive) (ha : d'.tracee.isAlive = d.tracee.isAlive)
    (hw : d'.tracee.isWritable = d.tracee.isWritable) (hb : d'.breakpoints = d.breakpoints) :
    Steady d d' := by
  refine fun hd => ⟨⟨hd.ready.mono ha hw fun a h => hb ▸ h, ?_, ?_⟩, fun h => ⟨hs ▸ h, ?_, hb⟩⟩
  · rw [hb]
    exact hd.enabled
  · rw [hs, hb]
    exact hd.gone
  · rw [ha]
    exact id

theorem requestAlive_steady {α : Type} {act : Action Simulated α}
    (ha : act.Keeps (Unchanged Simulated.isAlive)) (hw : act.Keeps (Unchanged isWritable)) :
    (requestAlive act).Keeps Steady := by
  refine requestAlive_keeps (.of_gives fun d r d' h => ?_)
  obtain ⟨t, ht, rfl⟩ := gives_request.1 h
  exact steady_of_same rfl (ha.gives ht) (hw.gives ht) rfl

theorem readMemory_steady (a : Addr) : (readMemory a).Keeps Steady :=
  requestAlive_steady (.of_gives fun _ _ _ h => (gives_readWord h).1 ▸ rfl)
    (.of_gives fun _ _ _ h => (gives_readWord h).1 ▸ rfl)

theorem writeMemory_steady (a : Addr) (value : Word) : (writeMemory a value).Keeps Steady := by
  refine requestAlive_steady (.of_gives fun p r p' h => ?_) (.of_gives fun p r p' h => ?_)
  · rcases gives_writeWord h with ⟨-, rfl⟩ | ⟨m, -, -, -, -, rfl⟩ <;> rfl
  · rcases gives_writeWord h with ⟨-, rfl⟩ | ⟨m, -, -, -, hm, rfl⟩
    · rfl
    · exact isWritable_writeWord hm

/-! ## Running -/

theorem waitForStop_isWritable :
    waitForStop.Keeps (InvImage (Unchanged isWritable) Debuggee.tracee) :=
  waitForStop_keeps (.of_gives fun _ _ _ h => (gives_takePending h).1 ▸ rfl)
    (whileAlive_keeps fun _ => rfl) fun _ => whileAlive_keeps fun _ => rfl

theorem waitForStop_isAlive :
    waitForStop.Keeps (InvImage (Unchanged Simulated.isAlive) Debuggee.tracee) :=
  waitForStop_keeps (.of_gives fun _ _ _ h => (gives_takePending h).1 ▸ rfl)
    (whileAlive_keeps fun _ => rfl) fun _ => whileAlive_keeps fun _ => rfl

/-- An exit that is pending is what is waited for. -/
theorem waitForStop_exited {code : Int} (hp : d.tracee.pending = some (.exited code))
    {r : Except Failure StopEvent} (h : waitForStop.Gives d r d') : d'.state = .exited := by
  rw [gives_waitForStop] at h
  rcases gives_bind.1 h with ⟨e, hw, -⟩ | ⟨report, d₁, hw, hc⟩
  all_goals
    obtain ⟨t, ht, rfl⟩ := gives_request.1 hw
    obtain ⟨-, ⟨stop, hstop, hr⟩ | ⟨hnone, -⟩⟩ := gives_takePending ht
  · cases hr
  · rw [hp] at hnone
    cases hnone
  · rw [hp] at hstop
    cases hstop
    cases hr
    rw [classify, markExited, gives_modify_bind, gives_pure] at hc
    rw [hc.2]
  · rw [hp] at hnone
    cases hnone

/-- A process that has run can be patched as before; if the debuggee is still
    alive, so is the process. -/
theorem runAndWait_runs {act : Action Simulated Unit} (hact : Runs act)
    {r : Except Failure StopEvent} (h : (runAndWait act).Gives d r d') :
    d'.tracee.isWritable = d.tracee.isWritable ∧
      (d'.isAlive → d.tracee.isAlive → d'.tracee.isAlive) := by
  rcases gives_bind.1 h with ⟨e, hreq, rfl⟩ | ⟨_, d₁, hreq, hw⟩
  · obtain ⟨t, ht, rfl⟩ := gives_request.1 hreq
    refine ⟨hact.isWritable.gives ht, fun _ hp => ?_⟩
    obtain h | ⟨⟨⟩, -⟩ := hact.isAlive ht hp
    exact h
  · obtain ⟨t, ht, rfl⟩ := gives_request.1 hreq
    rw [setState, gives_modify_bind] at hw
    have hwait : d'.tracee.isWritable = t.isWritable := waitForStop_isWritable.gives hw
    refine ⟨hwait.trans (hact.isWritable.gives ht), fun ha hp => ?_⟩
    obtain h | ⟨-, code, hcode⟩ := hact.isAlive ht hp
    · have : d'.tracee.isAlive = t.isAlive := waitForStop_isAlive.gives hw
      rw [this, h]
    · exact absurd (waitForStop_exited hcode hw) (isAlive_iff.1 ha)

theorem runAndWait_steady {act : Action Simulated Unit} (hact : Runs act)
    {r : Except Failure StopEvent} (h : (runAndWait act).Gives d r d') (ha : d.isAlive) :
    Steady d d' := by
  obtain ⟨hw, htracee⟩ := runAndWait_runs hact h
  rcases gives_runAndWait h ha with ⟨ha', hb, -⟩ | ⟨hs, hb, -⟩
  · refine fun hd => ⟨⟨fun a hc => ?_, ?_, fun hdead => absurd ha' hdead⟩,
      fun _ => ⟨ha, htracee ha', hb⟩⟩
    · rw [hb] at hc
      obtain ⟨hp, hwr⟩ := hd.ready a hc
      exact ⟨htracee ha' hp, hw ▸ hwr⟩
    · rw [hb]
      exact hd.enabled
  · exact steady_of_exited hs hb

theorem singleStep_steady : singleStep.Keeps Steady := by
  refine .of_gives fun d r d' h => ?_
  rw [gives_singleStep] at h
  split_ifs at h with ha
  · exact runAndWait_steady step_runs h ha
  · exact h.2 ▸ refl_of Steady d

/-- What a step leaves as it is, if the process survives. -/
theorem singleStep_alive {r : Except Failure StopEvent} (h : singleStep.Gives d r d')
    (ha : d'.isAlive) :
    d'.memory = d.memory ∧ d'.breakpoints = d.breakpoints ∧
      d'.tracee.isWritable = d.tracee.isWritable ∧ (d.tracee.isAlive → d'.tracee.isAlive) := by
  rw [gives_singleStep] at h
  split_ifs at h with hd
  · have hm : d'.memory = d.memory :=
      (runAndWait_keeps ByteMemory.wait_keeps (ByteMemory.readRegister_keeps _)
        (ByteMemory.writeRegister_keeps _) ByteMemory.step_keeps).gives h
    obtain ⟨hw, htracee⟩ := runAndWait_runs step_runs h
    rcases gives_runAndWait h hd with ⟨-, hb, -⟩ | ⟨hs, -⟩
    · exact ⟨hm, hb, hw, htracee ha⟩
    · exact absurd hs (isAlive_iff.1 ha)
  · obtain ⟨-, rfl⟩ := h
    exact ⟨rfl, rfl, rfl, id⟩

theorem singleStep_gone {r : Except Failure StopEvent} (h : singleStep.Gives d r d')
    (hd : d.isAlive) (ha : ¬ d'.isAlive) : d'.state = .exited ∧ d'.breakpoints = .empty := by
  rw [gives_singleStep, if_pos hd] at h
  rcases gives_runAndWait h hd with ⟨ha', -⟩ | ⟨hs, hb, -⟩
  · exact absurd ha' ha
  · exact ⟨hs, hb⟩

theorem contains_of_put {t : BreakpointTable} {s : Option UInt8} (hc : t.contains a) (x : Addr)
    (hx : (t.put ⟨a, s⟩).contains x) : t.contains x := by
  obtain rfl | hx := BreakpointTable.contains_put.1 hx
  · exact hc
  · exact hx

theorem patch_ready (hd : d.Ready) (hc : d.breakpoints.contains a) {t : BreakpointTable}
    (ht : ∀ x, t.contains x → d.breakpoints.contains x) : (d.patch a v t).Ready :=
  hd.mono rfl (isWritable_patch (hd a hc).2) ht

/-- A breakpoint that has been disabled for a step can be enabled again, and
    the table is what it was. -/
theorem enableAt_restores (hp : d.tracee.isAlive) (hwr : d.tracee.isWritable a)
    (hs : d.breakpoints.saved? a = some v) {r : Except Failure StopEvent}
    (hstep : singleStep.Gives (d.patch a v (d.breakpoints.put ⟨a, none⟩)) r d') (ha : d'.isAlive) :
    (enableAt a).Gives d' (.ok ()) (d'.patch a trapByte d.breakpoints) ∧
      d'.tracee.isAlive ∧ d'.tracee.isWritable = d.tracee.isWritable := by
  obtain ⟨hm, hb, hw, htracee⟩ := singleStep_alive hstep ha
  have hget := BreakpointTable.saved?_eq_some.1 hs
  have hw' : d'.tracee.isWritable = d.tracee.isWritable := hw.trans (isWritable_patch hwr)
  have hentry : d'.breakpoints.get? a = some ⟨a, none⟩ := by
    rw [hb]
    exact (BreakpointTable.get?_put _ _ _).trans (if_pos rfl)
  have hbyte : d'.tracee.memory.get? a = some v := by
    have : d'.tracee.memory = d.tracee.memory.set a v := hm
    rw [this, Memory.get?_set_self]
  have htable : d'.breakpoints.put ⟨a, some v⟩ = d.breakpoints := by
    rw [hb]
    refine (BreakpointTable.put_put (b := ⟨a, none⟩) (c := ⟨a, some v⟩) rfl).trans ?_
    exact BreakpointTable.put_eq_self (b := ⟨a, some v⟩) hget
  refine ⟨?_, htracee hp, hw'⟩
  rw [← htable]
  exact enableAt_patches (htracee hp) (hw' ▸ hwr) hentry hbyte

theorem enableAt_again (hd : d.Settled) (hs : d.breakpoints.saved? a = some v)
    {r : Except Failure StopEvent}
    (hstep : singleStep.Gives (d.patch a v (d.breakpoints.put ⟨a, none⟩)) r d') (ha : d'.isAlive) :
    (enableAt a).Gives d' (.ok ()) (d'.patch a trapByte d.breakpoints) ∧
      d'.tracee.isAlive ∧ d'.tracee.isWritable = d.tracee.isWritable := by
  obtain ⟨hp, hw⟩ :=
    hd.ready a (BreakpointTable.contains_of_get? (BreakpointTable.saved?_eq_some.1 hs))
  exact enableAt_restores hp hw hs hstep ha

/-- An enabled breakpoint of a settled debuggee is disabled. -/
theorem disableAt_settled (hd : d.Settled) (hen : d.breakpoints.isEnabledAt a)
    {r : Except Failure Unit} (h : (disableAt a).Gives d r d') :
    ∃ v, d.breakpoints.saved? a = some v ∧ r = .ok () ∧
      d' = d.patch a v (d.breakpoints.put ⟨a, none⟩) := by
  obtain ⟨v, hv⟩ := BreakpointTable.exists_saved? hen
  exact ⟨v, hv, h.unique (disableAt_gives hd.ready hv)⟩

/-- **Stepping over a breakpoint leaves it enabled.**  It can be disabled, and,
    unless the process is gone, enabled again. -/
theorem stepOverBreakpoint_steady : stepOverBreakpoint.Keeps Steady := by
  refine .of_gives fun d r d' h hd => ?_
  cases gives_stepOverBreakpoint.1 h with
  | unread hpc => exact eq_of_gives_pc hpc ▸ refl_of Steady d hd
  | absent hpc _ => exact eq_of_gives_pc hpc ▸ refl_of Steady d hd
  | stuck hpc hen hdis =>
    obtain rfl := eq_of_gives_pc hpc
    obtain ⟨v, -, ⟨⟩, -⟩ := disableAt_settled hd hen hdis
  | gone hpc hen hdis hstep hdead =>
    have ha := alive_of_requestAlive hpc
    obtain rfl := eq_of_gives_pc hpc
    obtain ⟨v, -, -, rfl⟩ := disableAt_settled hd hen hdis
    obtain ⟨hs, hb⟩ := singleStep_gone hstep ha hdead
    exact steady_of_exited hs hb hd
  | survived hpc hen hdis hstep ha' henable =>
    have ha := alive_of_requestAlive hpc
    obtain rfl := eq_of_gives_pc hpc
    obtain ⟨v, hv, -, rfl⟩ := disableAt_settled hd hen hdis
    obtain ⟨hgives, hp, hw⟩ := enableAt_again hd hv hstep ha'
    obtain ⟨-, rfl⟩ := henable.unique hgives
    obtain ⟨hp₀, hw₀⟩ := hd.ready _ (BreakpointTable.contains_of_isEnabledAt hen)
    exact steady_of_same (ha'.trans ha.symm) (hp.trans hp₀.symm)
      ((isWritable_patch (hw ▸ hw₀)).trans hw) rfl hd

theorem stepInstruction_steady : stepInstruction.Keeps Steady := by
  refine .bind stepOverBreakpoint_steady fun event => ?_
  cases event
  · exact singleStep_steady
  · exact .pure _

theorem continueExecution_steady : continueExecution.Keeps Steady :=
  keeps_continueExecution stepOverBreakpoint_steady (runAndWait_steady resume_runs)

/-! ## Letting go -/

theorem kill_steady : kill.Keeps Steady := by
  refine .of_gives fun d r d' h => ?_
  rcases gives_bind.1 h with ⟨e, hkill, -⟩ | ⟨_, d₁, -, hmark⟩
  · rw [gives_requestAlive] at hkill
    split_ifs at hkill
    · obtain ⟨t, ht, rfl⟩ := gives_request.1 hkill
      rw [show (Tracee.kill : Action Simulated Unit) = whileAlive _ from rfl,
        gives_whileAlive] at ht
      split_ifs at ht
      · cases ht.1
      · exact ht.2 ▸ refl_of Steady d
    · exact hkill.2 ▸ refl_of Steady d
  · rw [gives_log_bind, gives_markExited] at hmark
    obtain ⟨-, rfl⟩ := hmark
    exact steady_of_exited rfl rfl

/-- The breakpoints of a debuggee that can be patched can all be disabled. -/
theorem disableEach_gives (order : List Addr) (hd : d.Ready) :
    ∃ d', (disableEach order).Gives d (.ok ()) d' ∧ d'.tracee.isAlive = d.tracee.isAlive := by
  induction order generalizing d with
  | nil => exact ⟨d, gives_pure.2 ⟨rfl, rfl⟩, rfl⟩
  | cons a order ih =>
    by_cases hen : d.breakpoints.isEnabledAt a
    · have hc := BreakpointTable.contains_of_isEnabledAt hen
      obtain ⟨v, hv⟩ := BreakpointTable.exists_saved? hen
      obtain ⟨d', hgives, hp⟩ := ih (patch_ready (v := v) hd hc (contains_of_put hc))
      refine ⟨d', gives_inspect_bind.2 ?_, hp⟩
      rw [if_pos hen]
      exact (disableAt_gives hd hv).bind hgives
    · obtain ⟨d', hgives, hp⟩ := ih hd
      refine ⟨d', gives_inspect_bind.2 ?_, hp⟩
      rw [if_neg hen]
      exact hgives

theorem disableEach_empty (hb : d.breakpoints = .empty) :
    ∀ order, (disableEach order).Gives d (.ok ()) d
  | [] => gives_pure.2 ⟨rfl, rfl⟩
  | a :: order => by
    refine gives_inspect_bind.2 ?_
    rw [if_neg fun hen => not_contains_empty (hb ▸ BreakpointTable.contains_of_isEnabledAt hen)]
    exact disableEach_empty hb order

/-- To detach succeeds, or there is no process and nothing to restore. -/
theorem detachIn_steady (order : List Addr) : (detachIn order).Keeps Steady := by
  refine .of_gives fun d r d' h hd => ?_
  rw [detachIn, gives_ensureAlive_bind] at h
  split_ifs at h
  swap
  · exact h.2 ▸ refl_of Steady d hd
  by_cases hp : d.tracee.isAlive
  · obtain ⟨d₁, hdis, hp₁⟩ := disableEach_gives order hd.ready
    have hdetach : (request Tracee.detach).Gives d₁ (.ok ()) _ :=
      gives_request.2 ⟨_, gives_whileAlive.2 (by rw [if_pos (hp₁.trans hp)]; exact ⟨rfl, rfl⟩), rfl⟩
    obtain ⟨-, rfl⟩ := h.unique (hdis.bind (hdetach.bind (gives_markExited.2 ⟨rfl, rfl⟩)))
    exact steady_of_exited rfl rfl hd
  · have hb : d.breakpoints = .empty := by
      refine BreakpointTable.ext_get? fun a => ?_
      have hfree : ¬ d.breakpoints.contains a := fun hc => hp (hd.ready a hc).1
      rw [BreakpointTable.get?_eq_none.2 hfree, BreakpointTable.get?_empty]
    have hdetach : (request Tracee.detach).Gives d (.error (.processAccess .esrch)) d :=
      gives_request.2 ⟨_, gives_whileAlive.2 (by rw [if_neg hp]; exact ⟨rfl, rfl⟩), rfl⟩
    obtain ⟨-, rfl⟩ := h.unique ((disableEach_empty hb order).bind hdetach.bind_error)
    exact refl_of Steady d' hd

/-- Moving is steady. -/
theorem steady_moving : KeptByMoving Steady where
  readRegister _ :=
    requestAlive_steady (whileAlive_keeps fun _ => rfl) (whileAlive_keeps fun _ => rfl)
  readMemory := readMemory_steady
  memoryMap := requestAlive_steady (fun p => congrArg Simulated.isAlive (readMap_keeps p))
    fun p => congrArg isWritable (readMap_keeps p)
  writeRegister _ _ :=
    requestAlive_steady (whileAlive_keeps fun _ => rfl) (whileAlive_keeps fun _ => rfl)
  stepInstruction := stepInstruction_steady
  continueExecution := continueExecution_steady
  kill := kill_steady
  detachIn := detachIn_steady

/-! ## Setting and removing breakpoints -/

/-- Where there is no breakpoint one is added, if a word can be written. -/
theorem gives_setBreakpoint_new (ha : d.isAlive) (hc : ¬ d.breakpoints.contains a)
    {r : Except Failure Bool} (h : (setBreakpoint a).Gives d r d') :
    (¬ (d.tracee.isAlive ∧ d.tracee.isWritable a) ∧ (∃ e, r = .error e) ∧ d' = d) ∨
      ∃ v, r = .ok true ∧ d.tracee.isAlive ∧ d.tracee.isWritable a ∧
        d.tracee.memory.get? a = some v ∧
        d' = d.patch a trapByte (d.breakpoints.put ⟨a, some v⟩) := by
  have hb := BreakpointTable.get?_eq_none.2 hc
  rw [setBreakpoint_inserts, if_pos ha] at h
  by_cases hp : d.tracee.isAlive ∧ d.tracee.isWritable a
  · obtain ⟨w, hw⟩ := Option.isSome_iff_exists.1 (isWritable_iff.1 hp.2).2
    have hbyte := Memory.getWord?_lowByte hw
    have hinsert : (insertBreakpoint a).Gives d (.ok true)
        (d.patch a trapByte (d.breakpoints.put ⟨a, some w.toUInt8⟩)) := by
      rw [insertBreakpoint, gives_inspect_bind, hb]
      exact (gives_request.2 ⟨_, Breakpoint.enable_gives hp.1 hp.2 hbyte, rfl⟩).bind
        (gives_pure.2 ⟨rfl, rfl⟩)
    obtain ⟨hr, hd'⟩ := h.unique hinsert
    exact Or.inr ⟨_, hr, hp.1, hp.2, hbyte, hd'⟩
  · obtain ⟨e, henable⟩ := Breakpoint.enable_fails hp
    have hinsert : (insertBreakpoint a).Gives d (.error e) d := by
      rw [insertBreakpoint, gives_inspect_bind, hb]
      exact (gives_request.2 ⟨_, henable, rfl⟩).bind_error
    obtain ⟨hr, hd'⟩ := h.unique hinsert
    exact Or.inl ⟨hp, ⟨e, hr⟩, hd'⟩

/-- A breakpoint is there already, cannot be set, or is added. -/
theorem gives_setBreakpoint (hd : d.Settled) (ha : d.isAlive) {r : Except Failure Bool}
    (h : (setBreakpoint a).Gives d r d') :
    (d.breakpoints.contains a ∧ r = .ok false ∧ d' = d) ∨
      (¬ (d.tracee.isAlive ∧ d.tracee.isWritable a) ∧ (∃ e, r = .error e) ∧ d' = d) ∨
        ∃ v, ¬ d.breakpoints.contains a ∧ r = .ok true ∧ d.tracee.isAlive ∧ d.tracee.isWritable a ∧
          d' = d.patch a trapByte (d.breakpoints.put ⟨a, some v⟩) := by
  by_cases hc : d.breakpoints.contains a
  · have hen := hd.enabled a hc
    obtain ⟨b, hb, hb'⟩ := (Option.any_eq_true _ _).1 hen
    have hinsert : (insertBreakpoint a).Gives d (.ok false) d := by
      rw [insertBreakpoint, gives_inspect_bind, hb]
      simp [hb']
    rw [setBreakpoint_inserts, if_pos ha] at h
    exact Or.inl ⟨hc, h.unique hinsert⟩
  · obtain hfail | ⟨v, hr, hp, hw, -, hd'⟩ := gives_setBreakpoint_new ha hc h
    · exact Or.inr (Or.inl hfail)
    · exact Or.inr (Or.inr ⟨v, hc, hr, hp, hw, hd'⟩)

/-- An enabled breakpoint is removed where a word can be written. -/
theorem removeBreakpoint_patches (ha : d.isAlive) (hp : d.tracee.isAlive)
    (hw : d.tracee.isWritable a) (hs : d.breakpoints.saved? a = some v) :
    (removeBreakpoint a).Gives d (.ok ()) (d.patch a v (d.breakpoints.erase a)) := by
  have htable : (d.breakpoints.put ⟨a, none⟩).erase a = d.breakpoints.erase a := by
    refine BreakpointTable.ext_get? fun x => ?_
    simp only [BreakpointTable.get?_erase, BreakpointTable.get?_put]
    split_ifs <;> rfl
  rw [removeBreakpoint, gives_ensureAlive_bind, if_pos ha, eraseBreakpoint, gives_inspect_bind,
    BreakpointTable.saved?_eq_some.1 hs]
  refine (disableAt_patches hp hw hs).bind (gives_modify.2 ⟨rfl, ?_⟩)
  simp only [patch, htable]

/-- The breakpoint of a settled debuggee can be removed. -/
theorem removeBreakpoint_gives (hd : d.Settled) (ha : d.isAlive)
    (hs : d.breakpoints.saved? a = some v) :
    (removeBreakpoint a).Gives d (.ok ()) (d.patch a v (d.breakpoints.erase a)) := by
  obtain ⟨hp, hw⟩ :=
    hd.ready a (BreakpointTable.contains_of_get? (BreakpointTable.saved?_eq_some.1 hs))
  exact removeBreakpoint_patches ha hp hw hs

/-- Nothing is removed where nothing is. -/
theorem removeBreakpoint_absent (ha : d.isAlive) (hc : ¬ d.breakpoints.contains a) :
    (removeBreakpoint a).Gives d (.ok ()) d := by
  rw [removeBreakpoint, gives_ensureAlive_bind, if_pos ha, eraseBreakpoint, gives_inspect_bind,
    BreakpointTable.get?_eq_none.2 hc]
  exact gives_log.2 ⟨rfl, rfl⟩

/-- One more breakpoint is enabled and can be patched. -/
theorem Settled.patch_put (hd : d.Settled) (ha : d.isAlive) (hp : d.tracee.isAlive)
    (hw : d.tracee.isWritable a) :
    (d.patch a trapByte (d.breakpoints.put ⟨a, some v⟩)).Settled := by
  refine ⟨fun x hx => ?_, fun x hx => ?_, fun hdead => absurd ha hdead⟩
  · rw [patch_tracee, isWritable_patch hw]
    obtain rfl | hx := BreakpointTable.contains_put.1 hx
    · exact ⟨hp, hw⟩
    · exact hd.ready x hx
  · rw [patch_breakpoints, BreakpointTable.isEnabledAt, BreakpointTable.get?_put]
    split_ifs with hxa
    · rfl
    · exact hd.enabled x ((BreakpointTable.contains_put.1 hx).resolve_left hxa)

/-- The other breakpoints stay when one is removed. -/
theorem Settled.patch_erase (hd : d.Settled) (ha : d.isAlive) (hc : d.breakpoints.contains a) :
    (d.patch a v (d.breakpoints.erase a)).Settled := by
  refine ⟨patch_ready hd.ready hc fun x hx => (BreakpointTable.contains_erase.1 hx).2,
    fun x hx => ?_, fun hdead => absurd ha hdead⟩
  obtain ⟨hxa, hx⟩ := BreakpointTable.contains_erase.1 hx
  rw [patch_breakpoints, BreakpointTable.isEnabledAt, BreakpointTable.get?_erase, if_neg hxa]
  exact hd.enabled x hx

/-- Setting a breakpoint adds its address, if it succeeds. -/
theorem setBreakpoint_settled (hd : d.Settled) {r : Except Failure Bool}
    (h : (setBreakpoint a).Gives d r d') :
    d'.Settled ∧ (d'.isAlive → d.isAlive ∧ (d.tracee.isAlive → d'.tracee.isAlive) ∧
      ∀ x, d'.breakpoints.contains x ↔
        d.breakpoints.contains x ∨ (∃ added, r = .ok added) ∧ x = a) := by
  by_cases ha : d.isAlive
  · obtain ⟨hc, rfl, rfl⟩ | ⟨-, ⟨e, rfl⟩, rfl⟩ | ⟨v, hc, rfl, hp, hw, rfl⟩ :=
      gives_setBreakpoint hd ha h
    · refine ⟨hd, fun _ => ⟨ha, id, fun x => ⟨Or.inl, ?_⟩⟩⟩
      rintro (hx | ⟨-, rfl⟩)
      · exact hx
      · exact hc
    · exact ⟨hd, fun _ => ⟨ha, id, fun x => by simp⟩⟩
    · refine ⟨hd.patch_put ha hp hw, fun _ => ⟨ha, id, fun x => ?_⟩⟩
      rw [patch_breakpoints, BreakpointTable.contains_put, or_comm]
      exact or_congr_right ⟨fun hx => ⟨⟨true, rfl⟩, hx.symm⟩, fun hx => hx.2.symm⟩
  · rw [setBreakpoint, gives_ensureAlive_bind, if_neg ha] at h
    obtain ⟨-, rfl⟩ := h
    exact ⟨hd, fun h => absurd h ha⟩

/-- Removing a breakpoint succeeds and takes its address away. -/
theorem removeBreakpoint_settled (hd : d.Settled) {r : Except Failure Unit}
    (h : (removeBreakpoint a).Gives d r d') :
    d'.Settled ∧ (d'.isAlive → d.isAlive ∧ (d.tracee.isAlive → d'.tracee.isAlive) ∧
      r = .ok () ∧ ∀ x, d'.breakpoints.contains x ↔ d.breakpoints.contains x ∧ x ≠ a) := by
  by_cases ha : d.isAlive
  · by_cases hc : d.breakpoints.contains a
    · have hen := hd.enabled a hc
      obtain ⟨v, hv⟩ := BreakpointTable.exists_saved? hen
      obtain ⟨rfl, rfl⟩ := h.unique (removeBreakpoint_gives hd ha hv)
      refine ⟨hd.patch_erase ha hc, fun _ => ⟨ha, id, rfl, fun x => ?_⟩⟩
      rw [patch_breakpoints, BreakpointTable.contains_erase, and_comm, ne_comm]
    · obtain ⟨rfl, rfl⟩ := h.unique (removeBreakpoint_absent ha hc)
      refine ⟨hd, fun _ => ⟨ha, id, rfl, fun x => ⟨fun hx => ⟨hx, ?_⟩, And.left⟩⟩⟩
      rintro rfl
      exact hc hx
  · rw [removeBreakpoint, gives_ensureAlive_bind, if_neg ha] at h
    obtain ⟨-, rfl⟩ := h
    exact ⟨hd, fun h => absurd h ha⟩

end SourceDebugger.Debuggee
