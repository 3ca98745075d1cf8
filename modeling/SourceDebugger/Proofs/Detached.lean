/-
  Letting go of a process whose memory cannot be relied on.

  * `Debuggee.Held`: as long as the session is there, so is the process, it is
    traced, and every breakpoint can be patched.  Every operation keeps this,
    whichever access fails;
  * `Session.Cleans`: `Session.cleanup`, or the same with the breakpoints in any
    order;
  * `Unreliable.cleanup_restores`: it leaves the process with its own bytes, or
    it leaves it traced, and can be tried again.
-/
import SourceDebugger.Proofs.Observed
import SourceDebugger.Proofs.Table
import SourceDebugger.Proofs.Unreliable

namespace SourceDebugger

open SourceDebugger.Action

/-! ## Disabling all breakpoints -/

namespace Debuggee

section
variable {τ : Type} [Tracee τ] [ByteMemory τ] {d d' : Debuggee τ} {a : Addr}

theorem disableAt_clears {x : Addr} (h : (disableAt x).Gives d (.ok ()) d')
    (ha : d'.breakpoints.isEnabledAt a) : d.breakpoints.isEnabledAt a ∧ a ≠ x := by
  have hfree := (gives_disableAt h).2.2 rfl
  have hne : a ≠ x := by
    rintro rfl
    rw [BreakpointTable.isEnabledAt_eq, hfree] at ha
    cases ha
  refine ⟨?_, hne⟩
  rw [disableAt, gives_inspect_bind] at h
  split at h
  · obtain ⟨-, rfl⟩ := gives_pure.1 h
    exact ha
  rename_i b hb
  have htable := (gives_disable_put (saved?_of_get? hb) h).2.2 rfl
  rw [BreakpointTable.isEnabledAt_eq, htable, BreakpointTable.saved?_put,
    BreakpointTable.addr_of_get? hb, if_neg hne.symm] at ha
  rwa [BreakpointTable.isEnabledAt_eq]

/-- A breakpoint that is left enabled was not among those to be disabled. -/
theorem disableEach_clears {order : List Addr} (h : (disableEach order).Gives d (.ok ()) d')
    (ha : d'.breakpoints.isEnabledAt a) : d.breakpoints.isEnabledAt a ∧ a ∉ order := by
  induction order generalizing d with
  | nil =>
    obtain ⟨-, rfl⟩ := gives_pure.1 h
    exact ⟨ha, by simp⟩
  | cons x order ih =>
    rw [disableEach, gives_inspect_bind] at h
    split_ifs at h with hen
    · obtain ⟨_, d₁, hdis, hrest⟩ := gives_bind_ok.1 h
      obtain ⟨ha₁, hrest⟩ := ih hrest
      obtain ⟨ha₀, hne⟩ := disableAt_clears hdis ha₁
      exact ⟨ha₀, by simp [hne, hrest]⟩
    · obtain ⟨ha₀, hrest⟩ := ih h
      have hne : a ≠ x := fun hx => hen (hx ▸ ha₀)
      exact ⟨ha₀, by simp [hne, hrest]⟩

/-- Without enabled breakpoints the memory is that of the program itself. -/
theorem Coherent.memory_eq {orig : Memory} (h : d.Coherent orig)
    (hd : ∀ a, ¬ d.breakpoints.isEnabledAt a) : d.memory = orig :=
  Memory.ext_get? fun a => h.elsewhere a (hd a)

end

end Debuggee

/-! ## Accesses -/

namespace Simulated

variable {p p' : Simulated}

/-- What the requests change neither by reading nor by writing. -/
def footing (p : Simulated) : Bool × Bool × (Addr → Bool) := (p.isAlive, p.isDetached, p.isWritable)

theorem Executed.isDetached_eq {o : Option Report} (h : Executed p o p') :
    p'.isDetached = p.isDetached := by
  cases h <;> rfl

theorem resume_isDetached : (Tracee.resume : Action Simulated Unit).Keeps (Unchanged isDetached) :=
  whileAlive_keeps (run_unchanged Executed.isDetached_eq (fun _ _ => rfl) runLimit)

theorem step_isDetached : (Tracee.step : Action Simulated Unit).Keeps (Unchanged isDetached) :=
  whileAlive_keeps (stepOnce_unchanged Executed.isDetached_eq fun _ _ => rfl)

theorem readWord_footing (a : Addr) : (readWord a).Keeps (Unchanged footing) :=
  .of_gives fun _ _ _ h => (gives_readWord h).1 ▸ rfl

theorem writeWord_footing (a : Addr) (w : Word) : (writeWord a w).Keeps (Unchanged footing) := by
  refine .of_gives fun p r p' h => ?_
  obtain ⟨-, rfl⟩ | ⟨m, -, -, -, hm, rfl⟩ := gives_writeWord h
  · rfl
  · simp only [Unchanged, footing, isWritable_writeWord hm]

end Simulated

namespace Unreliable

variable {α : Type} {u u' : Unreliable}

/-- The footing of the process. -/
def footing (u : Unreliable) : Bool × Bool × (Addr → Bool) := u.process.footing

theorem onProcess_footing {act : Action Simulated α}
    (h : act.Keeps (Unchanged Simulated.footing)) : (onProcess act).Keeps (Unchanged footing) :=
  .within h fun _ _ hf => hf

theorem access_footing {act : Action Simulated α}
    (h : act.Keeps (Unchanged Simulated.footing)) : (access act).Keeps (Unchanged footing) := by
  refine .of_gives fun u r u' hg => ?_
  obtain ⟨-, hu⟩ | hact := gives_access hg
  · exact congrArg Simulated.footing hu
  · exact h.gives hact

theorem enable_footing (b : Breakpoint) :
    (b.enable : Action Unreliable Breakpoint).Keeps (Unchanged footing) :=
  b.enable_keeps (fun a => access_footing (Simulated.readWord_footing a)) fun a w =>
    access_footing (Simulated.writeWord_footing a w)

theorem disable_footing (b : Breakpoint) :
    (b.disable : Action Unreliable Breakpoint).Keeps (Unchanged footing) :=
  b.disable_keeps (fun a => access_footing (Simulated.readWord_footing a)) fun a w =>
    access_footing (Simulated.writeWord_footing a w)

/-- What could be enabled can be patched. -/
theorem isWritable_of_enable {b b' : Breakpoint} (h : b.enable.Gives u (.ok b') u') :
    u.process.isWritable b.addr := by
  unfold Breakpoint.enable at h
  split_ifs at h
  · cases (gives_fail.1 h).1
  obtain ⟨w, u₁, hread, h⟩ := gives_bind_ok.1 h
  rw [gives_log_bind, gives_log_bind] at h
  obtain ⟨_, u₂, hwrite, -⟩ := gives_bind_ok.1 h
  have hfooting : u₁.process.isWritable = u.process.isWritable :=
    congrArg (·.2.2) ((access_footing (Simulated.readWord_footing _)).gives hread)
  obtain ⟨⟨_, ⟨⟩⟩, -⟩ | hact := gives_access hwrite
  obtain ⟨⟨_, ⟨⟩⟩, -⟩ | ⟨m, -, -, hf, hm, -⟩ := Simulated.gives_writeWord hact
  rw [← hfooting, Simulated.isWritable_iff]
  exact ⟨hf, (Memory.putWord?_eq_some.1 hm).1⟩

/-! ### Refusals -/

/-- No access is refused between the one and the other. -/
def Unrefused (u u' : Unreliable) : Prop :=
  ∀ n, u.accesses ≤ n → n < u'.accesses → u.refusal n = none

instance : Decidable (Unrefused u u') :=
  decidable_of_iff (∀ n < u'.accesses, u.accesses ≤ n → u.refusal n = none)
    ⟨fun h n hn hn' => h n hn' hn, fun h n hn' hn => h n hn hn'⟩

/-- The plan of refusals stays, the accesses are counted. -/
def Later (u u' : Unreliable) : Prop := u'.refusal = u.refusal ∧ u.accesses ≤ u'.accesses

instance : IsPreorder Unreliable Later where
  refl _ := ⟨rfl, le_rfl⟩
  trans _ _ _ h₁ h₂ := ⟨h₂.1.trans h₁.1, h₁.2.trans h₂.2⟩

theorem Unrefused.split {v : Unreliable} (h : Unrefused u u') (h₁ : Later u v) (h₂ : Later v u') :
    Unrefused u v ∧ Unrefused v u' :=
  ⟨fun n hn hn' => h n hn (hn'.trans_le h₂.2), fun n hn hn' =>
    h₁.1 ▸ h n (h₁.2.trans hn) hn'⟩

/-- An access counts; one that is not refused is made. -/
theorem gives_access_next {act : Action Simulated α} {r : Except Failure α}
    (h : (access act).Gives u r u') : u'.refusal = u.refusal ∧ u'.accesses = u.accesses + 1 ∧
      (u.refusal u.accesses = none → act.Gives u.process r u'.process) := by
  rw [access, gives_inspect_bind] at h
  split at h
  · rename_i e he
    rw [gives_modify_bind, gives_fail] at h
    obtain ⟨rfl, rfl⟩ := h
    exact ⟨rfl, rfl, fun hn => by rw [hn] at he; cases he⟩
  · rw [gives_modify_bind] at h
    obtain ⟨p, hp, rfl⟩ := gives_within.1 h
    exact ⟨rfl, rfl, fun _ => hp⟩

theorem access_later (act : Action Simulated α) : (access act).Keeps Later := by
  refine .of_gives fun u r u' h => ?_
  obtain ⟨hr, ha, -⟩ := gives_access_next h
  exact ⟨hr, ha ▸ Nat.le_succ _⟩

theorem disable_later (b : Breakpoint) : (b.disable : Action Unreliable Breakpoint).Keeps Later :=
  b.disable_keeps (fun _ => access_later _) fun _ _ => access_later _

/-- An access that is not refused is made, and then it goes on. -/
theorem gives_access_bind {β : Type} {act : Action Simulated α} {next : α → Action Unreliable β}
    {r : Except Failure β} (h : (access act >>= next).Gives u r u') (hu : Unrefused u u')
    (hnext : ∀ a, (next a).Keeps Later) :
    (∃ e, act.Gives u.process (.error e) u'.process) ∨ ∃ a u₁,
      act.Gives u.process (.ok a) u₁.process ∧ (next a).Gives u₁ r u' ∧ Unrefused u₁ u' := by
  obtain ⟨e, hact, -⟩ | ⟨a, u₁, hact, hrest⟩ := gives_bind.1 h
  · obtain ⟨-, hcount, hmade⟩ := gives_access_next hact
    exact Or.inl ⟨e, hmade (hu _ le_rfl (by omega))⟩
  · obtain ⟨-, hcount, hmade⟩ := gives_access_next hact
    have hlater := (hnext a).gives hrest
    have hnone := hu u.accesses le_rfl (by have := hlater.2; omega)
    exact Or.inr ⟨a, u₁, hmade hnone, hrest, (hu.split ((access_later act).gives hact) hlater).2⟩

/-- Where words can be written, disabling fails only if an access is refused. -/
theorem disable_unrefused {a : Addr} {v : UInt8} {r : Except Failure Breakpoint}
    (ha : u.process.isAlive) (hw : u.process.isWritable a)
    (h : (Breakpoint.disable ⟨a, some v⟩).Gives u r u') (hu : Unrefused u u') :
    ∃ b, r = .ok b := by
  obtain ⟨w, hword⟩ := Option.isSome_iff_exists.1 (Simulated.isWritable_iff.1 hw).2
  have hwriting (w : Word) : (do
      log .trace .breakpoint ("breakpo: " ++ Numeral.paddedHex 16 w.toNat)
      log .trace .breakpoint ("restore: " ++ Numeral.paddedHex 16 (w.withLowByte v).toNat)
      Tracee.writeWord a (w.withLowByte v)
      return ⟨a, none⟩ : Action Unreliable Breakpoint).Keeps Later :=
    .bind (.log _ _ _) fun _ => .bind (.log _ _ _) fun _ => .bind (access_later _) fun _ => .pure _
  obtain ⟨e, hread⟩ | ⟨w', u₁, hread, h, hu₁⟩ := gives_access_bind h hu hwriting
  · cases (hread.unique (Simulated.readWord_gives ha hword)).1
  obtain ⟨hw', hp⟩ := hread.unique (Simulated.readWord_gives ha hword)
  obtain rfl := Except.ok.inj hw'
  rw [gives_log_bind, gives_log_bind] at h
  have hpatch := Simulated.writeWord_gives_patch (v := v) ha hw hword
  rw [← hp] at hpatch
  obtain ⟨e, hwrite⟩ | ⟨_, u₂, -, h, -⟩ := gives_access_bind h hu₁ fun _ => .pure _
  · cases (hwrite.unique hpatch).1
  · exact ⟨_, (gives_pure.1 h).1⟩

end Unreliable

/-! ## Debuggees -/

namespace Debuggee

open Unreliable

variable {α : Type} {d d' : Debuggee Unreliable} {a : Addr}

/-- As long as the debuggee is alive, its process is there and traced, and all
    breakpoints can be patched. -/
structure Held (d : Debuggee Unreliable) : Prop where
  process : d.isAlive → d.tracee.process.isAlive
  traced : d.isAlive → d.tracee.process.isDetached = false
  writable (a : Addr) : d.isAlive → d.breakpoints.contains a → d.tracee.process.isWritable a

theorem held_of_exited (h : d.state = .exited) : d.Held where
  process ha := absurd h (isAlive_iff.1 ha)
  traced ha := absurd h (isAlive_iff.1 ha)
  writable _ ha := absurd h (isAlive_iff.1 ha)

/-- The footing stays, and no breakpoints are added but where words can be
    written. -/
theorem Held.of_footing (h : d.Held) (hf : d'.tracee.footing = d.tracee.footing)
    (halive : d'.isAlive → d.isAlive)
    (hb : ∀ a, d'.breakpoints.contains a → d.breakpoints.contains a ∨
      d'.tracee.process.isWritable a) : d'.Held := by
  obtain ⟨hp, hdet, hw⟩ : d'.tracee.process.isAlive = d.tracee.process.isAlive ∧
      d'.tracee.process.isDetached = d.tracee.process.isDetached ∧
      d'.tracee.process.isWritable = d.tracee.process.isWritable := by
    simpa [Unreliable.footing, Simulated.footing] using hf
  refine ⟨fun ha => hp ▸ h.process (halive ha), fun ha => hdet ▸ h.traced (halive ha),
    fun a ha hc => ?_⟩
  obtain hold | hnew := hb a hc
  · exact hw ▸ h.writable a (halive ha) hold
  · exact hnew

theorem requestAlive_held {act : Action Unreliable α} (h : act.Keeps (Unchanged footing)) :
    (requestAlive act).Keeps (Preserves Held) := by
  refine requestAlive_keeps (.of_gives fun d r d' hg hd => ?_)
  obtain ⟨t, ht, rfl⟩ := gives_request.1 hg
  exact hd.of_footing (h.gives ht) id fun _ => Or.inl

/-- Patching a breakpoint of the table, or a new one that can be enabled. -/
theorem put_held {act : Action Unreliable Breakpoint} (h : act.Keeps (Unchanged footing))
    (hact : ∀ {t b t'}, act.Gives t (.ok b) t' →
      d.breakpoints.contains b.addr ∨ t.process.isWritable b.addr)
    {r : Except Failure Unit} (hg : (requestPut act).Gives d r d') : Preserves Held d d' := by
  intro hd
  obtain ⟨e, t, ht, -, rfl⟩ | ⟨b, t, ht, -, rfl⟩ := gives_requestPut.1 hg
  · exact hd.of_footing (h.gives ht) id fun _ => Or.inl
  · refine hd.of_footing (h.gives ht) id fun a hc => ?_
    have hw : t.process.isWritable = d.tracee.process.isWritable :=
      congrArg (·.2.2) (h.gives ht)
    obtain rfl | hold := BreakpointTable.contains_put.1 hc
    · exact (hact ht).imp_right fun hw' => hw ▸ hw'
    · exact Or.inl hold

/-- Patching keeps hold. -/
theorem held_patching : KeptByPatching (Preserves Held) where
  enable hb := put_held (enable_footing _) fun ht => Or.inl <| by
    rw [Breakpoint.addr_of_enable ht, BreakpointTable.addr_of_get? hb]
    exact BreakpointTable.contains_of_get? hb
  disable hb := put_held (disable_footing _) fun ht => Or.inl <| by
    rw [Breakpoint.addr_of_disable ht, BreakpointTable.addr_of_get? hb]
    exact BreakpointTable.contains_of_get? hb
  add _ := put_held (enable_footing _) fun ht => Or.inr <| by
    rw [Breakpoint.addr_of_enable ht]
    exact isWritable_of_enable ht
  forget _ _ hd := hd.of_footing rfl id fun _ hx => Or.inl (BreakpointTable.contains_erase.1 hx).2

/-! ### Running -/

theorem waitForStop_footing : (waitForStop : Action (Debuggee Unreliable) StopEvent).Keeps
    (InvImage (Unchanged footing) Debuggee.tracee) := by
  have hwait : (onProcess Simulated.takePending).Keeps (Unchanged footing) :=
    onProcess_footing (.of_gives fun _ _ _ h => (Simulated.gives_takePending h).1 ▸ rfl)
  exact waitForStop_keeps hwait (onProcess_footing (Simulated.whileAlive_keeps fun _ => rfl))
    fun _ => onProcess_footing (Simulated.whileAlive_keeps fun _ => rfl)

theorem waitForStop_held {r : Except Failure StopEvent} (hd : d.Held) (ha : d.isAlive)
    (h : waitForStop.Gives d r d') : d'.Held := by
  have hfooting : d'.tracee.footing = d.tracee.footing := waitForStop_footing.gives h
  cases waitForStop_waited h with
  | gone _ _ _ hs _ => exact held_of_exited hs
  | stopped _ _ hb => exact hd.of_footing hfooting (fun _ => ha) fun _ => hb ▸ Or.inl
  | failed _ _ _ hb => exact hd.of_footing hfooting (fun _ => ha) fun _ => hb ▸ Or.inl

/-- An exit that is pending is what is waited for. -/
theorem waitForStop_ends {code : Int} (hp : d.tracee.process.pending = some (.exited code))
    {r : Except Failure StopEvent} (h : waitForStop.Gives d r d') : d'.state = .exited := by
  rw [gives_waitForStop] at h
  have hwait {r : Except Failure Report} {d₁ : Debuggee Unreliable}
      (h : (request Tracee.wait).Gives d r d₁) : r = .ok (.exited code) := by
    obtain ⟨u, hu, -⟩ := gives_request.1 h
    obtain ⟨p, hwait, -⟩ := gives_within.1 hu
    obtain ⟨-, ⟨stop, hstop, hr⟩ | ⟨hnone, -⟩⟩ := Simulated.gives_takePending hwait
    · rw [hr, ← Option.some.inj (hstop.symm.trans hp)]
    · cases hnone.symm.trans hp
  obtain ⟨e, he, -⟩ | ⟨report, d₁, hok, hclass⟩ := gives_bind.1 h
  · cases hwait he
  · obtain rfl := Except.ok.inj (hwait hok)
    rw [classify, markExited, gives_modify_bind, gives_pure] at hclass
    rw [hclass.2]

/-- A process that has run can be patched as before, or is reported to have
    ended. -/
theorem runAndWait_held {act : Action Simulated Unit} (hact : Simulated.Runs act)
    (hdet : act.Keeps (Unchanged Simulated.isDetached)) {r : Except Failure StopEvent}
    (h : (runAndWait (onProcess act)).Gives d r d') (ha : d.isAlive) : Preserves Held d d' := by
  intro hd
  have hlet {r : Except Failure Unit} {p : Simulated} (hp : act.Gives d.tracee.process r p) :
      (p.isAlive → p.footing = d.tracee.process.footing) ∧
        (p.isAlive ∨ r = .ok () ∧ ∃ code, p.pending = some (.exited code)) := by
    refine ⟨fun halive => ?_, hact.isAlive hp (hd.process ha)⟩
    have hw : p.isWritable = d.tracee.process.isWritable := hact.isWritable.gives hp
    have hdet : p.isDetached = d.tracee.process.isDetached := hdet.gives hp
    simp only [Simulated.footing, hw, hdet, halive, hd.process ha]
  obtain ⟨e, hreq, -⟩ | ⟨_, d₁, hreq, hwait⟩ := gives_bind.1 h
  · obtain ⟨u, hu, rfl⟩ := gives_request.1 hreq
    obtain ⟨p, hp, rfl⟩ := gives_within.1 hu
    obtain ⟨hfooting, halive | ⟨⟨⟩, -⟩⟩ := hlet hp
    exact hd.of_footing (hfooting halive) id fun _ => Or.inl
  · obtain ⟨u, hu, rfl⟩ := gives_request.1 hreq
    obtain ⟨p, hp, rfl⟩ := gives_within.1 hu
    rw [setState, gives_modify_bind] at hwait
    obtain ⟨hfooting, halive | ⟨-, code, hcode⟩⟩ := hlet hp
    · refine waitForStop_held ?_ (isAlive_iff.2 (by simp)) hwait
      exact hd.of_footing (hfooting halive) (fun _ => ha) fun _ => Or.inl
    · exact held_of_exited (waitForStop_ends hcode hwait)

theorem singleStep_held :
    (singleStep : Action (Debuggee Unreliable) StopEvent).Keeps (Preserves Held) := by
  refine .of_gives fun d r d' h => ?_
  rw [gives_singleStep] at h
  split_ifs at h with ha
  · exact runAndWait_held Simulated.step_runs Simulated.step_isDetached h ha
  · exact h.2 ▸ refl_of (Preserves Held) d

theorem stepOverBreakpoint_held :
    (stepOverBreakpoint : Action (Debuggee Unreliable) (Option StopEvent)).Keeps (Preserves Held) :=
  keeps_stepOverBreakpoint
    (requestAlive_held (onProcess_footing (Simulated.whileAlive_keeps fun _ => rfl)))
    held_patching.disableAt singleStep_held held_patching.enableAt

/-! ### Letting go -/

/-- A request that lets go of a process that is there succeeds. -/
theorem request_release {f : Simulated → Simulated} {r : Except Failure Unit}
    (hp : d.tracee.process.isAlive)
    (h : (request (onProcess (Simulated.whileAlive fun p => ((), f p)))).Gives d r d') :
    r = .ok () ∧
      d' = { d with tracee := { d.tracee with process := f d.tracee.process } } := by
  obtain ⟨u, hu, rfl⟩ := gives_request.1 h
  obtain ⟨p, hp', rfl⟩ := gives_within.1 hu
  rw [Simulated.gives_whileAlive, if_pos hp] at hp'
  obtain ⟨rfl, rfl⟩ := hp'
  exact ⟨rfl, rfl⟩

theorem kill_held : (kill : Action (Debuggee Unreliable) Unit).Keeps (Preserves Held) := by
  refine .of_gives fun d r d' h hd => ?_
  rw [kill, requestAlive, Action.bind_assoc, gives_ensureAlive_bind] at h
  split_ifs at h with ha
  swap
  · exact h.2 ▸ hd
  obtain ⟨e, hkill, -⟩ | ⟨_, d₁, -, hmark⟩ := gives_bind.1 h
  · cases (request_release (hd.process ha) hkill).1
  · rw [gives_log_bind, gives_markExited] at hmark
    exact held_of_exited (hmark.2 ▸ rfl)

/-- How the attempt to let go of a process ends. -/
inductive Detached (order : List Addr) (d : Debuggee Unreliable) :
    Except Failure Unit → Debuggee Unreliable → Prop where
  /-- A breakpoint cannot be disabled. -/
  | stuck {e : Failure} {d' : Debuggee Unreliable}
      (disable : (disableEach order).Gives d (.error e) d') : Detached order d (.error e) d'
  /-- The process runs on untraced. -/
  | free {d₁ d' : Debuggee Unreliable} (disable : (disableEach order).Gives d (.ok ()) d₁)
      (detached : d'.tracee.process.isDetached) (state : d'.state = .exited)
      (breakpoints : d'.breakpoints = .empty) (memory : d'.memory = d₁.memory) :
      Detached order d (.ok ()) d'

theorem gives_detachIn {order : List Addr} {r : Except Failure Unit} (hd : d.Held)
    (ha : d.isAlive) (h : (detachIn order).Gives d r d') : Detached order d r d' := by
  rw [detachIn, gives_ensureAlive_bind, if_pos ha] at h
  obtain ⟨e, hdis, rfl⟩ | ⟨_, d₁, hdis, h⟩ := gives_bind.1 h
  · exact .stuck hdis
  have ha₁ : d₁.isAlive := isAlive_of_state ((disableEach_state order).gives hdis) ha
  have hp₁ := ((held_patching.disableEach order).gives hdis hd).process ha₁
  obtain ⟨e, hdetach, -⟩ | ⟨_, d₂, hdetach, hmark⟩ := gives_bind.1 h
  · cases (request_release hp₁ hdetach).1
  · obtain ⟨-, rfl⟩ := request_release hp₁ hdetach
    obtain ⟨rfl, rfl⟩ := gives_markExited.1 hmark
    exact .free hdis rfl rfl rfl rfl

theorem detachIn_held (order : List Addr) :
    (detachIn order : Action (Debuggee Unreliable) Unit).Keeps (Preserves Held) := by
  refine .of_gives fun d r d' h hd => ?_
  by_cases ha : d.isAlive
  · cases gives_detachIn hd ha h with
    | stuck hdis => exact (held_patching.disableEach order).gives hdis hd
    | free _ _ hs => exact held_of_exited hs
  · rw [detachIn, gives_ensureAlive_bind, if_neg ha] at h
    exact h.2 ▸ hd

/-- Moving keeps hold. -/
theorem held_moving : KeptByMoving (Preserves Held) where
  readRegister _ :=
    requestAlive_held (onProcess_footing (Simulated.whileAlive_keeps fun _ => rfl))
  readMemory a := requestAlive_held (access_footing (Simulated.readWord_footing a))
  memoryMap := requestAlive_held
    (onProcess_footing fun p => congrArg Simulated.footing (Simulated.readMap_keeps p))
  writeRegister _ _ :=
    requestAlive_held (onProcess_footing (Simulated.whileAlive_keeps fun _ => rfl))
  stepInstruction := .bind stepOverBreakpoint_held fun
    | none => singleStep_held
    | some _ => .pure _
  continueExecution := keeps_continueExecution stepOverBreakpoint_held
    (runAndWait_held Simulated.resume_runs Simulated.resume_isDetached)
  kill := kill_held
  detachIn := detachIn_held

theorem writeMemory_held (a : Addr) (value : Word) :
    (writeMemory a value : Action (Debuggee Unreliable) Unit).Keeps (Preserves Held) :=
  requestAlive_held (access_footing (Simulated.writeWord_footing a value))

/-! ### Without refusals -/

theorem disableAt_later (a : Addr) : (disableAt a : Action (Debuggee Unreliable) Unit).Keeps
    (InvImage Later Debuggee.tracee) :=
  .bind (.inspect _) fun
    | none => .pure ()
    | some b => .bind (request_keeps (disable_later b)) fun _ d => refl_of Later d.tracee

theorem disableAt_unrefused {r : Except Failure Unit} (hd : d.Held) (ha : d.isAlive)
    (hen : d.breakpoints.isEnabledAt a) (h : (disableAt a).Gives d r d')
    (hu : Unrefused d.tracee d'.tracee) : r = .ok () := by
  obtain ⟨v, hv⟩ := BreakpointTable.exists_saved? hen
  rw [disableAt, gives_inspect_bind, BreakpointTable.saved?_eq_some.1 hv] at h
  obtain ⟨e, t, hdis, rfl, rfl⟩ | ⟨b, t, -, rfl, -⟩ := gives_requestPut.1 h
  · have hw := hd.writable a ha (BreakpointTable.contains_of_isEnabledAt hen)
    obtain ⟨b, ⟨⟩⟩ := disable_unrefused (hd.process ha) hw hdis hu
  · rfl

/-- Where all breakpoints can be patched, disabling them fails only if an access
    is refused. -/
theorem disableEach_unrefused {order : List Addr} {r : Except Failure Unit} (hd : d.Held)
    (ha : d.isAlive) (h : (disableEach order).Gives d r d')
    (hu : Unrefused d.tracee d'.tracee) : r = .ok () := by
  induction order generalizing d with
  | nil => exact (gives_pure.1 h).1
  | cons a order ih =>
    rw [disableEach, gives_inspect_bind] at h
    split_ifs at h with hen
    swap
    · exact ih hd ha h hu
    obtain ⟨e, hdis, -⟩ | ⟨_, d₁, hdis, hrest⟩ := gives_bind.1 h
    · cases disableAt_unrefused hd ha hen hdis hu
    · have ha₁ : d₁.isAlive := isAlive_of_state ((disableAt_state a).gives hdis) ha
      obtain ⟨-, hu₁⟩ := hu.split ((disableAt_later a).gives hdis)
        ((keeps_disableEach disableAt_later order).gives hrest)
      exact ih ((held_patching.disableAt a).gives hdis hd) ha₁ hrest hu₁

end Debuggee

/-! ## Sessions -/

namespace Session

open Debuggee

section
variable {τ : Type} [Tracee τ]

/-- What cleans up a session: the saved bytes are restored by address, or in any
    other order. -/
inductive Cleans (s : Session τ) : Action (Session τ) Unit → Prop where
  | cleanup : Cleans s cleanup
  | cleanupIn {order : List Addr} (perm : order.Perm s.debuggee.breakpoints.addresses) :
      Cleans s (cleanupIn order)

/-- Cleaning up restores the saved bytes by address. -/
theorem cleanup_eq (s : Session τ) : cleanup s = cleanupIn s.debuggee.breakpoints.addresses s :=
  rfl

/-- All of these clean up in some order. -/
theorem Cleans.exists_order {s : Session τ} {act : Action (Session τ) Unit} (h : Cleans s act) :
    ∃ order, order.Perm s.debuggee.breakpoints.addresses ∧ act s = Session.cleanupIn order s := by
  cases h with
  | cleanup => exact ⟨_, .refl _, cleanup_eq s⟩
  | cleanupIn perm => exact ⟨_, perm, rfl⟩

theorem gives_cleanupIn {order : List Addr} {s s' : Session τ} {r : Except Failure Unit}
    (ha : s.debuggee.isAlive) (hp : s.config.onExit = .detach)
    (h : (cleanupIn order).Gives s r s') :
    (onDebuggee (Debuggee.detachIn order)).Gives s r s' := by
  rw [cleanupIn, gives_inspect_bind, if_pos ha, gives_inspect_bind, hp] at h
  exact gives_log_bind.1 h

end

/-- The session holds its process, whose own memory is `m`, and will detach from
    it. -/
structure Holds (m : Memory) (s : Session Unreliable) : Prop where
  held : s.debuggee.Held
  coherent : s.debuggee.isAlive → s.debuggee.Coherent m
  policy : s.config.onExit = .detach

/-- The process runs on untraced, with the memory `m`, and the session is over. -/
structure Released (m : Memory) (s : Session Unreliable) : Prop where
  detached : s.debuggee.tracee.process.isDetached
  state : s.debuggee.state = .exited
  breakpoints : s.debuggee.breakpoints = .empty
  memory : s.debuggee.memory = m

variable {m : Memory} {s s' : Session Unreliable}

theorem holds_fresh {u : Unreliable} (resolver : Resolver) {config : Config}
    (halive : u.process.isAlive) (htraced : u.process.isDetached = false)
    (hpolicy : config.onExit = .detach) : Holds u.memory (fresh u resolver config) where
  held := ⟨fun _ => halive, fun _ => htraced, nofun⟩
  coherent := @coherent_after Unreliable _ _ u resolver config [] (by simp [exchanges])
  policy := hpolicy

theorem Holds.perform (h : s.Holds m) {i : Interaction} {r : Except Failure Feedback}
    (hg : (Session.perform i).Gives s r s') (hi : Exchange.Avoids ⟨s, i, r⟩) :
    s'.Holds (Exchange.write m ⟨s, i, r⟩) where
  held := Keeps.gives (R := InvImage (Preserves Held) Session.debuggee)
    (perform_keeps_each held_moving held_patching writeMemory_held i)
    hg h.held
  coherent := coherent_perform h.coherent hg hi
  policy := by
    rw [← hg.2, (perform_constant i s).2, h.policy]

theorem Holds.after (h : s.Holds m) {is : List Interaction}
    (avoids : ∀ x ∈ s.exchanges is, x.Avoids) :
    (s.after is).Holds (written m (s.exchanges is)) :=
  invariant_after (P := Holds) (fun _ _ _ _ _ h hg hi => h.perform hg hi) h avoids

/-- Cleaning up releases the process or holds it; without refusals it releases
    it. -/
theorem Holds.cleans (h : s.Holds m) (ha : s.debuggee.isAlive)
    {act : Action (Session Unreliable) Unit} (hact : s.Cleans act) {r : Except Failure Unit}
    (hg : act.Gives s r s') :
    (r = .ok () ∧ s'.Released m ∨ (∃ e, r = .error e) ∧ s'.debuggee.isAlive ∧ s'.Holds m) ∧
      (Unreliable.Unrefused s.debuggee.tracee s'.debuggee.tracee → r = .ok ()) := by
  obtain ⟨order, horder, hrun⟩ := hact.exists_order
  rw [Gives, hrun] at hg
  obtain ⟨d, hd, rfl⟩ := gives_onDebuggee.1 (gives_cleanupIn ha h.policy hg)
  -- disabling leaves the session alive and coherent, however far it gets
  have hdisabled {r : Except Failure Unit} {d : Debuggee Unreliable}
      (hdis : (disableEach order).Gives s.debuggee r d) : d.isAlive ∧ d.Coherent m := by
    have ha' : d.isAlive := isAlive_of_state ((disableEach_state order).gives hdis) ha
    obtain ⟨-, hown, hintact⟩ := (disableEach_keeps order).gives hdis ha'
    obtain ⟨hi, ho⟩ := coherent_iff.1 (h.coherent ha)
    exact ⟨ha', coherent_iff.2 ⟨hintact hi, hown.trans ho⟩⟩
  cases gives_detachIn h.held ha hd with
  | stuck hdis =>
    obtain ⟨ha', hcoh⟩ := hdisabled hdis
    refine ⟨Or.inr ⟨⟨_, rfl⟩, ha', ⟨?_, fun _ => hcoh, h.policy⟩⟩, fun hu => ?_⟩
    · exact (held_patching.disableEach order).gives hdis h.held
    · exact disableEach_unrefused h.held ha hdis hu
  | free hdis hdet hstate hempty hm =>
    refine ⟨Or.inl ⟨rfl, hdet, hstate, hempty, hm.trans ?_⟩, fun _ => rfl⟩
    refine (hdisabled hdis).2.memory_eq fun a hen => ?_
    obtain ⟨hen, hnot⟩ := disableEach_clears hdis hen
    exact hnot (horder.mem_iff.2
      (BreakpointTable.mem_addresses.2 (BreakpointTable.contains_of_isEnabledAt hen)))

/-- However the session goes on, if it is cleaned up while it is alive and no
    access is refused then, it releases the process. -/
def Recoverable (m : Memory) (s : Session Unreliable) : Prop :=
  ∀ is, (∀ x ∈ s.exchanges is, x.Avoids) → (s.after is).debuggee.isAlive →
  ∀ act, (s.after is).Cleans act →
    let out := act (s.after is)
    (s.after is).debuggee.tracee.Unrefused out.state.debuggee.tracee →
    out.result = .ok () ∧ out.state.Released (written m (s.exchanges is))

theorem Holds.recoverable (h : s.Holds m) : s.Recoverable m := by
  intro is avoids alive act hact out hu
  obtain ⟨⟨hok, hreleased⟩ | ⟨⟨e, he⟩, -⟩, hlast⟩ :=
    (h.after avoids).cleans alive hact (gives_self _ _)
  · exact ⟨hok, hreleased⟩
  · cases he.symm.trans (hlast hu)

end Session

namespace Unreliable

open Session

/-- **Detaching restores the program, and can be tried again.**  A session that
    is cleaned up, the breakpoints taken by address or in any other order, has
    detached from a process with its own bytes; or it failed, the process is traced
    and the session alive, and cleaning up at any later time without refusals
    restores all bytes. -/
theorem cleanup_restores (u : Unreliable) (resolver : Resolver) {config : Config}
    (hthere : u.process.isAlive) (htraced : u.process.isDetached = false)
    (hpolicy : config.onExit = .detach) {is : List Interaction}
    (avoids : ∀ x ∈ (fresh u resolver config).exchanges is, x.Avoids)
    (alive : ((fresh u resolver config).after is).debuggee.isAlive)
    {act : Action (Session Unreliable) Unit}
    (cleans : ((fresh u resolver config).after is).Cleans act) :
    let m := written u.memory ((fresh u resolver config).exchanges is)
    let out := act ((fresh u resolver config).after is)
    (out.result = .ok () → out.state.Released m) ∧
      ∀ e, out.result = .error e → out.state.debuggee.tracee.process.isDetached = false ∧
        out.state.debuggee.isAlive ∧ out.state.Recoverable m := by
  intro m out
  have hholds := (holds_fresh resolver hthere htraced hpolicy).after avoids
  obtain ⟨hok, hreleased⟩ | ⟨⟨e, he⟩, halive, hheld⟩ :=
    (hholds.cleans alive cleans (gives_self _ _)).1
  · refine ⟨fun _ => hreleased, fun e he => ?_⟩
    cases hok.symm.trans he
  · refine ⟨fun hok => ?_, fun _ _ => ⟨hheld.held.traced halive, halive, hheld.recoverable⟩⟩
    cases hok.symm.trans he

/-- Sixteen instructions of one byte; the seventh access fails. -/
def stubborn : Unreliable :=
  { faltering with refusal := fun n => if n = 6 then some (.memoryAccess 0x1000 .eio) else none }

/-- Of two breakpoints whose words overlap only the second is restored at first.
    Trying again by address restores the program. -/
theorem cleanup_restores_stubborn :
    let s := (fresh stubborn ⟨⟨[], [], false⟩, 0⟩ { onExit := .detach }).after
      [.command (.setBreakpoint (.address 0x1000)), .command (.setBreakpoint (.address 0x1001))]
    let out := cleanupIn [0x1001, 0x1000] s
    out.result = .error (.memoryAccess 0x1000 .eio) ∧
      out.state.debuggee.tracee.process.isDetached = false ∧ out.state.debuggee.isAlive ∧
      (cleanup out.state).result = .ok () ∧
      (cleanup out.state).state.Released stubborn.memory := by
  have hfails := (@cleanup_restores stubborn ⟨⟨[], [], false⟩, 0⟩ { onExit := .detach } rfl rfl rfl
    [.command (.setBreakpoint (.address 0x1000)), .command (.setBreakpoint (.address 0x1001))]
    (by decide +kernel) (by decide +kernel) (cleanupIn [0x1001, 0x1000])
    (.cleanupIn (by decide +kernel))).2 (.memoryAccess 0x1000 .eio) (by decide +kernel)
  refine ⟨by decide +kernel, hfails.1, hfails.2.1, ?_⟩
  exact hfails.2.2 [] (by decide +kernel) hfails.2.1 cleanup .cleanup (by decide +kernel)

end Unreliable

end SourceDebugger
