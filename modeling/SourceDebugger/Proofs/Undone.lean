/-
  What fails leaves nothing behind.  Whatever a command has done before it fails
  is undone, so that the debuggee is what it was, but for the number of words
  that were written.

  * `Debuggee.Same`: nothing but this number has changed;
  * `Debuggee.Installed`: the debuggee with temporary breakpoints, byte for byte,
    and `Session.removeTemporary_installed`: without them it is the same again;
  * `Session.Undone` passes from the parts of a command to the whole.  Only what
    runs away is not undone;
  * `Session.handle_undone`: a command that fails leaves the debuggee as it was
    and shows nothing.
-/
import SourceDebugger.Proofs.Failing
import SourceDebugger.Proofs.Quiet

namespace SourceDebugger

open SourceDebugger.Action

namespace Debuggee

open Simulated

variable {d d' d₁ : Debuggee Simulated} {a : Addr} {v : UInt8}

/-! ## Temporary breakpoints, byte for byte -/

/-- Nothing but the number of words that were written has changed. -/
def Same (d d' : Debuggee Simulated) : Prop :=
  d' = { d with tracee := { d.tracee with writes := d'.tracee.writes } }

instance : IsPreorder (Debuggee Simulated) Same where
  refl _ := rfl
  trans a b c h₁ h₂ := by
    rw [Same] at h₁ h₂ ⊢
    rw [h₂, h₁]

/-- The debuggee `d` with temporary breakpoints at `added`, each of which keeps
    the byte that `d` has there. -/
structure Installed (d : Debuggee Simulated) (added : List Addr) (d₁ : Debuggee Simulated) :
    Prop where
  rest : d₁.rest = d.rest
  nodup : added.Nodup
  alive (a : Addr) : a ∈ added → d.isAlive ∧ d.tracee.isAlive
  writable (a : Addr) : a ∈ added → d₁.tracee.isWritable a
  free (a : Addr) : a ∈ added → ¬ d.breakpoints.contains a
  saved (a : Addr) : a ∈ added →
    ∃ v, d.memory.get? a = some v ∧ d₁.breakpoints.saved? a = some v
  breakpoints (a : Addr) : a ∉ added → d₁.breakpoints.get? a = d.breakpoints.get? a
  memory (a : Addr) : a ∉ added → d₁.memory.get? a = d.memory.get? a

/-- With temporary breakpoints or without, the process runs away. -/
def Escapes (d : Debuggee Simulated) : Prop := ∃ added d₁, Installed d added d₁ ∧ d₁.RunsAway

variable {added stops : List Addr}

theorem Installed.refl (d : Debuggee Simulated) : Installed d [] d :=
  ⟨rfl, .nil, by simp, by simp, by simp, by simp, fun _ _ => rfl, fun _ _ => rfl⟩

theorem Installed.same (h : Installed d [] d₁) : Same d d₁ := by
  have hb : d₁.breakpoints = d.breakpoints :=
    BreakpointTable.ext_get? fun a => h.breakpoints a (by simp)
  have hm : d₁.tracee.memory = d.tracee.memory := Memory.ext_get? fun a => h.memory a (by simp)
  have heq := eq_of_rest h.rest
  rwa [hb, hm] at heq

theorem Installed.of_same (hs : Same d d') (h : Installed d' added d₁) : Installed d added d₁ := by
  rw [Same] at hs
  rw [hs] at h
  exact ⟨h.rest, h.nodup, h.alive, h.writable, h.free, h.saved, h.breakpoints, h.memory⟩

theorem Installed.isAlive_eq (h : Installed d added d₁) : d₁.isAlive = d.isAlive := by
  rw [eq_of_rest h.rest]
  rfl

theorem Installed.process_eq (h : Installed d added d₁) : d₁.tracee.isAlive = d.tracee.isAlive := by
  rw [eq_of_rest h.rest]

/-- One more breakpoint is installed. -/
theorem Installed.patch_put (h : Installed d added d₁) (hc : ¬ d₁.breakpoints.contains a)
    (ha : d₁.isAlive) (hp : d₁.tracee.isAlive) (hw : d₁.tracee.isWritable a)
    (hv : d₁.memory.get? a = some v) :
    Installed d (added ++ [a]) (d₁.patch a trapByte (d₁.breakpoints.put ⟨a, some v⟩)) := by
  have hnew : a ∉ added := by
    intro hmem
    obtain ⟨u, -, hu⟩ := h.saved a hmem
    exact hc (BreakpointTable.contains_of_get? (BreakpointTable.saved?_eq_some.1 hu))
  have hne {x : Addr} (hx : x ∈ added) : a ≠ x := fun he => hnew (he ▸ hx)
  have hsplit {x : Addr} (hx : x ∈ added ++ [a]) : x ∈ added ∨ x = a := by simpa using hx
  refine ⟨h.rest, ?_, fun x _ => ⟨h.isAlive_eq ▸ ha, h.process_eq ▸ hp⟩, fun x hx => ?_,
    fun x hx => ?_, fun x hx => ?_, fun x hx => ?_, fun x hx => ?_⟩
  · rw [List.nodup_append]
    refine ⟨h.nodup, by simp, fun x hx y hy => ?_⟩
    rw [List.mem_singleton.1 hy]
    exact (hne hx).symm
  · rw [patch_tracee, isWritable_patch hw]
    obtain hx | rfl := hsplit hx
    · exact h.writable x hx
    · exact hw
  · obtain hx | rfl := hsplit hx
    · exact h.free x hx
    · rwa [← BreakpointTable.get?_eq_none, ← h.breakpoints x hnew, BreakpointTable.get?_eq_none]
  · rw [patch_breakpoints, BreakpointTable.saved?_put]
    obtain hx | rfl := hsplit hx
    · rw [if_neg (hne hx)]
      exact h.saved x hx
    · exact ⟨v, h.memory x hnew ▸ hv, if_pos rfl⟩
  all_goals
    simp only [List.mem_append, List.mem_singleton, not_or] at hx
    obtain ⟨hx, hxa⟩ := hx
  · rw [patch_breakpoints, BreakpointTable.get?_put, if_neg (Ne.symm hxa), h.breakpoints x hx]
  · rw [patch_memory, Memory.get?_set, if_neg (Ne.symm hxa), h.memory x hx]

/-- The byte that a breakpoint kept is put back. -/
theorem Installed.patch_erase (h : Installed d (a :: added) d₁)
    (hv : d₁.breakpoints.saved? a = some v) :
    Installed d added (d₁.patch a v (d₁.breakpoints.erase a)) := by
  obtain ⟨hnew, hnodup⟩ := List.nodup_cons.1 h.nodup
  have hne {x : Addr} (hx : x ∈ added) : a ≠ x := fun he => hnew (he ▸ hx)
  have hmem {x : Addr} (hx : x ∈ added) : x ∈ a :: added := List.mem_cons_of_mem a hx
  refine ⟨h.rest, hnodup, fun x hx => h.alive x (hmem hx), fun x hx => ?_,
    fun x hx => h.free x (hmem hx), fun x hx => ?_, fun x hx => ?_, fun x hx => ?_⟩
  · rw [patch_tracee, isWritable_patch (h.writable a List.mem_cons_self)]
    exact h.writable x (hmem hx)
  · rw [patch_breakpoints, BreakpointTable.saved?_erase, if_neg (hne hx)]
    exact h.saved x (hmem hx)
  · rw [patch_breakpoints, BreakpointTable.get?_erase]
    split_ifs with hxa
    · rw [← hxa, BreakpointTable.get?_eq_none.2 (h.free a List.mem_cons_self)]
    · exact h.breakpoints x (by simp [Ne.symm hxa, hx])
  · rw [patch_memory, Memory.get?_set]
    split_ifs with hxa
    · obtain ⟨u, hu, hu'⟩ := h.saved a List.mem_cons_self
      rw [← hxa, hu, ← hu', hv]
    · exact h.memory x (by simp [Ne.symm hxa, hx])

/-- A breakpoint can be removed where a word can be written, whether it is
    enabled or not. -/
theorem removeBreakpoint_succeeds (ha : d.isAlive) (hp : d.tracee.isAlive)
    (hw : d.tracee.isWritable a) :
    ∃ d', (removeBreakpoint a).Gives d (.ok ()) d' ∧ d'.isAlive ∧ d'.tracee.isAlive ∧
      d'.tracee.isWritable = d.tracee.isWritable := by
  rcases hb : d.breakpoints.get? a with _ | ⟨b, _ | v⟩
  · exact ⟨d, removeBreakpoint_absent ha (BreakpointTable.get?_eq_none.1 hb), ha, hp, rfl⟩
  · refine ⟨{ d with breakpoints := d.breakpoints.erase a }, ?_, ha, hp, rfl⟩
    rw [removeBreakpoint, gives_ensureAlive_bind, if_pos ha, eraseBreakpoint, gives_inspect_bind,
      hb]
    exact gives_modify.2 ⟨rfl, rfl⟩
  · obtain rfl : b = a := BreakpointTable.addr_of_get? hb
    have hs := BreakpointTable.saved?_eq_some.2 hb
    exact ⟨_, removeBreakpoint_patches ha hp hw hs, ha, hp, isWritable_patch hw⟩

end Debuggee

namespace Session

open Debuggee Simulated

variable {s s' : Session Simulated} {d : Debuggee Simulated} {added stops : List Addr}

theorem gives_addTemporary_installed {r : Except Failure (List Addr × Except Failure Unit)}
    (h : (addTemporary added stops).Gives s r s') (hi : Installed d added s.debuggee) :
    ∃ added' ready, r = .ok (added', ready) ∧ Installed d added' s'.debuggee := by
  induction stops generalizing added s with
  | nil =>
    obtain ⟨rfl, rfl⟩ := gives_pure.1 h
    exact ⟨added, .ok (), rfl, hi⟩
  | cons a stops ih =>
    rw [addTemporary, gives_inspect_bind] at h
    split_ifs at h with hc
    · exact ih h hi
    obtain ⟨r₁, s₁, hattempt, hthen⟩ := gives_attempt_bind.1 h
    obtain ⟨d₁, hset, rfl⟩ := gives_onDebuggee.1 hattempt
    rcases r₁ with e | _
    · obtain ⟨rfl, rfl⟩ := gives_pure.1 hthen
      exact ⟨added, .error e, rfl, (setBreakpoint_error hset).symm ▸ hi⟩
    have ha : s.debuggee.isAlive := by
      by_contra ha
      rw [setBreakpoint_inserts, if_neg ha] at hset
      cases hset.1
    obtain ⟨-, ⟨_, ⟨⟩⟩, -⟩ | ⟨v, ⟨⟩, hp, hw, hv, rfl⟩ := gives_setBreakpoint_new ha hc hset
    exact ih hthen (hi.patch_put hc ha hp hw hv)

/-- What was installed can be removed, and nothing of it is left. -/
theorem removeEach_installed (hi : Installed d added s.debuggee) :
    ∃ d', (removeEach added).Gives s (.ok ()) { s with debuggee := d' } ∧ Installed d [] d' := by
  induction added generalizing s with
  | nil => exact ⟨s.debuggee, gives_pure.2 ⟨rfl, rfl⟩, hi⟩
  | cons a added ih =>
    obtain ⟨ha, hp⟩ := hi.alive a List.mem_cons_self
    obtain ⟨v, -, hv⟩ := hi.saved a List.mem_cons_self
    have hremove := removeBreakpoint_patches (hi.isAlive_eq ▸ ha) (hi.process_eq ▸ hp)
      (hi.writable a List.mem_cons_self) hv
    obtain ⟨d', hgives, hd'⟩ :=
      ih (s := { s with debuggee := s.debuggee.patch a v _ }) (hi.patch_erase hv)
    exact ⟨d', (gives_onDebuggee.2 ⟨_, hremove, rfl⟩).bind hgives, hd'⟩

theorem removeTemporary_installed (hi : Installed d added s.debuggee) {r : Except Failure Unit}
    (h : (removeTemporary added).Gives s r s') : Same d s'.debuggee := by
  rw [removeTemporary, gives_inspect_bind] at h
  split_ifs at h with ha
  · obtain ⟨d', hgives, hd'⟩ := removeEach_installed hi
    obtain ⟨-, rfl⟩ := h.unique (hgives.bind (gives_log.2 ⟨rfl, rfl⟩))
    exact hd'.same
  · obtain rfl : added = [] := by
      refine List.eq_nil_iff_forall_not_mem.2 fun a hmem => ha ?_
      rw [hi.isAlive_eq]
      exact (hi.alive a hmem).1
    obtain ⟨-, rfl⟩ := gives_pure.1 h
    exact hi.same

/-- Breakpoints can be removed where words can be written. -/
theorem removeEach_succeeds (ha : s.debuggee.isAlive) (hp : s.debuggee.tracee.isAlive)
    (hw : ∀ a ∈ added, s.debuggee.tracee.isWritable a) :
    ∃ s', (removeEach added).Gives s (.ok ()) s' ∧ s'.debuggee.tracee.isAlive := by
  induction added generalizing s with
  | nil => exact ⟨s, gives_pure.2 ⟨rfl, rfl⟩, hp⟩
  | cons a added ih =>
    obtain ⟨d', hremove, ha', hp', hw'⟩ := removeBreakpoint_succeeds ha hp (hw a List.mem_cons_self)
    obtain ⟨s', hgives, hs'⟩ := ih (s := { s with debuggee := d' }) ha' hp' fun x hx => by
      rw [hw']
      exact hw x (List.mem_cons_of_mem a hx)
    exact ⟨s', (gives_onDebuggee.2 ⟨d', hremove, rfl⟩).bind hgives, hs'⟩

theorem removeTemporary_succeeds (hp : s.debuggee.isAlive → s.debuggee.tracee.isAlive)
    (hw : ∀ a ∈ added, s.debuggee.tracee.isWritable a) :
    ∃ s', (removeTemporary added).Gives s (.ok ()) s' ∧
      (s'.debuggee.isAlive → s'.debuggee.tracee.isAlive) := by
  by_cases ha : s.debuggee.isAlive
  · obtain ⟨s', hgives, hp'⟩ := removeEach_succeeds ha (hp ha) hw
    refine ⟨s', gives_inspect_bind.2 ?_, fun _ => hp'⟩
    rw [if_pos ha]
    exact hgives.bind (gives_log.2 ⟨rfl, rfl⟩)
  · refine ⟨s, gives_inspect_bind.2 ?_, hp⟩
    rw [if_neg ha]
    exact gives_pure.2 ⟨rfl, rfl⟩

/-! ## What fails is undone -/

/-- Where `act` fails, the debuggee is the same as before, or there is no report
    to be waited for since the process runs away. -/
def Undone {α : Type} (act : Action (Session Simulated) α) : Prop :=
  ∀ s e s', act.Gives s (.error e) s' →
    Same s.debuggee s'.debuggee ∨ e = .processAccess .echild ∧ s.debuggee.Escapes

section
variable {α β : Type} {act : Action (Session Simulated) α} {next : α → Action (Session Simulated) β}

theorem Undone.of_keeps (h : act.Keeps (InvImage Same Session.debuggee)) : Undone act :=
  fun _ _ _ hg => Or.inl (h.gives hg)

/-- What begins with something that changes nothing. -/
theorem Undone.bind (h : act.Keeps (InvImage Same Session.debuggee)) (hn : ∀ a, Undone (next a)) :
    Undone (act >>= next) := by
  intro s e s' hg
  obtain ⟨_, hfail, -⟩ | ⟨a, s₁, hact, hnext⟩ := gives_bind.1 hg
  · exact Or.inl (h.gives hfail)
  have hsame : Same s.debuggee s₁.debuggee := h.gives hact
  obtain hundone | ⟨he, added, d₁, hi, haway⟩ := hn a _ _ _ hnext
  · exact Or.inl (trans_of Same hsame hundone)
  · exact Or.inr ⟨he, added, d₁, hi.of_same hsame, haway⟩

/-- What ends with something that cannot fail. -/
theorem Undone.then_succeeds (h : Undone act)
    (hn : ∀ {s a s₁}, act.Gives s (.ok a) s₁ → ∃ b s₂, (next a).Gives s₁ (.ok b) s₂) :
    Undone (act >>= next) := by
  intro s e s' hg
  obtain ⟨e', hfail, heq⟩ | ⟨a, s₁, hact, hnext⟩ := gives_bind.1 hg
  · exact h _ _ _ (Except.error.inj heq ▸ hfail)
  · obtain ⟨b, s₂, hb⟩ := hn hact
    cases (hnext.unique hb).1

theorem Undone.map (h : Undone act) (f : α → β) : Undone (do return f (← act)) :=
  h.then_succeeds fun _ => ⟨_, _, gives_pure.2 ⟨rfl, rfl⟩⟩

theorem undone_onDebuggee {act : Action (Debuggee Simulated) α}
    (h : ∀ {d e d'}, act.Gives d (.error e) d' → d' = d) : Undone (onDebuggee act) := by
  intro s e s' hg
  obtain ⟨d, hd, rfl⟩ := gives_onDebuggee.1 hg
  exact Or.inl ((h hd).symm ▸ refl_of Same s.debuggee)

end

theorem undone_moves {act : Action (Debuggee Simulated) StopEvent} (h : Moves act) :
    Undone (onDebuggee act) := by
  intro s e s' hg
  obtain ⟨d, hd, rfl⟩ := gives_onDebuggee.1 hg
  obtain rfl | ⟨he, haway⟩ := h.error hd
  · exact Or.inl (refl_of Same _)
  · exact Or.inr ⟨he, [], _, .refl _, haway⟩

/-- Moving is undone, and then the place can be shown. -/
theorem moved_undone {act : Action (Debuggee Simulated) StopEvent} (h : Moves act) :
    Undone (do
      let event ← onDebuggee act
      presentLocation
      return event) := by
  refine (undone_moves h).then_succeeds fun hg => ?_
  obtain ⟨d, hd, rfl⟩ := gives_onDebuggee.1 hg
  exact ⟨_, _, (presentLocation_gives (h.sound hd).2).bind (gives_pure.2 ⟨rfl, rfl⟩)⟩

/-- Wherever the process has stopped, what was installed can be removed. -/
theorem removeTemporary_arrived {s₁ s₂ : Session Simulated} {event : StopEvent}
    (hi : Installed d added s₁.debuggee)
    (hrun : (onDebuggee Debuggee.continueExecution).Gives s₁ (.ok event) s₂) :
    ∃ s₃, (removeTemporary added).Gives s₂ (.ok ()) s₃ ∧
      (s₃.debuggee.isAlive → s₃.debuggee.tracee.isAlive) := by
  obtain ⟨d₂, hd₂, rfl⟩ := gives_onDebuggee.1 hrun
  obtain ⟨hw, hp⟩ := continueExecution_moves.sound hd₂
  refine removeTemporary_succeeds hp fun a hmem => ?_
  rw [hw]
  exact hi.writable a hmem

/-- **Running with temporary breakpoints is undone.** -/
theorem runTo_undone (stops : List Addr) : Undone (runTo stops) := by
  intro s e s' h
  generalize hr : (Except.error e : Except Failure StopEvent) = r at h
  cases gives_runTo h with
  | @failed added ready s₁ s₂ _ result removed _ hadd hrun hremove hfail =>
    cases hr
    obtain ⟨_, _, hready, hi⟩ := gives_addTemporary_installed hadd (.refl s.debuggee)
    cases hready
    rcases ready with e₀ | _
    · obtain ⟨-, rfl⟩ := gives_pure.1 hrun
      exact Or.inl (removeTemporary_installed hi hremove)
    obtain ⟨_, hcont, hresult⟩ := gives_attempt.1 hrun
    cases hresult
    rcases result with e₁ | event
    · obtain rfl : e₁ = e := Except.error.inj hfail
      obtain ⟨d₂, hd₂, rfl⟩ := gives_onDebuggee.1 hcont
      obtain rfl | ⟨he, haway⟩ := continueExecution_moves.error hd₂
      · exact Or.inl (removeTemporary_installed hi hremove)
      · exact Or.inr ⟨he, added, _, hi, haway⟩
    · obtain ⟨_, hgives, -⟩ := removeTemporary_arrived hi hcont
      obtain rfl : removed = .error e := hfail
      cases (hremove.unique hgives).1
  | arrived hadd hcont hremove hpresent =>
    obtain ⟨_, _, hready, hi⟩ := gives_addTemporary_installed hadd (.refl s.debuggee)
    cases hready
    obtain ⟨_, hgives, hp⟩ := removeTemporary_arrived hi hcont
    obtain ⟨-, rfl⟩ := hremove.unique hgives
    obtain ⟨rfl, -⟩ := hpresent.unique (presentLocation_gives hp)
    cases hr

/-! ## Commands -/

/-- Reading changes nothing. -/
theorem same_reading : KeptByReading Same := by
  have hrequest {α : Type} {act : Action Simulated α} (h : act.Keeps (Unchanged id)) :
      (requestAlive act).Keeps Same := by
    refine requestAlive_keeps (.of_gives fun d r d' hg => ?_)
    obtain ⟨t, ht, rfl⟩ := gives_request.1 hg
    have : t = d.tracee := h.gives ht
    exact this ▸ refl_of Same d
  exact ⟨fun _ => hrequest (whileAlive_keeps fun _ => rfl),
    fun _ => hrequest (.of_gives fun _ _ _ h => (gives_readWord h).1), hrequest readMap_keeps⟩

theorem writeRegister_undone (reg : Register) (value : UInt64) :
    Undone (writeRegister reg value) := by
  refine (undone_onDebuggee fun h => requestAlive_error h).then_succeeds fun hg => ?_
  obtain ⟨d, hd, rfl⟩ := gives_onDebuggee.1 hg
  obtain ⟨hp, rfl⟩ := requestAlive_ok hd
  split_ifs
  · exact ⟨_, _, presentLocation_gives fun _ => hp⟩
  · exact ⟨_, _, gives_pure.2 ⟨rfl, rfl⟩⟩

theorem writeMemory_undone (a : Addr) (value : Word) : Undone (writeMemory a value) := by
  refine undone_onDebuggee fun h => ?_
  rw [Debuggee.writeMemory, gives_requestAlive] at h
  split_ifs at h
  · obtain ⟨t, ht, rfl⟩ := gives_request.1 h
    obtain ⟨-, rfl⟩ | ⟨m, ⟨⟩, -⟩ := gives_writeWord ht
    rfl
  · exact h.2

theorem kill_undone : Undone kill := by
  refine undone_onDebuggee fun h => ?_
  obtain ⟨_, hkill, -⟩ | ⟨_, d₁, -, hmark⟩ := gives_bind.1 h
  · exact requestAlive_error hkill
  · rw [gives_log_bind] at hmark
    cases (gives_markExited.1 hmark).1

/-- **What fails is undone,** for every command but the one that steps until the
    line changes. -/
theorem execute_undone {c : Command} (hc : c ≠ .stepIn) : Undone (execute c) := by
  refine .bind (.log _ _ _) fun _ => ?_
  cases c with
  | «continue» => exact (moved_undone continueExecution_moves).map _
  | setBreakpoint place =>
    refine Undone.map (.bind (locate_keeps place) fun a => ?_) _
    exact (undone_onDebuggee fun h => setBreakpoint_error h).map _
  | deleteBreakpoint a => exact (undone_onDebuggee fun h => removeBreakpoint_error h).map _
  | dumpRegisters =>
    exact .map (.of_keeps (onDebuggee_keeps (same_reading.readRegisters _))) _
  | readRegister reg => exact .map (.of_keeps (onDebuggee_keeps (same_reading.readRegister _))) _
  | writeRegister reg value => exact (writeRegister_undone reg value).map _
  | readMemory a size => exact .map (.of_keeps (readMemory_keeps same_reading a size)) _
  | writeMemory a value => exact (writeMemory_undone a value).map _
  | stepIn => exact absurd rfl hc
  | stepInstruction => exact (moved_undone stepInstruction_moves).map _
  | stepOver =>
    rw [stepOver_eq]
    exact .map (.bind (nextStops_keeps same_reading) runTo_undone) _
  | stepOut =>
    rw [stepOut_eq]
    exact .map (.bind (callerStops_keeps same_reading) runTo_undone) _
  | findSymbols name => exact .map (.of_keeps (.inspect _)) _
  | info => exact .map (.of_keeps (info_keeps same_reading)) _
  | maps => exact .map (.of_keeps (onDebuggee_keeps same_reading.memoryMap)) _
  | kill => exact kill_undone.map _
  | quit => exact .of_keeps (.pure _)

/-- A command that was handled and failed could not be read, or not be
    executed. -/
theorem gives_handle_failed {words : List String} {e : Failure}
    (h : (handle words).Gives s (.ok (.failed e)) s') :
    (Action.ofExcept (Command.ofWords words) >>= execute).Gives s (.error e) s' := by
  obtain ⟨r, s₁, hserved, hend⟩ := gives_attempt_bind.1 h
  obtain ⟨hr, rfl⟩ := gives_pure.1 hend
  rcases r with e' | feedback
  · cases hr
    exact hserved
  · obtain rfl : Feedback.failed e = feedback := Except.ok.inj hr
    obtain ⟨c, _, -, hc⟩ := gives_bind_ok.1 hserved
    exact absurd hc (execute_ok_ne_failed c)

/-- To read and execute is undone as well. -/
theorem served_undone {words : List String} (hstep : Command.ofWords words ≠ .ok .stepIn) :
    Undone (Action.ofExcept (Command.ofWords words) >>= execute) := by
  rcases hread : Command.ofWords words with e | c
  · rintro s e' s' ⟨-, rfl⟩
    exact Or.inl (refl_of Same _)
  · have hc : c ≠ .stepIn := fun h => hstep (h ▸ hread)
    rw [show Action.ofExcept (.ok c) >>= execute = execute c from pure_bind c execute]
    exact execute_undone hc

/-- **A command that fails leaves the debuggee as it was and shows nothing.**
    Stepping until the line changes may fail on its way, and a process that runs
    away, so that there is no stop to wait for, is not brought back; all else is
    undone. -/
theorem handle_undone {words : List String} {e : Failure}
    (fails : (handle words).Gives s (.ok (.failed e)) s')
    (steps : Command.ofWords words ≠ .ok .stepIn)
    (halts : e = .processAccess .echild → ¬ s.debuggee.Escapes) :
    Same s.debuggee s'.debuggee ∧ (handle words).windows s = [] := by
  have hserved := gives_handle_failed fails
  refine ⟨(served_undone steps _ _ _ hserved).resolve_right fun h => halts h.1 h.2, ?_⟩
  have hquiet : (Action.ofExcept (Command.ofWords words) >>= execute).windows s = [] :=
    FailsQuietly.bind (.ofExcept _) execute_failsQuietly _ _ _ hserved
  rw [handle, windows_bind]
  simpa [windows, attempt, pure_eq] using hquiet

/-- The program of `mainOnly`, if `main` returned to where no code is. -/
def lost : Session Simulated :=
  fresh { mainOnly with memory := mainOnly.memory.setWord (Fixture.mainFrame + 8) 0x10 }
    ⟨Fixture.info, Fixture.loadAddress⟩ {}

/-- The traps on the six other lines of `main` are set and removed again before
    `next` fails. -/
theorem handle_undone_lost :
    let o := handle ["next"] lost
    o.state.debuggee.tracee.writes = 12 ∧ o.result = .ok (.failed (.memoryAccess 0x10 .eio)) ∧
      Same lost.debuggee o.state.debuggee ∧ (handle ["next"]).windows lost = [] := by
  have hfails : (handle ["next"]).Gives lost (.ok (.failed (.memoryAccess 0x10 .eio)))
      (handle ["next"] lost).state := ⟨by decide +kernel, rfl⟩
  exact ⟨by decide +kernel, hfails.1, handle_undone hfails (by decide +kernel) nofun⟩

end Session

end SourceDebugger
