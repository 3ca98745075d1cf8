/-
  What operations do to the table of breakpoints, whatever the tracee answers.
  A tracee may refuse any request, so an operation can end in the middle.

  * `Debuggee.setBreakpoint_adds` and `Debuggee.removeBreakpoint_takes`: setting
    and removing change the table by one breakpoint, or fail and leave it;
  * `Debuggee.SamePlaces`: a debuggee that runs has breakpoints at the same
    addresses afterwards, as long as the process is there.
-/
import SourceDebugger.Proofs.Session

namespace SourceDebugger

open SourceDebugger.Action

namespace BreakpointTable

variable {t : BreakpointTable} {a : Addr}

theorem erase_eq_self (h : ¬ t.contains a) : t.erase a = t := by
  refine ext_get? fun x => ?_
  rw [get?_erase]
  split_ifs with hx
  · rw [← hx, get?_eq_none.2 h]
  · rfl

/-- A breakpoint that replaces one at its address adds none. -/
theorem contains_put_iff {b : Breakpoint} (h : t.contains b.addr) (x : Addr) :
    (t.put b).contains x ↔ t.contains x := by
  rw [contains_put]
  exact ⟨fun hx => hx.elim (fun hb => hb ▸ h) id, Or.inr⟩

end BreakpointTable

namespace Breakpoint

variable {τ : Type} [Tracee τ] {t t' : τ} {b b' : Breakpoint}

theorem addr_of_enable (h : b.enable.Gives t (.ok b') t') : b'.addr = b.addr := by
  unfold enable at h
  split_ifs at h
  · cases (gives_fail.1 h).1
  obtain ⟨e, -, ⟨⟩⟩ | ⟨w, t₁, -, h⟩ := gives_bind.1 h
  rw [gives_log_bind, gives_log_bind] at h
  obtain ⟨e, -, ⟨⟩⟩ | ⟨_, t₂, -, h⟩ := gives_bind.1 h
  rw [Except.ok.inj (gives_pure.1 h).1]

theorem eq_of_disable (h : b.disable.Gives t (.ok b') t') : b' = { b with saved := none } := by
  unfold disable at h
  split at h
  · cases (gives_fail.1 h).1
  obtain ⟨e, -, ⟨⟩⟩ | ⟨w, t₁, -, h⟩ := gives_bind.1 h
  rw [gives_log_bind, gives_log_bind] at h
  obtain ⟨e, -, ⟨⟩⟩ | ⟨_, t₂, -, h⟩ := gives_bind.1 h
  exact Except.ok.inj (gives_pure.1 h).1

theorem addr_of_disable (h : b.disable.Gives t (.ok b') t') : b'.addr = b.addr := by
  rw [eq_of_disable h]

end Breakpoint

namespace Debuggee

variable {τ : Type} {d d' : Debuggee τ} {a : Addr}

/-! ## The same places -/

/-- If the process is there afterwards, it was there before, with breakpoints at
    the same addresses. -/
def SamePlaces (d d' : Debuggee τ) : Prop :=
  d'.isAlive → d.isAlive ∧ ∀ x, d'.breakpoints.contains x ↔ d.breakpoints.contains x

instance : IsPreorder (Debuggee τ) SamePlaces where
  refl _ h := ⟨h, fun _ => Iff.rfl⟩
  trans _ _ _ h₁ h₂ h := by
    obtain ⟨hb, hp⟩ := h₂ h
    obtain ⟨ha, hp'⟩ := h₁ hb
    exact ⟨ha, fun x => (hp x).trans (hp' x)⟩

theorem samePlaces_of_contains (hs : d'.state = d.state)
    (hc : ∀ x, d'.breakpoints.contains x ↔ d.breakpoints.contains x) : SamePlaces d d' := by
  intro ha
  rw [isAlive_iff, hs, ← isAlive_iff] at ha
  exact ⟨ha, hc⟩

theorem samePlaces_of_eq (hs : d'.state = d.state) (hb : d'.breakpoints = d.breakpoints) :
    SamePlaces d d' :=
  samePlaces_of_contains hs fun x => by rw [hb]

theorem request_places {α : Type} (act : Action τ α) : (request act).Keeps SamePlaces := by
  refine .of_gives fun d r d' h => ?_
  obtain ⟨t, -, rfl⟩ := gives_request.1 h
  exact samePlaces_of_eq rfl rfl

variable [Tracee τ]

theorem enableAt_places (a : Addr) : (enableAt a : Action (Debuggee τ) Unit).Keeps SamePlaces := by
  refine .of_gives fun d r d' h => ?_
  refine samePlaces_of_contains ((enableAt_state a).gives h) fun x => ?_
  rw [enableAt, gives_inspect_bind] at h
  split at h
  · rw [(gives_pure.1 h).2]
  rename_i b hb
  obtain ⟨_, t, -, -, rfl⟩ | ⟨b', t, hen, -, rfl⟩ := gives_requestPut.1 h
  · rfl
  · have hc := BreakpointTable.contains_of_get? hb
    rw [← BreakpointTable.addr_of_get? hb, ← Breakpoint.addr_of_enable hen] at hc
    exact BreakpointTable.contains_put_iff hc x

/-- A breakpoint that is disabled stays in the table.  If that fails, it is
    because the byte could not be restored. -/
theorem gives_disableAt_places {r : Except Failure Unit} (h : (disableAt a).Gives d r d') :
    (∀ x, d'.breakpoints.contains x ↔ d.breakpoints.contains x) ∧
      ∀ e, r = .error e → d'.breakpoints = d.breakpoints ∧
        ∃ b, d.breakpoints.get? a = some b ∧ b.disable.Gives d.tracee (.error e) d'.tracee := by
  rw [disableAt, gives_inspect_bind] at h
  split at h
  · obtain ⟨rfl, rfl⟩ := gives_pure.1 h
    exact ⟨fun _ => Iff.rfl, by simp⟩
  rename_i b hb
  obtain ⟨e, t, hdis, rfl, rfl⟩ | ⟨b', t, hdis, rfl, rfl⟩ := gives_requestPut.1 h
  · refine ⟨fun _ => Iff.rfl, fun e' he => ?_⟩
    obtain rfl := Except.error.inj he
    exact ⟨rfl, b, hb, hdis⟩
  · have hc := BreakpointTable.contains_of_get? hb
    rw [← BreakpointTable.addr_of_get? hb, ← Breakpoint.addr_of_disable hdis] at hc
    exact ⟨BreakpointTable.contains_put_iff hc, by simp⟩

theorem disableAt_places (a : Addr) :
    (disableAt a : Action (Debuggee τ) Unit).Keeps SamePlaces :=
  .of_gives fun _ _ _ h =>
    samePlaces_of_contains ((disableAt_state a).gives h) (gives_disableAt_places h).1

/-! ## Setting and removing -/

/-- Where there is no breakpoint one is added, or the table stays. -/
theorem setBreakpoint_adds (hc : ¬ d.breakpoints.contains a) {r : Except Failure Bool}
    (h : (setBreakpoint a).Gives d r d') :
    (∃ e, r = .error e) ∧ d'.breakpoints = d.breakpoints ∨
      r = .ok true ∧ ∀ x, d'.breakpoints.contains x ↔ a = x ∨ d.breakpoints.contains x := by
  rw [setBreakpoint_inserts] at h
  split_ifs at h
  swap
  · obtain ⟨rfl, rfl⟩ := h
    exact Or.inl ⟨⟨_, rfl⟩, rfl⟩
  rw [insertBreakpoint, gives_inspect_bind, BreakpointTable.get?_eq_none.2 hc, ← bind_assoc] at h
  obtain ⟨e, hput, rfl⟩ | ⟨_, d₁, hput, hadded⟩ := gives_bind.1 h
  · obtain ⟨_, t, -, -, rfl⟩ | ⟨_, _, -, ⟨⟩, -⟩ := gives_requestPut.1 hput
    exact Or.inl ⟨⟨e, rfl⟩, rfl⟩
  · obtain ⟨rfl, rfl⟩ := gives_pure.1 hadded
    obtain ⟨_, _, -, ⟨⟩, -⟩ | ⟨b, t, hen, -, rfl⟩ := gives_requestPut.1 hput
    refine Or.inr ⟨rfl, fun x => ?_⟩
    rw [BreakpointTable.contains_put, Breakpoint.addr_of_enable hen]

/-- A breakpoint is taken away, or it stays because its byte could not be
    restored. -/
theorem removeBreakpoint_takes (ha : d.isAlive) {r : Except Failure Unit}
    (h : (removeBreakpoint a).Gives d r d') :
    r = .ok () ∧ (∀ x, d'.breakpoints.contains x ↔ a ≠ x ∧ d.breakpoints.contains x) ∨
      ∃ e v, r = .error e ∧ d'.breakpoints = d.breakpoints ∧
        (Breakpoint.disable ⟨a, some v⟩).Gives d.tracee (.error e) d'.tracee := by
  rw [removeBreakpoint, gives_ensureAlive_bind, if_pos ha, eraseBreakpoint,
    gives_inspect_bind] at h
  split at h
  · rename_i hb
    obtain ⟨rfl, rfl⟩ := gives_log.1 h
    refine Or.inl ⟨rfl, fun x => ?_⟩
    rw [← BreakpointTable.contains_erase,
      BreakpointTable.erase_eq_self (BreakpointTable.get?_eq_none.1 hb)]
  rename_i b hb
  split_ifs at h with hen
  · obtain ⟨e, hdis, rfl⟩ | ⟨_, d₁, hdis, h⟩ := gives_bind.1 h
    · obtain ⟨ht, b', hb', hgives⟩ := (gives_disableAt_places hdis).2 e rfl
      obtain rfl : b = b' := Option.some.inj (hb.symm.trans hb')
      obtain ⟨v, hv⟩ := Option.isSome_iff_exists.1 hen
      have hbreak : b = ⟨a, some v⟩ := by rw [← BreakpointTable.addr_of_get? hb, ← hv]
      exact Or.inr ⟨e, v, rfl, ht, hbreak ▸ hgives⟩
    · obtain ⟨rfl, rfl⟩ := gives_modify.1 h
      refine Or.inl ⟨rfl, fun x => ?_⟩
      rw [BreakpointTable.contains_erase, (gives_disableAt_places hdis).1]
  · obtain ⟨rfl, rfl⟩ := gives_modify.1 h
    exact Or.inl ⟨rfl, fun x => BreakpointTable.contains_erase⟩

/-! ## Running -/

theorem runAndWait_places {act : Action τ Unit} {r : Except Failure StopEvent}
    (h : (runAndWait act).Gives d r d') (hd : d.isAlive) : SamePlaces d d' := by
  intro ha
  obtain ⟨-, hb, -⟩ | ⟨hs, -⟩ := gives_runAndWait h hd
  · exact ⟨hd, fun x => by rw [hb]⟩
  · exact absurd hs (isAlive_iff.1 ha)

theorem singleStep_places : (singleStep : Action (Debuggee τ) StopEvent).Keeps SamePlaces := by
  refine .of_gives fun d r d' h => ?_
  rw [gives_singleStep] at h
  split_ifs at h with hd
  · exact runAndWait_places h hd
  · exact h.2 ▸ refl_of SamePlaces d

theorem stepOverBreakpoint_places :
    (stepOverBreakpoint : Action (Debuggee τ) (Option StopEvent)).Keeps SamePlaces :=
  keeps_stepOverBreakpoint (requestAlive_keeps (request_places _)) disableAt_places
    singleStep_places enableAt_places

theorem continueExecution_places :
    (continueExecution : Action (Debuggee τ) StopEvent).Keeps SamePlaces :=
  keeps_continueExecution stepOverBreakpoint_places runAndWait_places

end Debuggee

end SourceDebugger
