/-
  Temporary breakpoints.

  * `Debuggee.Extends d added d'`: besides those of `d`, there are breakpoints
    at `added` in `d'`, each of them once;
  * `Session.gives_addTemporary` and `Session.removeEach_gives`: adding leads
    there, how far it gets, and removing leads back;
  * `Session.runTo_steady`: running with temporary breakpoints leaves the table
    as it was, whatever happens in between.
-/
import SourceDebugger.Proofs.Settled

namespace SourceDebugger

open SourceDebugger.Action

/-! ## Tables with more breakpoints -/

namespace Debuggee

open Simulated

variable {d d₁ d₂ : Debuggee Simulated} {added : List Addr} {a : Addr} {v : UInt8}

/-- Besides the breakpoints of `d`, `d'` has some at `added`. -/
structure Extends (d : Debuggee Simulated) (added : List Addr) (d' : Debuggee Simulated) :
    Prop where
  settled : d'.Settled
  alive : d'.isAlive
  process : d.tracee.isAlive → d'.tracee.isAlive
  nodup : added.Nodup
  free (a : Addr) : a ∈ added → ¬ d.breakpoints.contains a
  there (a : Addr) : a ∈ added → d'.breakpoints.contains a
  others (a : Addr) : a ∉ added → d'.breakpoints.get? a = d.breakpoints.get? a

theorem Extends.refl (hd : d.Settled) (ha : d.isAlive) : Extends d [] d :=
  ⟨hd, ha, id, .nil, by simp, by simp, fun _ _ => rfl⟩

theorem Extends.contains_iff (h : Extends d added d₁) (a : Addr) :
    d₁.breakpoints.contains a ↔ d.breakpoints.contains a ∨ a ∈ added := by
  by_cases ha : a ∈ added
  · simp [ha, h.there a ha]
  · rw [BreakpointTable.contains_eq_isSome, BreakpointTable.contains_eq_isSome, h.others a ha]
    simp [ha]

theorem Extends.breakpoints_eq (h : Extends d [] d₁) : d₁.breakpoints = d.breakpoints :=
  BreakpointTable.ext_get? fun a => h.others a (by simp)

/-- Running keeps the breakpoints that were added. -/
theorem Extends.steady (h : Extends d added d₁) (hs : Steady d₁ d₂) (ha : d₂.isAlive) :
    Extends d added d₂ := by
  obtain ⟨hd, hk⟩ := hs h.settled
  obtain ⟨-, hp, hb⟩ := hk ha
  refine ⟨hd, ha, hp ∘ h.process, h.nodup, h.free, ?_, ?_⟩
  · rw [hb]
    exact h.there
  · rw [hb]
    exact h.others

/-- One more breakpoint is added. -/
theorem Extends.patch_put (h : Extends d added d₁) (hc : ¬ d₁.breakpoints.contains a)
    (hp : d₁.tracee.isAlive) (hw : d₁.tracee.isWritable a) :
    Extends d (added ++ [a]) (d₁.patch a trapByte (d₁.breakpoints.put ⟨a, some v⟩)) := by
  have hfree : ¬ (d.breakpoints.contains a ∨ a ∈ added) := fun hd => hc ((h.contains_iff a).2 hd)
  refine ⟨h.settled.patch_put h.alive hp hw, h.alive, fun _ => hp, ?_, fun x hx => ?_,
    fun x hx => BreakpointTable.contains_put.2 ?_, fun x hx => ?_⟩
  · rw [List.nodup_append]
    refine ⟨h.nodup, by simp, fun x hx y hy hxy => ?_⟩
    rw [List.mem_singleton] at hy
    exact hfree (Or.inr (hy ▸ hxy ▸ hx))
  · obtain hx | hx := List.mem_append.1 hx
    · exact h.free x hx
    · rw [List.mem_singleton.1 hx]
      exact fun hd => hfree (Or.inl hd)
  · obtain hx | hx := List.mem_append.1 hx
    · exact Or.inr (h.there x hx)
    · exact Or.inl (List.mem_singleton.1 hx).symm
  · simp only [List.mem_append, List.mem_singleton, not_or] at hx
    rw [patch_breakpoints, BreakpointTable.get?_put, if_neg (Ne.symm hx.2)]
    exact h.others x hx.1

/-- One of the added breakpoints is removed. -/
theorem Extends.patch_erase (h : Extends d (a :: added) d₁) :
    Extends d added (d₁.patch a v (d₁.breakpoints.erase a)) := by
  obtain ⟨hnew, hnodup⟩ := List.nodup_cons.1 h.nodup
  refine ⟨h.settled.patch_erase h.alive (h.there a List.mem_cons_self), h.alive, h.process, hnodup,
    fun x hx => h.free x (List.mem_cons_of_mem a hx), fun x hx => ?_, fun x hx => ?_⟩
  · refine BreakpointTable.contains_erase.2 ⟨fun hxa => hnew (hxa ▸ hx), ?_⟩
    exact h.there x (List.mem_cons_of_mem a hx)
  · rw [patch_breakpoints, BreakpointTable.get?_erase]
    split_ifs with hxa
    · have hfree := h.free a List.mem_cons_self
      rw [← hxa, BreakpointTable.get?_eq_none.2 hfree]
    · refine h.others x ?_
      rw [List.mem_cons, not_or]
      exact ⟨Ne.symm hxa, hx⟩

/-! ## Debuggees without a process -/

/-- Without a process nothing is done. -/
def Inert (d d' : Debuggee Simulated) : Prop := ¬ d.isAlive → d' = d

instance : IsPreorder (Debuggee Simulated) Inert where
  refl _ _ := rfl
  trans _ _ _ h₁ h₂ h := by
    have := h₁ h
    rw [h₂ (this ▸ h), this]

theorem ensureAlive_inert {α : Type} {next : Unit → Action (Debuggee Simulated) α} :
    (ensureAlive >>= next).Keeps Inert := by
  refine .of_gives fun d r d' h hdead => ?_
  rw [gives_ensureAlive_bind, if_neg hdead] at h
  exact h.2

theorem inert_reading : KeptByReading Inert where
  readRegister _ := ensureAlive_inert
  readMemory _ := ensureAlive_inert
  memoryMap := ensureAlive_inert

end Debuggee

/-! ## Adding and removing -/

namespace Session

open Debuggee Simulated

variable {s s' : Session Simulated} {d : Debuggee Simulated} {added stops : List Addr}

/-- What adding temporary breakpoints gives: those of `stops` that were not
    there, up to the first that cannot be set. -/
structure Added (d : Debuggee Simulated) (s s' : Session Simulated)
    (added stops added' : List Addr) (ready : Except Failure Unit) : Prop where
  session : s' = { s with debuggee := s'.debuggee }
  rest : s'.debuggee.rest = s.debuggee.rest
  kept (a : Addr) : a ∈ added → a ∈ added'
  stop (a : Addr) : a ∈ added' → a ∈ added ∨ a ∈ stops
  /-- All are there, if nothing failed. -/
  all : ready = .ok () → ∀ a ∈ stops, d.breakpoints.contains a ∨ a ∈ added'
  /-- Nothing fails where all can be set. -/
  succeeds : s.debuggee.tracee.isAlive → (∀ a ∈ stops, s.debuggee.tracee.isWritable a) →
    ready = .ok ()

theorem gives_addTemporary {r : Except Failure (List Addr × Except Failure Unit)}
    (h : (addTemporary added stops).Gives s r s') (he : Extends d added s.debuggee) :
    ∃ added' ready, r = .ok (added', ready) ∧ Extends d added' s'.debuggee ∧
      Added d s s' added stops added' ready := by
  induction stops generalizing added s with
  | nil =>
    obtain ⟨rfl, rfl⟩ := gives_pure.1 h
    exact ⟨added, .ok (), rfl, he, rfl, rfl, fun _ => id, fun _ => Or.inl, by simp, fun _ _ => rfl⟩
  | cons a stops ih =>
    rw [addTemporary, gives_inspect_bind] at h
    split_ifs at h with hc
    · obtain ⟨added', ready, rfl, he', hsess, hrest, hkept, hstop, hall, hsucc⟩ := ih h he
      refine ⟨added', ready, rfl, he', hsess, hrest, hkept, fun x hx => ?_, fun hr x hx => ?_,
        fun hp hw => ?_⟩
      · exact (hstop x hx).imp_right (List.mem_cons_of_mem a)
      · obtain rfl | hx := List.mem_cons.1 hx
        · exact ((he.contains_iff x).1 hc).imp_right (hkept x)
        · exact hall hr x hx
      · exact hsucc hp fun x hx => hw x (List.mem_cons_of_mem a hx)
    obtain ⟨r₁, s₁, hattempt, hthen⟩ := gives_attempt_bind.1 h
    obtain ⟨d₁, hset, rfl⟩ := gives_onDebuggee.1 hattempt
    obtain ⟨hc', -⟩ | ⟨hfail, ⟨e, rfl⟩, rfl⟩ | ⟨v, -, rfl, hp, hw, rfl⟩ :=
      gives_setBreakpoint he.settled he.alive hset
    · exact absurd hc' hc
    · obtain ⟨rfl, rfl⟩ := gives_pure.1 hthen
      refine ⟨added, .error e, rfl, he, rfl, rfl, fun _ => id, fun _ => Or.inl, by simp,
        fun hp hw => ?_⟩
      exact absurd ⟨hp, hw a List.mem_cons_self⟩ hfail
    · obtain ⟨added', ready, rfl, he', hsess, hrest, hkept, hstop, hall, hsucc⟩ :=
        ih hthen (he.patch_put hc hp hw)
      refine ⟨added', ready, rfl, he', hsess, hrest,
        fun x hx => hkept x (List.mem_append_left _ hx), fun x hx => ?_, fun hr x hx => ?_,
        fun _ hw' => hsucc hp fun x hx => ?_⟩
      · obtain hx | hx := hstop x hx
        · obtain hx | hx := List.mem_append.1 hx
          · exact Or.inl hx
          · exact Or.inr (List.mem_singleton.1 hx ▸ List.mem_cons_self)
        · exact Or.inr (List.mem_cons_of_mem a hx)
      · obtain rfl | hx := List.mem_cons.1 hx
        · exact Or.inr (hkept x (by simp))
        · exact hall hr x hx
      · rw [patch_tracee, isWritable_patch hw]
        exact hw' x (List.mem_cons_of_mem a hx)

/-- Breakpoints that were added can be removed again. -/
theorem removeEach_gives (he : Extends d added s.debuggee) :
    ∃ d', (removeEach added).Gives s (.ok ()) { s with debuggee := d' } ∧ Extends d [] d' ∧
      d'.rest = s.debuggee.rest := by
  induction added generalizing s with
  | nil => exact ⟨s.debuggee, gives_pure.2 ⟨rfl, rfl⟩, he, rfl⟩
  | cons a added ih =>
    have hen := he.settled.enabled a (he.there a List.mem_cons_self)
    obtain ⟨v, hv⟩ := BreakpointTable.exists_saved? hen
    have hremove := removeBreakpoint_gives he.settled he.alive hv
    have he' : Extends d added
        ({ s with debuggee := s.debuggee.patch a v _ } : Session Simulated).debuggee :=
      he.patch_erase
    obtain ⟨d', hgives, hd'⟩ := ih he'
    exact ⟨d', (gives_onDebuggee.2 ⟨_, hremove, rfl⟩).bind hgives, hd'⟩

theorem runTo_inert (stops : List Addr) :
    (runTo stops).Keeps (InvImage Inert Session.debuggee) :=
  runTo_keeps inert_reading (fun _ => ensureAlive_inert) (fun _ => ensureAlive_inert)
    ensureAlive_inert stops

/-- A process that is still there loses the breakpoints that were added. -/
theorem removeTemporary_gives (he : s.debuggee.isAlive → Extends d added s.debuggee) :
    ∃ d', (removeTemporary added).Gives s (.ok ()) { s with debuggee := d' } ∧
      if s.debuggee.isAlive then Extends d [] d' ∧ d'.rest = s.debuggee.rest
      else d' = s.debuggee := by
  by_cases ha : s.debuggee.isAlive
  · obtain ⟨d', hgives, hd'⟩ := removeEach_gives (he ha)
    refine ⟨d', gives_inspect_bind.2 ?_, by rwa [if_pos ha]⟩
    rw [if_pos ha]
    exact hgives.bind (gives_log.2 ⟨rfl, rfl⟩)
  · refine ⟨s.debuggee, gives_inspect_bind.2 ?_, by rw [if_neg ha]⟩
    rw [if_neg ha]
    exact gives_pure.2 ⟨rfl, rfl⟩

/-- **Temporary breakpoints are temporary.**  However adding them, running and
    removing them end, the breakpoints are those that were there before. -/
theorem runTo_steady (stops : List Addr) :
    (runTo stops).Keeps (InvImage Steady Session.debuggee) := by
  refine .of_gives fun s r s' h hd => ?_
  by_cases ha : s.debuggee.isAlive
  swap
  · have : s'.debuggee = s.debuggee := (runTo_inert stops).gives h ha
    exact this ▸ refl_of Steady s.debuggee hd
  -- up to the removal it is the same whether something fails or not
  have hremoved {added ready result removed s₁ s₂ s₃}
      (hadd : (addTemporary [] stops).Gives s (.ok (added, ready)) s₁)
      (hrun : (runReady ready).Gives s₁ (.ok result) s₂)
      (hremove : (removeTemporary added).Gives s₂ removed s₃) :
      Steady s.debuggee s₃.debuggee := by
    obtain ⟨_, _, hr, he, -⟩ := gives_addTemporary hadd (.refl hd ha)
    cases hr
    have hsteady : Steady s₁.debuggee s₂.debuggee :=
      (runReady_keeps continueExecution_steady ready).gives hrun
    obtain ⟨d₃, hgives, hd₃⟩ := removeTemporary_gives (he.steady hsteady)
    obtain ⟨-, rfl⟩ := hremove.unique hgives
    intro _
    split_ifs at hd₃ with ha₂
    · obtain ⟨hd₃, -⟩ := hd₃
      exact ⟨hd₃.settled, fun _ => ⟨ha, hd₃.process, hd₃.breakpoints_eq⟩⟩
    · subst hd₃
      exact ⟨(hsteady he.settled).1, fun h => absurd h ha₂⟩
  cases gives_runTo h with
  | failed hadd hrun hremove _ => exact hremoved hadd hrun hremove hd
  | arrived hadd hrun hremove hpresent =>
    have hready : (runReady (.ok ())).Gives _ (.ok (.ok _)) _ := gives_attempt.2 ⟨_, hrun, rfl⟩
    exact trans_of Steady (hremoved hadd hready hremove)
      ((presentLocation_keeps steady_moving.toKeptByReading).gives hpresent) hd

end Session

end SourceDebugger
