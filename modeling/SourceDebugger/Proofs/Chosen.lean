/-
  The breakpoints of a session are those the user has chosen.

  * `Session.perform_steady`: interactions that neither set nor delete a
    breakpoint leave the table as it is;
  * `Session.Chosen` is kept by every interaction;
  * `Session.breakpoints_chosen`: after any of them the table holds exactly the
    addresses at which the user has breakpoints, all enabled, and is empty once
    the process is gone.
-/
import SourceDebugger.Proofs.Temporary

namespace SourceDebugger.Session

open SourceDebugger.Action Debuggee

variable {s s' : Session Simulated} {i : Interaction} {r : Except Failure Feedback}

/-! ## Interactions on other things -/

/-- The interactions with which the user chooses breakpoints. -/
def Chooses : Interaction → Prop
  | .command (.setBreakpoint _) | .command (.deleteBreakpoint _) => True
  | _ => False

theorem Exchange.choose_of_not {user : Set Addr} (hi : ¬ Chooses i) :
    Exchange.choose user (⟨s, i, r⟩ : Exchange Simulated) = user := by
  unfold Exchange.choose
  split
  · rename_i h _
    cases h
    exact absurd trivial hi
  · rename_i h _
    cases h
    exact absurd trivial hi
  · rfl

theorem perform_steady (hi : ¬ Chooses i) :
    (perform i).Keeps (InvImage Steady Session.debuggee) := by
  by_cases hw : ∃ a value, i = .command (.writeMemory a value)
  · obtain ⟨a, value, rfl⟩ := hw
    exact .bind (.log _ _ _) fun _ =>
      .bind (onDebuggee_keeps (writeMemory_steady a value)) fun _ => .pure _
  · refine perform_keeps steady_moving runTo_steady fun c hc hp => ?_
    subst hc
    cases c with
    | setBreakpoint place => exact hi trivial
    | deleteBreakpoint a => exact hi trivial
    | writeMemory a value => exact hw ⟨a, value, rfl⟩
    | _ => exact hp

/-! ## Choosing breakpoints -/

/-- The debuggee is settled and has the breakpoints that the user wants.  If
    there was a process at first, it is there as long as the debuggee is. -/
structure Chosen (live : Prop) (user : Set Addr) (s : Session Simulated) : Prop where
  settled : s.debuggee.Settled
  process : live → s.debuggee.isAlive → s.debuggee.tracee.isAlive
  table : s.debuggee.isAlive → ∀ a, s.debuggee.breakpoints.contains a ↔ a ∈ user

variable {live : Prop} {user : Set Addr}

theorem Chosen.steady (h : Chosen live user s) (hs : Steady s.debuggee s'.debuggee) :
    Chosen live user s' := by
  obtain ⟨hd, hk⟩ := hs h.settled
  refine ⟨hd, fun hl ha => ?_, fun ha => ?_⟩
  · obtain ⟨ha', hp, -⟩ := hk ha
    exact hp (h.process hl ha')
  · obtain ⟨ha', -, hb⟩ := hk ha
    rw [hb]
    exact h.table ha'

/-- A breakpoint is set where its place is found. -/
theorem gives_perform_setBreakpoint {place : Place}
    (h : (perform (.command (.setBreakpoint place))).Gives s r s') :
    ((∃ e, r = .error e) ∧ s'.debuggee = s.debuggee) ∨
      ∃ a added, (Debuggee.setBreakpoint a).Gives s.debuggee added s'.debuggee ∧
        r = added.map fun _ => .breakpointSet a := by
  have hlocate : ∀ {ra s₁}, (locate place).Gives s ra s₁ → s₁.debuggee = s.debuggee :=
    fun h => (locate_keeps (R := Unchanged id) place).gives h
  rw [perform, execute, gives_log_bind, gives_map] at h
  obtain ⟨ra, hset, rfl⟩ := h
  obtain ⟨e, hloc, rfl⟩ | ⟨a, s₁, hloc, hgives⟩ := gives_bind.1 hset
  · exact Or.inl ⟨⟨e, rfl⟩, hlocate hloc⟩
  · obtain ⟨added, hadd, rfl⟩ := gives_map.1 hgives
    obtain ⟨d, hd, rfl⟩ := gives_onDebuggee.1 hadd
    rw [hlocate hloc] at hd
    refine Or.inr ⟨a, added, hd, ?_⟩
    cases added <;> rfl

theorem gives_perform_deleteBreakpoint {a : Addr}
    (h : (perform (.command (.deleteBreakpoint a))).Gives s r s') :
    ∃ removed, (Debuggee.removeBreakpoint a).Gives s.debuggee removed s'.debuggee ∧
      r = removed.map fun _ => .ok := by
  rw [perform, execute, gives_log_bind, gives_map] at h
  obtain ⟨removed, hremove, rfl⟩ := h
  obtain ⟨d, hd, rfl⟩ := gives_onDebuggee.1 hremove
  exact ⟨removed, hd, rfl⟩

/-- Every interaction leaves the breakpoints that the user then wants. -/
theorem Chosen.perform (h : Chosen live user s) (hp : (perform i).Gives s r s') :
    Chosen live (Exchange.choose user ⟨s, i, r⟩) s' := by
  by_cases hi : Chooses i
  swap
  · rw [Exchange.choose_of_not hi]
    exact h.steady ((perform_steady hi).gives hp)
  cases i with
  | command c =>
    cases c with
    | setBreakpoint place =>
      obtain ⟨⟨e, rfl⟩, hd⟩ | ⟨a, added, hset, rfl⟩ := gives_perform_setBreakpoint hp
      · exact h.steady (hd ▸ refl_of Steady s.debuggee)
      obtain ⟨hd, hk⟩ := setBreakpoint_settled h.settled hset
      refine ⟨hd, fun hl ha => (hk ha).2.1 (h.process hl (hk ha).1), fun ha x => ?_⟩
      obtain ⟨ha', -, hc⟩ := hk ha
      rw [hc, h.table ha']
      rcases added with e | added
      · simp [Exchange.choose, Except.map]
      · simp [Exchange.choose, Except.map, or_comm]
    | deleteBreakpoint a =>
      obtain ⟨removed, hremove, rfl⟩ := gives_perform_deleteBreakpoint hp
      obtain ⟨hd, hk⟩ := removeBreakpoint_settled h.settled hremove
      refine ⟨hd, fun hl ha => (hk ha).2.1 (h.process hl (hk ha).1), fun ha x => ?_⟩
      obtain ⟨ha', -, rfl, hc⟩ := hk ha
      rw [hc, h.table ha']
      simp [Exchange.choose, Except.map]
    | _ => exact absurd hi id
  | _ => exact absurd hi id

/-- So it is after any interactions. -/
theorem chosen_after (p : Simulated) (resolver : Resolver) (config : Config)
    (is : List Interaction) :
    Chosen p.isAlive (chosen ((fresh p resolver config).exchanges is))
      ((fresh p resolver config).after is) := by
  have hstart : Chosen p.isAlive ∅ (fresh p resolver config) :=
    ⟨settled_of_empty rfl, fun hp _ => hp,
      fun _ _ => iff_of_false not_contains_empty (Set.notMem_empty _)⟩
  exact invariant_after (A := fun _ => True) (fun _ _ _ _ _ h hp _ => h.perform hp) hstart
    fun _ _ => trivial

/-- **The breakpoints are those the user has chosen.**  Whatever was done,
    while the process is there the table holds each address once at which the
    user has a breakpoint, all breakpoints are enabled, and there are no others;
    without a process there are none. -/
theorem breakpoints_chosen (p : Simulated) (resolver : Resolver) (config : Config)
    (is : List Interaction) :
    let s := (fresh p resolver config).after is
    (s.debuggee.isAlive →
      s.debuggee.breakpoints.addresses.Nodup ∧
      (∀ a, a ∈ s.debuggee.breakpoints.addresses ↔
        a ∈ chosen ((fresh p resolver config).exchanges is)) ∧
      ∀ a ∈ s.debuggee.breakpoints.addresses, s.debuggee.breakpoints.isEnabledAt a) ∧
    (s.debuggee.state = .exited → s.debuggee.breakpoints = .empty) := by
  intro s
  have h := chosen_after p resolver config is
  refine ⟨fun ha => ⟨BreakpointTable.nodup_addresses _, fun a => ?_, fun a hc => ?_⟩, fun hs => ?_⟩
  · rw [BreakpointTable.mem_addresses, h.table ha]
  · exact h.settled.enabled a (BreakpointTable.mem_addresses.1 hc)
  · exact h.settled.gone fun ha => isAlive_iff.1 ha hs

/-! ## Reachable sessions -/

/-- Sessions that come about from a process that is there. -/
def Reachable (s : Session Simulated) : Prop :=
  ∃ p resolver config is, p.isAlive ∧ s = (fresh p resolver config).after is

theorem Reachable.settled (h : Reachable s) : s.debuggee.Settled := by
  obtain ⟨p, resolver, config, is, -, rfl⟩ := h
  exact (chosen_after p resolver config is).settled

theorem Reachable.process (h : Reachable s) (ha : s.debuggee.isAlive) :
    s.debuggee.tracee.isAlive := by
  obtain ⟨p, resolver, config, is, hp, rfl⟩ := h
  exact (chosen_after p resolver config is).process hp ha

end SourceDebugger.Session
