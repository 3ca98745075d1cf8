/-
  Temporary breakpoints of a tracee that may refuse any request.  Removing them
  stops at the first whose byte cannot be restored, so that those behind it
  stay as well.

  * `Debuggee.Grown d added d'`: besides the places of `d`, there are breakpoints
    at `added` in `d'`;
  * `Session.gives_addTemporary_grown` and `Session.gives_removeEach`: adding
    leads there, and removing leads back as far as it gets;
  * `Session.temporary_left`: what `stepOver` and `stepOut` leave behind;
  * `Session.stepOver_strands_others`: one refusal can leave several traps.
-/
import SourceDebugger.Proofs.Coherence
import SourceDebugger.Proofs.Table
import SourceDebugger.Simulation.Scripted

namespace SourceDebugger

open SourceDebugger.Action

/-! ## Places that are added -/

namespace Debuggee

variable {τ : Type} {d d₁ d₂ : Debuggee τ} {added left : List Addr} {a : Addr}

/-- Besides the places of `d`, `d'` has breakpoints at `added`. -/
structure Grown (d : Debuggee τ) (added : List Addr) (d' : Debuggee τ) : Prop where
  alive : d'.isAlive
  nodup : added.Nodup
  free (a : Addr) : a ∈ added → ¬ d.breakpoints.contains a
  places (a : Addr) : d'.breakpoints.contains a ↔ d.breakpoints.contains a ∨ a ∈ added

theorem Grown.refl (ha : d.isAlive) : Grown d [] d := ⟨ha, .nil, by simp, by simp⟩

/-- Running keeps the places that were added. -/
theorem Grown.samePlaces (h : Grown d added d₁) (hp : SamePlaces d₁ d₂) (ha : d₂.isAlive) :
    Grown d added d₂ :=
  ⟨ha, h.nodup, h.free, fun x => ((hp ha).2 x).trans (h.places x)⟩

theorem Grown.add (h : Grown d added d₁) (hc : ¬ d₁.breakpoints.contains a)
    (hs : d₂.state = d₁.state)
    (hb : ∀ x, d₂.breakpoints.contains x ↔ a = x ∨ d₁.breakpoints.contains x) :
    Grown d (added ++ [a]) d₂ := by
  rw [h.places, not_or] at hc
  refine ⟨isAlive_of_state hs h.alive, ?_, fun x hx => ?_, fun x => ?_⟩
  · rw [List.nodup_append]
    refine ⟨h.nodup, by simp, fun x hx y hy hxy => hc.2 ?_⟩
    rwa [← List.mem_singleton.1 hy, ← hxy]
  · obtain hx | hx := List.mem_append.1 hx
    · exact h.free x hx
    · exact List.mem_singleton.1 hx ▸ hc.1
  · rw [hb, h.places, List.mem_append, List.mem_singleton, eq_comm (a := a)]
    tauto

theorem Grown.take (h : Grown d (a :: added) d₁) (hs : d₂.state = d₁.state)
    (hb : ∀ x, d₂.breakpoints.contains x ↔ a ≠ x ∧ d₁.breakpoints.contains x) :
    Grown d added d₂ := by
  obtain ⟨hnew, hnodup⟩ := List.nodup_cons.1 h.nodup
  refine ⟨isAlive_of_state hs h.alive, hnodup,
    fun x hx => h.free x (List.mem_cons_of_mem a hx), fun x => ?_⟩
  rw [hb, h.places, List.mem_cons]
  constructor
  · rintro ⟨hne, hx | rfl | hx⟩
    · exact Or.inl hx
    · exact absurd rfl hne
    · exact Or.inr hx
  · rintro (hx | hx)
    · refine ⟨?_, Or.inl hx⟩
      rintro rfl
      exact h.free a List.mem_cons_self hx
    · refine ⟨?_, Or.inr (Or.inr hx)⟩
      rintro rfl
      exact hnew hx

end Debuggee

/-! ## Adding and removing -/

namespace Session

open Debuggee

variable {τ : Type} [Tracee τ] {s s' : Session τ} {d : Debuggee τ} {added stops : List Addr}

theorem gives_addTemporary_grown {r : Except Failure (List Addr × Except Failure Unit)}
    (h : (addTemporary added stops).Gives s r s') (hg : Grown d added s.debuggee) :
    ∃ added' ready, r = .ok (added', ready) ∧ Grown d added' s'.debuggee := by
  induction stops generalizing added s with
  | nil =>
    obtain ⟨rfl, rfl⟩ := gives_pure.1 h
    exact ⟨added, .ok (), rfl, hg⟩
  | cons a stops ih =>
    rw [addTemporary, gives_inspect_bind] at h
    split_ifs at h with hc
    · exact ih h hg
    obtain ⟨r₁, s₁, hattempt, hthen⟩ := gives_attempt_bind.1 h
    obtain ⟨d₁, hset, rfl⟩ := gives_onDebuggee.1 hattempt
    have hs := (setBreakpoint_state a).gives hset
    obtain ⟨⟨e, rfl⟩, hb⟩ | ⟨rfl, hb⟩ := setBreakpoint_adds hc hset
    · obtain ⟨rfl, rfl⟩ := gives_pure.1 hthen
      have halive : d₁.isAlive := isAlive_of_state hs hg.alive
      exact ⟨added, .error e, rfl, hg.samePlaces (samePlaces_of_eq hs hb) halive⟩
    · exact ih hthen (hg.add hc hs hb)

/-- The byte at `a` could not be restored, and that is what `t` comes from. -/
def Refused (a : Addr) (t : τ) : Prop :=
  ∃ v t₀ e, (Breakpoint.disable ⟨a, some v⟩).Gives t₀ (.error e) t

/-- Breakpoints are removed up to the first whose byte cannot be restored. -/
theorem gives_removeEach {r : Except Failure Unit} (h : (removeEach added).Gives s r s')
    (hg : Grown d added s.debuggee) :
    ∃ left, Grown d left s'.debuggee ∧
      (left = [] ∧ r = .ok () ∨
        ∃ a others e, left = a :: others ∧ r = .error e ∧ Refused a s'.debuggee.tracee) := by
  induction added generalizing s with
  | nil =>
    obtain ⟨rfl, rfl⟩ := gives_pure.1 h
    exact ⟨[], hg, Or.inl ⟨rfl, rfl⟩⟩
  | cons a added ih =>
    obtain ⟨e, hremove, rfl⟩ | ⟨_, s₁, hremove, hrest⟩ := gives_bind.1 h
    all_goals
      obtain ⟨d₁, hd₁, rfl⟩ := gives_onDebuggee.1 hremove
      have hs := (removeBreakpoint_state a).gives hd₁
      obtain ⟨hr, hb⟩ | ⟨e', v, hr, hb, hdis⟩ := removeBreakpoint_takes hg.alive hd₁
    · cases hr
    · have halive : d₁.isAlive := isAlive_of_state hs hg.alive
      cases hr
      exact ⟨a :: added, hg.samePlaces (samePlaces_of_eq hs hb) halive,
        Or.inr ⟨a, added, e, rfl, rfl, v, _, e, hdis⟩⟩
    · exact ih hrest (hg.take hs hb)
    · cases hr

/-! ## What is left -/

/-- What a command that runs with temporary breakpoints and ends with `r` leaves
    of them: `left`, and no others. -/
structure Leaves {α : Type} (d : Debuggee τ) (r : Except Failure α) (left : List Addr)
    (d' : Debuggee τ) : Prop extends Grown d left d' where
  /-- Nothing is left by a command that succeeds. -/
  complete (a : α) : r = .ok a → left = []
  /-- The first one that is left could not be restored. -/
  refused (a : Addr) (others : List Addr) : left = a :: others → Refused a d'.tracee

/-- What the command does besides does not matter. -/
theorem Leaves.map {α β : Type} {d₁ d' : Debuggee τ} {left : List Addr} {r : Except Failure α}
    (h : Leaves d₁ r left d') (hb : d₁.breakpoints = d.breakpoints) (f : α → β) :
    Leaves d (r.map f) left d' := by
  refine ⟨⟨h.alive, h.nodup, hb ▸ h.free, hb ▸ h.places⟩, fun b hr => ?_, h.refused⟩
  obtain ⟨a, ha, -⟩ : ∃ a, r = .ok a ∧ f a = b := by
    rcases r with e | a
    · cases hr
    · exact ⟨a, rfl, Except.ok.inj hr⟩
  exact h.complete a ha

theorem removeTemporary_dead (ha : ¬ s.debuggee.isAlive) {r : Except Failure Unit}
    (h : (removeTemporary added).Gives s r s') : s' = s := by
  rw [removeTemporary, gives_inspect_bind, if_neg ha] at h
  exact (gives_pure.1 h).2

theorem gives_removeTemporary (hg : Grown d added s.debuggee) {r : Except Failure Unit}
    (h : (removeTemporary added).Gives s r s') : ∃ left, Leaves d r left s'.debuggee := by
  rw [removeTemporary, gives_inspect_bind, if_pos hg.alive] at h
  have hr : (removeEach added).Gives s r s' := by
    obtain ⟨e, he, rfl⟩ | ⟨_, s₁, hs₁, hlog⟩ := gives_bind.1 h
    · exact he
    · obtain ⟨rfl, rfl⟩ := gives_log.1 hlog
      exact hs₁
  obtain ⟨left, hleft, ⟨rfl, rfl⟩ | ⟨a, others, e, rfl, rfl, hrefused⟩⟩ := gives_removeEach hr hg
  · exact ⟨[], hleft, by simp, by simp⟩
  · refine ⟨a :: others, hleft, by simp, fun x xs hx => ?_⟩
    obtain ⟨rfl, rfl⟩ := List.cons.inj hx
    exact hrefused

/-- Reading leaves process and table alone. -/
theorem keptByReading_table :
    KeptByReading (Unchanged fun d : Debuggee τ => (d.state, d.breakpoints)) := by
  have hrequest {α : Type} (act : Action τ α) :
      (request act).Keeps (Unchanged fun d : Debuggee τ => (d.state, d.breakpoints)) := by
    refine .of_gives fun d r d' h => ?_
    obtain ⟨t, -, rfl⟩ := gives_request.1 h
    rfl
  exact ⟨fun _ => requestAlive_keeps (hrequest _), fun _ => requestAlive_keeps (hrequest _),
    requestAlive_keeps (hrequest _)⟩

/-- **Running with temporary breakpoints** leaves none, or some of which the
    first could not be restored. -/
theorem runTo_leaves (ha : s.debuggee.isAlive) {r : Except Failure StopEvent}
    (h : (runTo stops).Gives s r s') (ha' : s'.debuggee.isAlive) :
    ∃ left, Leaves s.debuggee r left s'.debuggee := by
  have hremoved {added ready result removed s₁ s₂ s₃}
      (hadd : (addTemporary [] stops).Gives s (.ok (added, ready)) s₁)
      (hrun : (runReady ready).Gives s₁ (.ok result) s₂)
      (hremove : (removeTemporary added).Gives s₂ removed s₃) (ha₃ : s₃.debuggee.isAlive) :
      ∃ left, Leaves s.debuggee removed left s₃.debuggee := by
    obtain ⟨_, _, hr, hg⟩ := gives_addTemporary_grown hadd (.refl ha)
    cases hr
    have hplaces : SamePlaces s₁.debuggee s₂.debuggee :=
      (runReady_keeps continueExecution_places ready).gives hrun
    by_cases ha₂ : s₂.debuggee.isAlive
    · exact gives_removeTemporary (hg.samePlaces hplaces ha₂) hremove
    · exact absurd (removeTemporary_dead ha₂ hremove ▸ ha₃) ha₂
  cases gives_runTo h with
  | failed hadd hrun hremove _ =>
    obtain ⟨left, hleft⟩ := hremoved hadd hrun hremove ha'
    exact ⟨left, hleft.toGrown, by simp, hleft.refused⟩
  | arrived hadd hrun hremove hpresent =>
    -- nothing is left, and showing the place does not change that
    obtain ⟨hs, hb⟩ := Prod.mk.inj ((presentLocation_keeps keptByReading_table).gives hpresent)
    have hready : (runReady (.ok ())).Gives _ (.ok (.ok _)) _ := gives_attempt.2 ⟨_, hrun, rfl⟩
    have ha₃ := isAlive_of_state hs.symm ha'
    obtain ⟨left, hleft⟩ := hremoved hadd hready hremove ha₃
    obtain rfl := hleft.complete () rfl
    exact ⟨[], hleft.toGrown.samePlaces (samePlaces_of_eq hs hb) ha', by simp, by simp⟩

/-- Only for a process that is there it is known where to stop. -/
theorem nextStops_alive (h : nextStops.Gives s (.ok stops) s') : s.debuggee.isAlive := by
  obtain ⟨here, s₁, hpc, -⟩ := gives_bind_ok.1 h
  obtain ⟨d, hd, -⟩ := gives_onDebuggee.1 hpc
  exact alive_of_requestAlive hd

theorem callerStops_alive (h : callerStops.Gives s (.ok stops) s') : s.debuggee.isAlive := by
  obtain ⟨a, s₁, ha, -⟩ := gives_bind_ok.1 h
  obtain ⟨frame, s₂, hframe, -⟩ := gives_bind_ok.1 ha
  obtain ⟨d, hd, -⟩ := gives_onDebuggee.1 hframe
  exact alive_of_requestAlive (show (readRegister .rbp).Gives _ _ _ from hd)

/-- The commands that run with temporary breakpoints. -/
def RunsTo (c : Command) : Prop := c = .stepOver ∨ c = .stepOut

/-- Finding out where to stop leaves nothing, and nothing else is set before. -/
theorem moveTo_leaves {stopsOf : Action (Session τ) (List Addr)}
    (hkeeps : stopsOf.Keeps
      (InvImage (Unchanged fun d : Debuggee τ => (d.state, d.breakpoints)) Session.debuggee))
    (halive : ∀ {s₁ stops}, stopsOf.Gives s (.ok stops) s₁ → s.debuggee.isAlive)
    {r : Except Failure StopEvent} (h : (stopsOf >>= runTo).Gives s r s')
    (alive : s'.debuggee.isAlive) : ∃ left, Leaves s.debuggee r left s'.debuggee := by
  obtain ⟨e, hstops, rfl⟩ | ⟨stops, s₁, hstops, hrun⟩ := gives_bind.1 h
  all_goals obtain ⟨hs, hb⟩ := Prod.mk.inj (hkeeps.gives hstops)
  · have ha := isAlive_of_state hs.symm alive
    exact ⟨[], (Grown.refl ha).samePlaces (samePlaces_of_eq hs hb) alive, by simp, by simp⟩
  · have ha := isAlive_of_state hs (halive hstops)
    obtain ⟨left, hleft⟩ := runTo_leaves ha hrun alive
    have hmap := hleft.map hb id
    rw [Except.map_id] at hmap
    exact ⟨left, hmap⟩

/-- **What is left of temporary breakpoints.**  A tracee may refuse whatever it
    is asked.  If the process is there after `stepOver` or `stepOut`, of the
    breakpoints that were set for it none is left, or the command fails and some
    are left, of which the first could not be restored.  All other bytes of the
    program are restored, and the user's breakpoints are all there. -/
theorem temporary_left {c : Command} {r : Except Failure Feedback} (moves : RunsTo c)
    (h : (execute c).Gives s r s') (alive : s'.debuggee.isAlive) :
    ∃ left, Leaves s.debuggee r left s'.debuggee ∧
      ∀ [ByteMemory τ] (a : Addr), ¬ s.debuggee.breakpoints.contains a → a ∉ left →
        s'.debuggee.memory.get? a = s.debuggee.memory.get? a := by
  obtain ⟨left, hleft⟩ : ∃ left, Leaves s.debuggee r left s'.debuggee := by
    obtain rfl | rfl := moves
    all_goals
      rw [execute, gives_log_bind, gives_map] at h
      obtain ⟨moved, hmove, rfl⟩ := h
    · rw [stepOver_eq] at hmove
      obtain ⟨left, hleft⟩ :=
        moveTo_leaves (nextStops_keeps keptByReading_table) nextStops_alive hmove alive
      exact ⟨left, hleft.map rfl _⟩
    · rw [stepOut_eq] at hmove
      obtain ⟨left, hleft⟩ :=
        moveTo_leaves (callerStops_keeps keptByReading_table) callerStops_alive hmove alive
      exact ⟨left, hleft.map rfl _⟩
  refine ⟨left, hleft, fun a hfree hgone => ?_⟩
  -- a byte without a breakpoint is the program's own, and that has not changed
  have hne : ∀ a value, Interaction.command c ≠ .command (.writeMemory a value) := by
    obtain rfl | rfl := moves <;> simp
  obtain ⟨-, hown, -⟩ := (perform_undisturbed hne).gives h alive
  have hfree' : ¬ s'.debuggee.breakpoints.contains a := fun hc =>
    ((hleft.places a).1 hc).elim hfree hgone
  rw [← ownByte_of_not_enabled fun hen => hfree (BreakpointTable.contains_of_isEnabledAt hen),
    ← ownByte_of_not_enabled fun hen => hfree' (BreakpointTable.contains_of_isEnabledAt hen), hown]

/-- A function of four instructions, of which the second cannot be written twice. -/
def refusing : Session Scripted :=
  fresh
    (Scripted.flow
      { memory := (({} : Memory).setBytes 0x1000 (List.replicate 32 0x90)).setWord 0x1018 0x1008
        registers := (RegisterFile.zero.set .rip 0x1000).set .rbp 0x1010
        rules := [{ on := .writeWord, addr := some 0x1002, skip := 1, times := some 1 }] }
      [0x1000, 0x1001, 0x1002, 0x1003, 0x1004])
    ⟨{ units := [{
          name := "main.c"
          ranges := [(0x1000, 0x1010)]
          functions := [⟨some "main", 0x1000, 0x1010⟩]
          lineTable := [⟨0x1000, "main.c", 1, true, false⟩, ⟨0x1002, "main.c", 2, true, false⟩,
            ⟨0x1004, "main.c", 3, true, false⟩, ⟨0x1010, "main.c", 3, true, true⟩] }]
       symbols := []
       positionIndependent := false }, 0⟩ {}

/-- The breakpoint behind the one that could not be restored is left as well. -/
theorem temporary_left_refusing : ∃ left,
    Leaves refusing.debuggee (execute .stepOver refusing).result left
      (execute .stepOver refusing).state.debuggee ∧ 0x1004 ∈ left := by
  obtain ⟨left, hleft, -⟩ :=
    temporary_left (Or.inl rfl) (gives_self (execute .stepOver) refusing) (by decide +kernel)
  refine ⟨left, hleft, ((hleft.places 0x1004).1 ?_).resolve_left ?_⟩
  · decide +kernel
  · decide +kernel

/-- Only the byte at one address is ever refused, and yet the traps at others
    are left. -/
theorem stepOver_strands_others :
    let d := (execute .stepOver refusing).state.debuggee
    (∀ rule ∈ refusing.debuggee.tracee.rules, rule.addr = some 0x1002) ∧
      refusing.debuggee.breakpoints.addresses = [] ∧ d.isAlive ∧
      d.breakpoints.addresses = [0x1002, 0x1004, 0x1008] ∧
      d.tracee.memory.get? 0x1004 = some trapByte ∧
      d.tracee.memory.get? 0x1008 = some trapByte := by
  decide +kernel

end Session

end SourceDebugger
