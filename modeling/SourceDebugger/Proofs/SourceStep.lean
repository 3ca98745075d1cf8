/-
  Where a step to another source line ends.  It executes the instructions of the
  program itself, one after the other, whatever breakpoints there are on them, up
  to the first whose location is known and not the one it began at.

  * `Debuggee.Standing.stepInstruction_passes` and
    `Debuggee.Standing.stepInstruction_stops`: one instruction, under a breakpoint
    or not;
  * `Session.StepEnds s k`: the program comes to another line, to a fault or to
    its end for the first time after `k` instructions;
  * `Session.StepEnds.lt_stepLimit`: a program that goes round in circles does
    not, so that no step is cut off;
  * `Session.stepIn_refines`: that is where the step ends, with any breakpoints
    and with none.
-/
import Mathlib.Data.Finset.Card
import SourceDebugger.Proofs.Progress

namespace SourceDebugger

open SourceDebugger.Action

/-! ## One instruction -/

namespace Debuggee

open Simulated

variable {d : Debuggee Simulated} {j writes : Nat} {pending : Option Report} {state : ProcessState}

/-- To go along the trace does not touch the breakpoints. -/
theorem Standing.along (h : d.Standing) (hs : state ≠ .exited) :
    (d.along j writes pending state).Standing where
  settled := ⟨h.settled.ready.mono rfl rfl fun _ => id, h.settled.enabled,
    fun hgone => absurd (isAlive_iff.2 hs) hgone⟩
  intact := h.intact
  alive := isAlive_iff.2 hs
  process := h.process

theorem Standing.bare {d₀ : Debuggee Simulated} (h : d.Standing) (hb : Bare d d₀) :
    d₀.Standing where
  settled := settled_of_empty hb.breakpoints
  intact a ha := absurd (BreakpointTable.contains_of_isEnabledAt ha) (hb.free a)
  alive := by rw [eq_of_rest hb.rest]; exact h.alive
  process := by rw [eq_of_rest hb.rest]; exact h.process

theorem along_along (i writes' : Nat) (pending' : Option Report) (state' : ProcessState) :
    (d.along j writes pending state).along i writes' pending' state' =
      d.along (j + i) writes' pending' state' := by
  have htrace : (d.along j writes pending state).tracee.trace i = d.tracee.trace (j + i) :=
    along_trace i
  rw [along, htrace]
  show ({ d with
    tracee := { (d.tracee.setPc (d.tracee.trace j)).setPc (d.tracee.trace (j + i)) with
      writes := writes', pending := pending' }
    state := state' } : Debuggee Simulated) = _
  rw [setPc_setPc]
  rfl

/-- A debuggee that has gone along its trace has arrived there. -/
theorem arrived_along {event : StopEvent} (he : ¬ event.isTerminal) :
    Arrived d (d.along j writes none .stopped) (d.tracee.trace j) event :=
  ⟨fun h => absurd h he, fun _ => rfl, fun _ => along_pc, fun _ => rfl, fun _ => rfl,
    fun _ _ hreg => (RegisterFile.get_set _ _ _ _).trans (if_neg (Ne.symm hreg))⟩

section
variable (h : d.Standing) (ho : d.ownByte d.tracee.pc ≠ some trapByte)
include h ho

/-- A step executes the instruction of the program itself, if another one
    follows it. -/
theorem Standing.stepInstruction_passes (hplain : d.tracee.faults[d.tracee.pc]? = none)
    (hnext : (d.tracee.successors[d.tracee.pc]?).isSome) :
    ∃ writes, stepInstruction.Gives d (.ok .stepped) (d.along 1 writes none .stopped) := by
  by_cases hc : d.BreaksAt d.tracee.pc
  · have hover := h.stepOverBreakpoint_passes ho hc hplain hnext
    exact ⟨d.tracee.writes + 2, hover.bind (gives_pure.2 ⟨rfl, rfl⟩)⟩
  · have hbyte : d.memory.get? d.tracee.pc ≠ some trapByte :=
      fun hm => hc ((trap_iff h.settled h.intact ho).1 hm)
    have hstep := singleStep_passes h.alive h.process ⟨hbyte, hplain, hnext⟩
    exact ⟨d.tracee.writes, (h.stepOverBreakpoint_absent hc).bind hstep⟩

/-- Otherwise the debuggee stays there. -/
theorem Standing.stepInstruction_stops
    (hfault : ∀ code, d.tracee.faults[d.tracee.pc]? ≠ some (.sigtrap, code))
    (hend : (d.tracee.faults[d.tracee.pc]?).isSome ∨ d.tracee.successors[d.tracee.pc]? = none) :
    ∃ d', stepInstruction.Gives d (.ok (d.tracee.eventAt d.tracee.pc)) d' ∧
      Arrived d d' d.tracee.pc (d.tracee.eventAt d.tracee.pc) := by
  by_cases hc : d.BreaksAt d.tracee.pc
  · obtain ⟨d', hover, harr⟩ := h.stepOverBreakpoint_stops ho hc hfault hend
    exact ⟨d', hover.bind (gives_pure.2 ⟨rfl, rfl⟩), harr⟩
  · have hbyte : d.memory.get? d.tracee.pc ≠ some trapByte :=
      fun hm => hc ((trap_iff h.settled h.intact ho).1 hm)
    obtain ⟨d', hstep, harr⟩ := singleStep_ends h.alive h.process hfault hbyte hend
    exact ⟨d', (h.stepOverBreakpoint_absent hc).bind hstep, harr⟩

end

end Debuggee

/-! ## Traces that repeat -/

namespace Simulated

variable {p : Simulated} {i j : Nat}

/-- What comes twice comes again and again. -/
theorem trace_add_eq (h : p.trace i = p.trace j) (n : Nat) : p.trace (n + i) = p.trace (n + j) := by
  rw [trace, trace, Function.iterate_add_apply, Function.iterate_add_apply]
  exact congrArg _ h

/-- A program that comes to an end, or to one of `stops` that it did not begin at,
    is not twice at the same address before. -/
theorem EndsAt.trace_injOn {stops : Addr → Prop} {k : Nat} (hk : p.EndsAt stops k)
    (hfirst : ∀ i < k, ¬ p.EndsAt stops i) (hstart : ¬ stops p.pc) :
    Set.InjOn p.trace (Finset.range (k + 1)) := by
  have hne {i j : Nat} (hij : i < j) (hjk : j ≤ k) : p.trace i ≠ p.trace j := by
    intro h
    -- what ends the program after `k` instructions would have done so a round earlier
    obtain ⟨n, rfl⟩ := Nat.exists_eq_add_of_le' hjk
    have hround := trace_add_eq h n
    refine hfirst (n + i) (by omega) ?_
    unfold EndsAt at hk ⊢
    rw [hround]
    refine hk.imp_left fun ⟨_, hstop⟩ => ⟨?_, hstop⟩
    by_contra hzero
    obtain rfl : n = 0 := by omega
    obtain rfl : i = 0 := by omega
    rw [← hround] at hstop
    exact hstart hstop
  intro i hi j hj h
  have hi' := Finset.mem_range_succ_iff.1 (Finset.mem_coe.1 hi)
  have hj' := Finset.mem_range_succ_iff.1 (Finset.mem_coe.1 hj)
  rcases Nat.lt_trichotomy i j with hij | rfl | hji
  · exact absurd h (hne hij hj')
  · rfl
  · exact absurd h.symm (hne hji hi')

end Simulated

/-! ## Steps to another line -/

/-- The source location of the code at a runtime address. -/
def Resolver.locationAt (r : Resolver) (a : Addr) : Option SourceLocation :=
  (r.lineEntry? (r.toStatic a)).map (·.location)

namespace Session

open Debuggee Simulated

variable {s s₀ : Session Simulated} {k : Nat}

/-- The code at `a` has a location, and the debuggee is not there: its own location
    is not known, or on another line, or in a file whose path has other components. -/
def ElsewhereAt (s : Session Simulated) (a : Addr) : Prop :=
  ∃ here ∈ s.resolver.locationAt a, ∀ start ∈ s.resolver.locationAt s.debuggee.tracee.pc,
    ¬ start.same here

instance (s : Session Simulated) : DecidablePred s.ElsewhereAt := fun a =>
  inferInstanceAs (Decidable (∃ here ∈ s.resolver.locationAt a, _))

/-- The program runs `k` instructions until it is on another line or ends, none of
    which is a trap of its own. -/
structure StepEnds (s : Session Simulated) (k : Nat) : Prop where
  ends : s.debuggee.tracee.EndsAt s.ElsewhereAt k
  first (i : Nat) : i < k → ¬ s.debuggee.tracee.EndsAt s.ElsewhereAt i
  own (i : Nat) : i ≤ k → s.debuggee.ownByte (s.debuggee.tracee.trace i) ≠ some trapByte

instance (s : Session Simulated) (k : Nat) : Decidable (s.StepEnds k) :=
  decidable_of_iff (s.debuggee.tracee.EndsAt s.ElsewhereAt k ∧
      (∀ i < k, ¬ s.debuggee.tracee.EndsAt s.ElsewhereAt i) ∧
      ∀ i ≤ k, s.debuggee.ownByte (s.debuggee.tracee.trace i) ≠ some trapByte)
    ⟨fun ⟨h₁, h₂, h₃⟩ => ⟨h₁, h₂, h₃⟩, fun ⟨h₁, h₂, h₃⟩ => ⟨h₁, h₂, h₃⟩⟩

/-- What a step of `k` instructions ends with: another line goes before a fault
    there. -/
def stepEvent (s : Session Simulated) (k : Nat) : StopEvent :=
  if 1 ≤ k ∧ s.ElsewhereAt (s.debuggee.tracee.trace k) then .stepped
  else s.debuggee.tracee.eventAt (s.debuggee.tracee.trace k)

theorem elsewhereAt_iff {a : Addr} : s.ElsewhereAt a ↔
    ∃ here, s.resolver.lineEntry? (s.resolver.toStatic a) = some here ∧
      ¬ (s.resolver.locationAt s.debuggee.tracee.pc).any (·.same here.location) := by
  rw [ElsewhereAt, Resolver.locationAt]
  cases s.resolver.lineEntry? (s.resolver.toStatic a) <;> simp [Option.any_eq_false]

theorem not_elsewhereAt_pc : ¬ s.ElsewhereAt s.debuggee.tracee.pc :=
  fun ⟨here, hhere, hne⟩ => hne here hhere here.same_self

/-- There are more addresses than a step has instructions. -/
theorem StepEnds.lt_stepLimit (h : s.StepEnds k) : k < stepLimit := by
  have hinj := h.ends.trace_injOn h.first not_elsewhereAt_pc
  have hmaps : Set.MapsTo (fun i => (s.debuggee.tracee.trace i).toNat) (Finset.range (k + 1))
      (Finset.range stepLimit) :=
    fun i _ => Finset.mem_coe.2 (Finset.mem_range.2 (UInt64.toNat_lt_size _))
  have hcard := Finset.card_le_card_of_injOn _ hmaps fun i hi j hj hij =>
    hinj hi hj (UInt64.toNat_inj.1 hij)
  rwa [Finset.card_range, Finset.card_range] at hcard

/-! ## One instruction of a step -/

section
variable {start : Option SourceLocation} {limit : Nat} {d₀ d : Debuggee Simulated}

/-- A stop ends the step. -/
theorem stepFrom_stops {event : StopEvent}
    (hstep : Debuggee.stepInstruction.Gives d₀ (.ok event) d) (he : event ≠ .stepped)
    (hp : d.isAlive → d.tracee.isAlive) :
    (stepFrom start (limit + 1)).Gives { s with debuggee := d₀ } (.ok event)
      { s with debuggee := d } := by
  have hshow := presentLocation_gives (s := { s with debuggee := d }) hp
  refine Gives.bind (gives_onDebuggee.2 ⟨d, hstep, rfl⟩) ?_
  rw [if_pos he]
  exact hshow.bind (gives_pure.2 ⟨rfl, rfl⟩)

variable (hstep : Debuggee.stepInstruction.Gives d₀ (.ok .stepped) d) (hd : d.Standing)
include hstep hd

/-- So does an instruction of another line. -/
theorem stepFrom_arrives {here : LineEntry}
    (hentry : s.resolver.lineEntry? (s.resolver.toStatic d.tracee.pc) = some here)
    (hne : ¬ start.any (·.same here.location)) :
    (stepFrom start (limit + 1)).Gives { s with debuggee := d₀ } (.ok .stepped)
      { s with debuggee := d } := by
  have hline := currentLine_gives (s := { s with debuggee := d }) hd.alive hd.process
  have hshow := presentLocation_gives (s := { s with debuggee := d }) fun _ => hd.process
  refine Gives.bind (gives_onDebuggee.2 ⟨d, hstep, rfl⟩) ?_
  rw [if_neg (by simp)]
  refine hline.bind ?_
  rw [hentry]
  dsimp only
  rw [if_neg hne]
  exact hshow.bind (gives_pure.2 ⟨rfl, rfl⟩)

/-- On the same line, or where no line is known, it goes on. -/
theorem stepFrom_goes {r : Except Failure StopEvent} {s' : Session Simulated}
    (hsame : ∀ here, s.resolver.lineEntry? (s.resolver.toStatic d.tracee.pc) = some here →
      start.any (·.same here.location))
    (hrest : (stepFrom start limit).Gives { s with debuggee := d } r s') :
    (stepFrom start (limit + 1)).Gives { s with debuggee := d₀ } r s' := by
  have hline := currentLine_gives (s := { s with debuggee := d }) hd.alive hd.process
  refine Gives.bind (gives_onDebuggee.2 ⟨d, hstep, rfl⟩) ?_
  rw [if_neg (by simp)]
  refine hline.bind ?_
  rcases hentry : s.resolver.lineEntry? (s.resolver.toStatic d.tracee.pc) with _ | here
  · exact hrest
  · dsimp only
    rw [if_pos (hsame here hentry)]
    exact hrest

end

/-! ## The whole step -/

section
variable (h : s.StepEnds k) (hs : s.debuggee.Standing)
  (hfault : ∀ (a : Addr) (code : Int), s.debuggee.tracee.faults[a]? ≠ some (.sigtrap, code))
include h hs hfault

/-- At the last instruction, if that does not execute, stepping stops. -/
theorem StepEnds.stepFrom_last (hhere : ¬ (1 ≤ k ∧ s.ElsewhereAt (s.debuggee.tracee.trace k)))
    (limit writes : Nat) (pending : Option Report) {state : ProcessState}
    (hstate : state ≠ .exited) :
    ∃ d', (stepFrom (s.resolver.locationAt s.debuggee.tracee.pc) (limit + 1)).Gives
        { s with debuggee := s.debuggee.along k writes pending state }
        (.ok (s.stepEvent k)) { s with debuggee := d' } ∧
      Arrived s.debuggee d' (s.debuggee.tracee.trace k) (s.stepEvent k) := by
  have hstand : (s.debuggee.along k writes pending state).Standing := hs.along hstate
  have hpc : (s.debuggee.along k writes pending state).tracee.pc = s.debuggee.tracee.trace k :=
    along_pc
  have ho := h.own k le_rfl
  have hlast := h.ends.resolve_left hhere
  rw [← hpc] at ho hlast
  obtain ⟨d', hstep, harr⟩ := hstand.stepInstruction_stops ho (hfault _) hlast
  have hevent : s.stepEvent k = (s.debuggee.along k writes pending state).tracee.eventAt
      (s.debuggee.along k writes pending state).tracee.pc := by
    rw [stepEvent, if_neg hhere, hpc]
    rfl
  have hp (ha : d'.isAlive) : d'.tracee.isAlive :=
    ((stepInstruction_steady.gives hstep hstand.settled).2 ha).2.1 hs.process
  rw [← hevent, hpc] at harr
  rw [hevent]
  exact ⟨d', stepFrom_stops hstep (eventAt_ne_stepped _ _) hp, hevent ▸ harr.of_along⟩

/-- From any instruction on that is not on another line, stepping goes to where the
    step ends. -/
theorem StepEnds.stepFrom_gives {limit j : Nat} (hj : j ≤ k) (hlimit : k - j < limit)
    (hhere : ¬ (1 ≤ j ∧ s.ElsewhereAt (s.debuggee.tracee.trace j))) (writes : Nat)
    (pending : Option Report) {state : ProcessState} (hstate : state ≠ .exited) :
    ∃ d', (stepFrom (s.resolver.locationAt s.debuggee.tracee.pc) limit).Gives
        { s with debuggee := s.debuggee.along j writes pending state }
        (.ok (s.stepEvent k)) { s with debuggee := d' } ∧
      Arrived s.debuggee d' (s.debuggee.tracee.trace k) (s.stepEvent k) := by
  induction limit generalizing j writes pending state with
  | zero => omega
  | succ limit ih =>
    rcases hj.eq_or_lt with rfl | hlt
    · exact h.stepFrom_last hs hfault hhere limit writes pending hstate
    -- the instruction passes, and what follows depends on the line of the next one
    have hstand : (s.debuggee.along j writes pending state).Standing := hs.along hstate
    have hpc : (s.debuggee.along j writes pending state).tracee.pc = s.debuggee.tracee.trace j :=
      along_pc
    have ho := h.own j hj
    have hgoes := h.first j hlt
    simp only [EndsAt, not_or, Option.not_isSome_iff_eq_none, ← ne_eq,
      ← Option.isSome_iff_ne_none] at hgoes
    rw [← hpc] at ho hgoes
    obtain ⟨writes', hstep⟩ := hstand.stepInstruction_passes ho hgoes.2.1 hgoes.2.2
    rw [along_along] at hstep
    have hstopped : ProcessState.stopped ≠ .exited := by simp
    have hstand' : (s.debuggee.along (j + 1) writes' none .stopped).Standing := hs.along hstopped
    have hpc' : (s.debuggee.along (j + 1) writes' none .stopped).tracee.pc =
        s.debuggee.tracee.trace (j + 1) := along_pc
    by_cases hthere : s.ElsewhereAt (s.debuggee.tracee.trace (j + 1))
    · obtain rfl : j + 1 = k := by
        by_contra hne
        exact h.first (j + 1) (by omega) (Or.inl ⟨by omega, hthere⟩)
      obtain ⟨here, hentry, hne⟩ := elsewhereAt_iff.1 hthere
      rw [show s.stepEvent (j + 1) = .stepped from if_pos ⟨by omega, hthere⟩]
      exact ⟨_, stepFrom_arrives hstep hstand' (hpc' ▸ hentry) hne,
        arrived_along (by simp [StopEvent.isTerminal])⟩
    · obtain ⟨d', hrest, harr⟩ := ih (j := j + 1) (by omega) (by omega) (fun h' => hthere h'.2)
        writes' none hstopped
      refine ⟨d', stepFrom_goes hstep hstand' (fun here hentry => ?_) hrest, harr⟩
      rw [hpc'] at hentry
      by_contra hne
      exact hthere (elsewhereAt_iff.2 ⟨here, hentry, hne⟩)

/-- A step arrives at the first instruction of another line. -/
theorem StepEnds.stepIn_arrives :
    ∃ d', (execute .stepIn).Gives s (.ok (.stopped (s.stepEvent k))) { s with debuggee := d' } ∧
      Arrived s.debuggee d' (s.debuggee.tracee.trace k) (s.stepEvent k) := by
  obtain ⟨d', hgives, harr⟩ := h.stepFrom_gives hs hfault (j := 0) (Nat.zero_le k) h.lt_stepLimit
    (by simp) s.debuggee.tracee.writes s.debuggee.tracee.pending (isAlive_iff.1 hs.alive)
  rw [along_zero] at hgives
  refine ⟨d', ?_, harr⟩
  rw [execute, gives_log_bind]
  refine Gives.bind ?_ (gives_pure.2 ⟨rfl, rfl⟩)
  exact (currentLine_gives hs.alive hs.process).bind (gives_log_bind.2 hgives)

end

/-! ## With other breakpoints -/

/-- The same program stands at the same place, with any breakpoints in it. -/
structure SameProgram (s s₀ : Session Simulated) : Prop where
  resolver : s₀.resolver = s.resolver
  rest : s₀.debuggee.rest = s.debuggee.rest
  own : s₀.debuggee.ownByte = s.debuggee.ownByte

namespace SameProgram

theorem of_bare (hr : s₀.resolver = s.resolver) (h : Bare s.debuggee s₀.debuggee) :
    SameProgram s s₀ :=
  ⟨hr, h.rest, h.ownByte⟩

variable (h : SameProgram s s₀)
include h

theorem trace : s₀.debuggee.tracee.trace = s.debuggee.tracee.trace := by
  rw [eq_of_rest h.rest]
  rfl

theorem elsewhereAt : s₀.ElsewhereAt = s.ElsewhereAt := by
  have hpc : s₀.debuggee.tracee.pc = s.debuggee.tracee.pc := congrFun h.trace 0
  funext a
  rw [ElsewhereAt, ElsewhereAt, h.resolver, hpc]

theorem stepEvent : s₀.stepEvent k = s.stepEvent k := by
  have hevent (a : Addr) : s₀.debuggee.tracee.eventAt a = s.debuggee.tracee.eventAt a := by
    rw [eq_of_rest h.rest]
    rfl
  rw [Session.stepEvent, Session.stepEvent, h.trace, hevent]
  exact if_congr (by rw [h.elsewhereAt]) rfl rfl

theorem stepEnds (hk : s.StepEnds k) : s₀.StepEnds k := by
  have hends (i : Nat) : s₀.debuggee.tracee.EndsAt s.ElsewhereAt i ↔
      s.debuggee.tracee.EndsAt s.ElsewhereAt i := by
    rw [eq_of_rest h.rest]
    rfl
  refine ⟨?_, fun i hi => ?_, fun i hi => ?_⟩
  · rw [h.elsewhereAt, hends]
    exact hk.ends
  · rw [h.elsewhereAt, hends]
    exact hk.first i hi
  · rw [h.own, h.trace]
    exact hk.own i hi

theorem faults (a : Addr) : s₀.debuggee.tracee.faults[a]? = s.debuggee.tracee.faults[a]? := by
  rw [eq_of_rest h.rest]

end SameProgram

/-- **Steps to another line refine the program.**  Wherever a session stands, `step`
    executes the instructions of the program itself up to the first whose location
    is known and not the one it began at, or to a fault or the end before, and
    changes nothing else.  It does the same whatever breakpoints are set. -/
theorem stepIn_refines (standing : s.debuggee.Standing)
    (faults : ∀ (a : Addr) (code : Int), s.debuggee.tracee.faults[a]? ≠ some (.sigtrap, code))
    (ends : s.StepEnds k) {s₀ : Session Simulated} (same : SameProgram s s₀)
    (standing₀ : s₀.debuggee.Standing) :
    (∃ d', (execute .stepIn).Gives s (.ok (.stopped (s.stepEvent k))) { s with debuggee := d' } ∧
      Arrived s.debuggee d' (s.debuggee.tracee.trace k) (s.stepEvent k)) ∧
    ∃ d', (execute .stepIn).Gives s₀ (.ok (.stopped (s.stepEvent k)))
        { s₀ with debuggee := d' } ∧
      Arrived s₀.debuggee d' (s.debuggee.tracee.trace k) (s.stepEvent k) := by
  have hfault₀ (a : Addr) (code : Int) :
      s₀.debuggee.tracee.faults[a]? ≠ some (.sigtrap, code) := by
    rw [same.faults]
    exact faults a code
  have harr := (same.stepEnds ends).stepIn_arrives standing₀ hfault₀
  rw [same.stepEvent, same.trace] at harr
  exact ⟨ends.stepIn_arrives standing faults, harr⟩

/-- As long as its traps are there, a session that is alive stands. -/
theorem Reachable.standing (hs : Reachable s) (alive : s.debuggee.isAlive)
    (intact : s.debuggee.Intact) : s.debuggee.Standing :=
  ⟨hs.settled, intact, alive, hs.process alive⟩

/-- From the first breakpoint, and without it, the program steps to the next line. -/
theorem stepIn_paused :
    (∃ d', (execute .stepIn).Gives paused (.ok (.stopped .stepped))
        { paused with debuggee := d' } ∧
      Arrived paused.debuggee d' (Fixture.runtime 0x1135) .stepped) ∧
    ∃ d', (execute .stepIn).Gives unpaused (.ok (.stopped .stepped))
        { unpaused with debuggee := d' } ∧
      Arrived unpaused.debuggee d' (Fixture.runtime 0x1135) .stepped := by
  have hends : paused.StepEnds 3 := by decide +kernel
  have hevent : paused.stepEvent 3 = .stepped := by decide +kernel
  have htrace : paused.debuggee.tracee.trace 3 = Fixture.runtime 0x1135 := by decide +kernel
  obtain ⟨halive, hconv, hintact⟩ := paused_ready
  have hstand := reachable_paused.standing halive hintact
  have hbare : Bare paused.debuggee unpaused.debuggee := bare_bared ownByte_paused.symm
  have hresolver : unpaused.resolver = paused.resolver := by rw [unpaused]
  have hstep := stepIn_refines hstand hconv.faults hends (.of_bare hresolver hbare)
    (hstand.bare hbare)
  rwa [hevent, htrace] at hstep

end Session

end SourceDebugger
