/-
  Continuing runs the program as if there were no traps in it, up to the first
  breakpoint.

  * `Debuggee.FirstStop d stops k`: by itself, the program of `d` comes to one
    of `stops`, to a fault or to its end for the first time after `k`
    instructions;
  * `Debuggee.continueExecution_arrives`: that is where a debuggee stops whose
    breakpoints are `stops`, whether it starts on one of them or not.
-/
import SourceDebugger.Proofs.Trace

namespace SourceDebugger

open SourceDebugger.Action

/-! ## The first stop -/

namespace Simulated

/-- After `i` instructions the program is at one of `stops` that it came to, at
    a fault, or at its end. -/
def EndsAt (p : Simulated) (stops : Addr → Prop) (i : Nat) : Prop :=
  (1 ≤ i ∧ stops (p.trace i)) ∨ (p.faults[p.trace i]?).isSome ∨ p.successors[p.trace i]? = none

instance (p : Simulated) (stops : Addr → Prop) [DecidablePred stops] (i : Nat) :
    Decidable (p.EndsAt stops i) :=
  inferInstanceAs (Decidable (_ ∨ _))

/-- The event that ends a run of `k` instructions. -/
def endEvent (p : Simulated) (stops : Addr → Prop) [DecidablePred stops] (k : Nat) : StopEvent :=
  if 1 ≤ k ∧ stops (p.trace k) then .hitBreakpoint (p.trace k) else p.eventAt (p.trace k)

theorem eventAt_ne_stepped (p : Simulated) (a : Addr) : p.eventAt a ≠ .stepped := by
  unfold eventAt
  split
  · split_ifs <;> simp
  · simp

end Simulated

namespace Debuggee

open Simulated

variable {d d' : Debuggee Simulated} {a : Addr} {k : Nat}

/-- There is a breakpoint at `a`. -/
def BreaksAt (d : Debuggee Simulated) (a : Addr) : Prop := d.breakpoints.contains a

instance (d : Debuggee Simulated) : DecidablePred d.BreaksAt := fun a =>
  inferInstanceAs (Decidable (d.breakpoints.contains a = true))

/-- The program runs `k` instructions until it ends, none of which is a trap of
    its own, and not too many for a run. -/
structure FirstStop (d : Debuggee Simulated) (stops : Addr → Prop) (k : Nat) : Prop where
  ends : d.tracee.EndsAt stops k
  first (i : Nat) : i < k → ¬ d.tracee.EndsAt stops i
  own (i : Nat) : i ≤ k → d.ownByte (d.tracee.trace i) ≠ some trapByte
  limit : k ≤ runLimit
  /-- Stepping over a breakpoint at the start does not count. -/
  limit_off : ¬ stops d.tracee.pc → k < runLimit

instance (d : Debuggee Simulated) (stops : Addr → Prop) [DecidablePred stops] (k : Nat) :
    Decidable (d.FirstStop stops k) :=
  decidable_of_iff (d.tracee.EndsAt stops k ∧ (∀ i < k, ¬ d.tracee.EndsAt stops i) ∧
      (∀ i ≤ k, d.ownByte (d.tracee.trace i) ≠ some trapByte) ∧ k ≤ runLimit ∧
      (¬ stops d.tracee.pc → k < runLimit))
    ⟨fun ⟨h₁, h₂, h₃, h₄, h₅⟩ => ⟨h₁, h₂, h₃, h₄, h₅⟩,
      fun ⟨h₁, h₂, h₃, h₄, h₅⟩ => ⟨h₁, h₂, h₃, h₄, h₅⟩⟩

/-- Where the program has no trap itself, traps are breakpoints. -/
theorem trap_iff (hd : d.Settled) (hi : d.Intact) (ho : d.ownByte a ≠ some trapByte) :
    d.memory.get? a = some trapByte ↔ d.BreaksAt a := by
  constructor
  · intro hm
    by_contra hc
    have hen : ¬ d.breakpoints.isEnabledAt a := fun h =>
      hc (BreakpointTable.contains_of_isEnabledAt h)
    exact ho ((ownByte_of_not_enabled hen).trans hm)
  · intro hc
    exact hi a (hd.enabled a hc)

/-- The process is there, and so are the traps of all breakpoints. -/
structure Standing (d : Debuggee Simulated) : Prop where
  settled : d.Settled
  intact : d.Intact
  alive : d.isAlive
  process : d.tracee.isAlive

/-- The debuggee at the `j`-th instruction of its trace. -/
def along (d : Debuggee Simulated) (j writes : Nat) (pending : Option Report)
    (state : ProcessState) : Debuggee Simulated :=
  { d with tracee := { d.tracee.setPc (d.tracee.trace j) with writes, pending }, state }

section
variable {j writes : Nat} {pending : Option Report} {state : ProcessState}

theorem along_trace (i : Nat) :
    (d.along j writes pending state).tracee.trace i = d.tracee.trace (j + i) :=
  trace_setPc (p := d.tracee) j i

theorem along_pc : (d.along j writes pending state).tracee.pc = d.tracee.trace j := setPc_pc

/-- One who arrives from somewhere on the trace arrives from its beginning. -/
theorem Arrived.of_along {event : StopEvent}
    (h : Arrived (d.along j writes pending state) d' a event) : Arrived d d' a event := by
  refine ⟨h.gone, h.state, h.pc, h.breakpoints, h.memory, fun he reg hreg => ?_⟩
  rw [h.registers he reg hreg]
  exact (RegisterFile.get_set _ _ _ _).trans (if_neg (Ne.symm hreg))

end

theorem along_zero : d.along 0 d.tracee.writes d.tracee.pending d.state = d := by
  show { d with tracee := d.tracee.setPc d.tracee.pc } = d
  rw [setPc_self]

/-- The debuggee with the breakpoint at its program counter disabled. -/
def lifted (d : Debuggee Simulated) (v : UInt8) : Debuggee Simulated :=
  d.patch d.tracee.pc v (d.breakpoints.put ⟨d.tracee.pc, none⟩)

/-- Under the breakpoint is the program's own byte. -/
theorem lifted_byte {v : UInt8} (ho : d.ownByte d.tracee.pc ≠ some trapByte)
    (hv : d.breakpoints.saved? d.tracee.pc = some v) :
    (d.lifted v).memory.get? d.tracee.pc ≠ some trapByte := by
  rw [ownByte, hv] at ho
  rw [lifted, patch_memory, Memory.get?_set_self]
  exact ho

/-- The trap that was there can be put back. -/
theorem lifted_set {v : UInt8} (hm : d.memory.get? d.tracee.pc = some trapByte) :
    (d.lifted v).memory.set d.tracee.pc trapByte = d.memory := by
  rw [lifted, patch_memory, Memory.set_set, Memory.set_eq_self hm]

/-! ## Stepping over a breakpoint -/

section
variable (h : d.Standing)
include h

/-- Where no breakpoint is, there is nothing to step over. -/
theorem Standing.stepOverBreakpoint_absent (hc : ¬ d.BreaksAt d.tracee.pc) :
    stepOverBreakpoint.Gives d (.ok none) d :=
  gives_stepOverBreakpoint.2 (.absent (pc_gives h.alive h.process)
    fun hen => hc (BreakpointTable.contains_of_isEnabledAt hen))

variable (ho : d.ownByte d.tracee.pc ≠ some trapByte) (hc : d.BreaksAt d.tracee.pc)
include ho hc

/-- If the program faults or ends at a breakpoint, it does so in the step that is
    made over the breakpoint. -/
theorem Standing.stepOverBreakpoint_stops
    (hfault : ∀ code, d.tracee.faults[d.tracee.pc]? ≠ some (.sigtrap, code))
    (hend : (d.tracee.faults[d.tracee.pc]?).isSome ∨ d.tracee.successors[d.tracee.pc]? = none) :
    ∃ d', stepOverBreakpoint.Gives d (.ok (some (d.tracee.eventAt d.tracee.pc))) d' ∧
      Arrived d d' d.tracee.pc (d.tracee.eventAt d.tracee.pc) := by
  have hen := h.settled.enabled _ hc
  obtain ⟨v, hv⟩ := BreakpointTable.exists_saved? hen
  have hpc := pc_gives h.alive h.process
  have hdis := disableAt_gives h.settled.ready hv
  obtain ⟨d₂, hstep, harr⟩ :=
    singleStep_ends (d := d.lifted v) h.alive h.process hfault (lifted_byte ho hv) hend
  rw [show (d.lifted v).tracee.pc = d.tracee.pc from rfl,
    show (d.lifted v).tracee.eventAt d.tracee.pc = d.tracee.eventAt d.tracee.pc from rfl]
    at hstep harr
  by_cases hterm : (d.tracee.eventAt d.tracee.pc).isTerminal
  · obtain ⟨hs, hb⟩ := harr.gone hterm
    have hdead : ¬ d₂.isAlive := fun ha => isAlive_iff.1 ha hs
    exact ⟨d₂, gives_stepOverBreakpoint.2 (.gone hpc hen hdis hstep hdead),
      arrived_exited hterm hs hb⟩
  · have ha₂ : d₂.isAlive := by
      rw [isAlive_iff, harr.state hterm]
      simp
    obtain ⟨henable, -⟩ := enableAt_again h.settled hv hstep ha₂
    refine ⟨d₂.patch d.tracee.pc trapByte d.breakpoints,
      gives_stepOverBreakpoint.2 (.survived hpc hen hdis hstep ha₂ henable),
      fun he => absurd he hterm, harr.state, harr.pc, fun _ => rfl, fun _ => ?_, harr.registers⟩
    rw [patch_memory, harr.memory hterm]
    exact lifted_set (h.intact _ hen)

/-- Otherwise the instruction under the breakpoint is executed in this step. -/
theorem Standing.stepOverBreakpoint_passes (hplain : d.tracee.faults[d.tracee.pc]? = none)
    (hnext : (d.tracee.successors[d.tracee.pc]?).isSome) :
    stepOverBreakpoint.Gives d (.ok (some .stepped))
      (d.along 1 (d.tracee.writes + 2) none .stopped) := by
  have hen := h.settled.enabled _ hc
  obtain ⟨v, hv⟩ := BreakpointTable.exists_saved? hen
  have hpass : (d.lifted v).tracee.Passes (d.lifted v).tracee.pc :=
    ⟨lifted_byte ho hv, hplain, hnext⟩
  have hstep := singleStep_passes (d := d.lifted v) h.alive h.process hpass
  obtain ⟨henable, -⟩ := enableAt_again h.settled hv hstep rfl
  -- the two writes cancel and leave the debuggee one instruction further
  have halong : ((d.lifted v).haltedAt (d.tracee.next d.tracee.pc)).patch d.tracee.pc trapByte
      d.breakpoints = d.along 1 (d.tracee.writes + 2) none .stopped := by
    have hm : (d.tracee.memory.set d.tracee.pc v).set d.tracee.pc trapByte = d.tracee.memory :=
      lifted_set (h.intact _ hen)
    show ({ d with
      tracee := { d.tracee.setPc (d.tracee.next d.tracee.pc) with
        memory := (d.tracee.memory.set d.tracee.pc v).set d.tracee.pc trapByte
        writes := d.tracee.writes + 2
        pending := none }
      state := .stopped } : Debuggee Simulated) = _
    rw [hm]
    rfl
  rw [← halong]
  exact gives_stepOverBreakpoint.2 (.survived (pc_gives h.alive h.process) hen
    (disableAt_gives h.settled.ready hv) hstep rfl henable)

end

/-! ## Running to the first stop -/

section
variable (hd : d.Settled) (hp : d.tracee.isAlive) (hi : d.Intact) (hconv : d.tracee.Conventional)
  (hk : d.FirstStop d.BreaksAt k)
include hd hi hk

/-- Before the first stop, instructions pass where no breakpoint is. -/
theorem FirstStop.passes {i : Nat} (h : i < k) (hc : ¬ d.BreaksAt (d.tracee.trace i)) :
    d.tracee.Passes (d.tracee.trace i) := by
  have hends := hk.first i h
  simp only [EndsAt, not_or, Option.not_isSome_iff_eq_none] at hends
  refine ⟨fun hm => hc ((trap_iff hd hi (hk.own i h.le)).1 hm), hends.2.1, ?_⟩
  exact Option.isSome_iff_ne_none.2 hends.2.2

include hp hconv

/-- From any instruction on that is not under a breakpoint, or not to be
    executed, a run goes to the first stop. -/
theorem FirstStop.resume_along {j m : Nat} (hm : j + m = k) (hlimit : m < runLimit)
    (hstart : j = 0 → ¬ d.BreaksAt d.tracee.pc) (writes : Nat) (pending : Option Report)
    (state : ProcessState) :
    ∃ d', (runAndWait Tracee.resume).Gives (d.along j writes pending state)
        (.ok (d.tracee.endEvent d.BreaksAt k)) d' ∧
      Arrived d d' (d.tracee.trace k) (d.tracee.endEvent d.BreaksAt k) := by
  have hfree : ∀ i < k, j ≤ i → ¬ d.BreaksAt (d.tracee.trace i) := by
    intro i hik hji hc
    rcases Nat.eq_zero_or_pos i with rfl | hpos
    · exact hstart (Nat.le_zero.1 hji) hc
    · exact hk.first i hik (Or.inl ⟨hpos, hc⟩)
  have hpass : ∀ i < m, (d.along j writes pending state).tracee.Passes
      ((d.along j writes pending state).tracee.trace i) := by
    intro i him
    have h := hk.passes hd hi (show j + i < k by omega) (hfree _ (by omega) (by omega))
    rw [along_trace]
    exact ⟨h.byte, h.plain, h.successor⟩
  have htrap := trap_iff hd hi (hk.own k le_rfl)
  have hstop : (d.along j writes pending state).StopsAt (d.tracee.trace k) := by
    unfold StopsAt
    split_ifs with hbyte
    · exact htrap.1 hbyte
    · exact hk.ends.resolve_left fun h => hbyte (htrap.2 h.2)
  have hevent : (d.along j writes pending state).stopEvent (d.tracee.trace k) =
      d.tracee.endEvent d.BreaksAt k := by
    -- a run does not begin on a breakpoint, so that one it stops at is reached
    refine if_congr (htrap.trans ⟨fun hc => ⟨?_, hc⟩, And.right⟩) rfl rfl
    by_contra hzero
    obtain rfl : k = 0 := by omega
    exact hstart (by omega) hc
  obtain ⟨d', hgives, harr⟩ := resume_arrives (d := d.along j writes pending state) (m := m) hp
    ⟨hconv.trapCode, hconv.faults⟩ hpass hlimit (by rw [along_trace, hm]; exact hstop)
  rw [along_trace, hm, hevent] at hgives harr
  exact ⟨d', hgives, harr.of_along⟩

/-- **Continuing runs the program to its first stop.** -/
theorem continueExecution_arrives (hd' : d.isAlive) :
    ∃ d', continueExecution.Gives d
        (.ok (d.tracee.endEvent d.BreaksAt k)) d' ∧
      Arrived d d' (d.tracee.trace k) (d.tracee.endEvent d.BreaksAt k) := by
  have hstand : d.Standing := ⟨hd, hi, hd', hp⟩
  -- the first instruction is executed by a step over its breakpoint, if it has one
  simp only [gives_continueExecution, if_pos hd']
  by_cases hc : d.BreaksAt d.tracee.pc
  · by_cases hend : d.tracee.EndsAt d.BreaksAt 0
    · obtain rfl : k = 0 := by
        by_contra hne
        exact hk.first 0 (Nat.pos_of_ne_zero hne) hend
      obtain ⟨d', hover, harr⟩ := hstand.stepOverBreakpoint_stops (hk.own 0 le_rfl) hc
        (hconv.faults _) (hend.resolve_left (by simp))
      have hevent : d.tracee.endEvent d.BreaksAt 0 =
          d.tracee.eventAt d.tracee.pc := if_neg (by simp)
      rw [hevent]
      exact ⟨d', .stopped hover (eventAt_ne_stepped _ _), harr⟩
    · have hpos : 1 ≤ k := by
        by_contra hne
        obtain rfl : k = 0 := by omega
        exact hend hk.ends
      simp only [EndsAt, not_or, Option.not_isSome_iff_eq_none] at hend
      have hover := hstand.stepOverBreakpoint_passes (hk.own 0 (Nat.zero_le k)) hc hend.2.1
        (Option.isSome_iff_ne_none.2 hend.2.2)
      obtain ⟨d', hgives, harr⟩ := hk.resume_along hd hp hi hconv (j := 1) (m := k - 1)
        (by omega) (by have := hk.limit; omega) (by simp) (d.tracee.writes + 2) none .stopped
      exact ⟨d', .resumed hover (Or.inr rfl) hgives, harr⟩
  · obtain ⟨d', hgives, harr⟩ := hk.resume_along hd hp hi hconv (j := 0) (m := k)
      (by omega) (hk.limit_off hc) (fun _ => hc) d.tracee.writes d.tracee.pending d.state
    rw [along_zero] at hgives
    exact ⟨d', .resumed (hstand.stepOverBreakpoint_absent hc) (Or.inl rfl) hgives, harr⟩

end

end Debuggee

end SourceDebugger
