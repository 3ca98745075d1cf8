/-
  Where `stepOver` ends when it ends as a step: at a row of the function that
  begins elsewhere than the current one, or where the function returns to.  It may
  be another row of the same line.

  * `Session.nextStops_cases`: where it wants to stop;
  * `Session.NextRow`, `Session.stepOver_reaches_row`: where it does;
  * `Session.stepOver_stays_on_line`: a line with two rows.
-/
import SourceDebugger.Proofs.Hits
import SourceDebugger.Proofs.SourceStep

namespace SourceDebugger

open SourceDebugger.Action

namespace Session

open Debuggee Simulated

variable {s s' : Session Simulated}

/-! ## Where it wants to stop -/

theorem readSized_cases {a w : Addr} {d : Debuggee Simulated}
    (h : (Debuggee.readSized a 8).Gives s.debuggee (.ok w) d) :
    d = s.debuggee ∧ s.debuggee.memory.getWord? a = some w := by
  obtain ⟨mask, whole, hmask, hread, rfl⟩ := gives_readSized.1 h
  obtain rfl : 0xffffffffffffffff = mask := Option.some.inj hmask
  obtain ⟨rfl, -, -, hword⟩ := readMemory_cases hread
  rw [show whole &&& 0xffffffffffffffff = whole from UInt64.and_neg_one]
  exact ⟨rfl, hword⟩

section
variable (ha : s.debuggee.isAlive) (hp : s.debuggee.tracee.isAlive)
include ha hp

theorem returnAddress_cases {caller : Addr} (h : returnAddress.Gives s (.ok caller) s') :
    s' = s ∧ s.returnsTo? = some caller := by
  have hframe : (onDebuggee (Debuggee.readDwarfRegister Register.framePointerNumber)).Gives s
      (.ok (s.debuggee.tracee.registers.get .rbp)) s :=
    gives_onDebuggee.2 ⟨s.debuggee, readRegister_gives ha hp .rbp, rfl⟩
  obtain ⟨frame, s₁, hframe', hslot⟩ := gives_bind_ok.1 h
  obtain ⟨⟨⟩, rfl⟩ := hframe'.unique hframe
  split at hslot
  · cases (gives_fail.1 hslot).1
  · rename_i slot hadd
    obtain ⟨a, s₂, hread, hend⟩ := gives_bind_ok.1 hslot
    obtain ⟨d, hread', rfl⟩ := gives_onDebuggee.1 hread
    obtain ⟨rfl, hword⟩ := readSized_cases hread'
    rw [gives_log_bind, gives_pure] at hend
    obtain ⟨⟨⟩, rfl⟩ := hend
    exact ⟨rfl, by rw [returnsTo?, hadd]; exact hword⟩

/-- The candidates of `stepOver` are those that are set. -/
theorem nextStops_cases {stops : List Addr} (h : nextStops.Gives s (.ok stops) s') :
    s' = s ∧ Candidates s .stepOver stops := by
  have hpc : (onDebuggee Debuggee.pc).Gives s (.ok s.debuggee.tracee.pc) s :=
    gives_onDebuggee.2 ⟨_, pc_gives ha hp, rfl⟩
  obtain ⟨here, s₁, hhere, h⟩ := gives_bind_ok.1 h
  obtain ⟨⟨⟩, rfl⟩ := hhere.unique hpc
  rw [gives_inspect_bind] at h
  obtain ⟨f, s₂, hf, h⟩ := gives_bind_ok.1 h
  obtain ⟨hf, rfl⟩ := Resolver.gives_functionContaining.1 (gives_ask.1 hf)
  obtain ⟨current, s₃, hentry, h⟩ := gives_bind_ok.1 h
  obtain ⟨hentry, rfl⟩ := Resolver.gives_lineEntry.1 (gives_ask.1 hentry)
  obtain ⟨rows, s₄, hrows, h⟩ := gives_bind_ok.1 h
  obtain ⟨hrows, rfl⟩ := Resolver.gives_functionLines.1 (gives_ask.1 hrows)
  rw [gives_inspect_bind] at h
  obtain ⟨caller, s₅, hcaller, h⟩ := gives_bind_ok.1 h
  obtain ⟨rfl, hreturns⟩ := returnAddress_cases ha hp hcaller
  rw [gives_log_bind, gives_pure] at h
  obtain ⟨⟨⟩, rfl⟩ := h
  exact ⟨rfl, .next hf hentry hrows hreturns⟩

end

/-! ## Where it ends -/

/-- A step over that begins in `s` may end at `a`. -/
inductive NextRow (s : Session Simulated) (a : Addr) : Prop where
  /-- The function returns there. -/
  | caller (returns : s.returnsTo? = some a)
  /-- A row of the function begins there, and the current one elsewhere. -/
  | row {f : Function} {current row : LineEntry} {rows : List LineEntry}
      (function :
        s.resolver.functionContaining? (s.resolver.toStatic s.debuggee.tracee.pc) = some f)
      (entry : s.resolver.lineEntry? (s.resolver.toStatic s.debuggee.tracee.pc) = some current)
      (lines : s.resolver.functionLines? f = some rows) (mem : row ∈ rows)
      (ne : row.address ≠ current.address) (address : a = s.resolver.toRuntime row.address)

/-- What `stepOver` stops at is a row of the function or where that returns to. -/
theorem Candidates.nextRow {stops : List Addr} {a : Addr} (h : Candidates s .stepOver stops)
    (ha : a ∈ stops) : NextRow s a := by
  cases h with
  | next function entry lines returns =>
    obtain hrow | hcaller := List.mem_append.1 ha
    · obtain ⟨row, hother, rfl⟩ := List.mem_map.1 hrow
      obtain ⟨hmem, hne⟩ := List.mem_filter.1 hother
      exact .row function entry lines hmem (bne_iff_ne.1 hne) rfl
    · obtain rfl := List.mem_singleton.1 hcaller
      exact .caller returns

/-- **A step over ends at another row of the function, or where that returns to.**
    The row begins at another address than the current one; of which line it is does
    not count. -/
theorem stepOver_reaches_row (hs : Reachable s) (alive : s.debuggee.isAlive)
    (honest : s.debuggee.tracee.Honest)
    (stepped : (execute .stepOver).Gives s (.ok (.stopped .stepped)) s') :
    NextRow s s'.debuggee.tracee.pc := by
  have hp := hs.process alive
  rw [execute, gives_log_bind, gives_map] at stepped
  obtain ⟨_ | event, hover, heq⟩ := stepped
  · cases heq
  obtain rfl : event = .stepped := by
    cases heq
    rfl
  rw [stepOver_eq] at hover
  obtain ⟨stops, s₁, hstops, hrun⟩ := gives_bind_ok.1 hover
  obtain ⟨rfl, hcandidates⟩ := nextStops_cases alive hp hstops
  exact hcandidates.nextRow (runTo_stepped hs.settled alive hp honest hrun)

/-- The first row of `main` is left for the next one. -/
theorem stepOver_leaves_row : NextRow paused (Fixture.runtime 0x1135) := by
  obtain ⟨halive, hconv, -⟩ := paused_ready
  have hhonest := hconv.honest (by decide +kernel)
  have hgives : (execute .stepOver).Gives paused (.ok (.stopped .stepped))
      (execute .stepOver paused).state := ⟨by decide +kernel, rfl⟩
  have hpc : (execute .stepOver paused).state.debuggee.tracee.pc = Fixture.runtime 0x1135 := by
    decide +kernel
  rw [← hpc]
  exact stepOver_reaches_row reachable_paused halive hhonest hgives

/-- The program of the fixture, in the first of the two rows of line 13. -/
def returning : Session Simulated :=
  fresh (mainOnly.setPc (Fixture.runtime 0x114b)) ⟨Fixture.info, Fixture.loadAddress⟩ {}

/-- From the first row of line 13 it steps to the second one. -/
theorem stepOver_stays_on_line :
    Reachable returning ∧ returning.debuggee.isAlive ∧
      (execute .stepOver).Gives returning (.ok (.stopped .stepped))
        (execute .stepOver returning).state ∧
      returning.returnsTo? ≠ some (execute .stepOver returning).state.debuggee.tracee.pc ∧
      returning.resolver.locationAt (execute .stepOver returning).state.debuggee.tracee.pc =
        some ⟨Fixture.sourceFile, 13⟩ ∧
      returning.resolver.locationAt returning.debuggee.tracee.pc =
        some ⟨Fixture.sourceFile, 13⟩ := by
  refine ⟨⟨mainOnly.setPc (Fixture.runtime 0x114b), _, _, [], rfl, rfl⟩, ?_, ⟨?_, rfl⟩, ?_⟩
  all_goals decide +kernel

end Session

end SourceDebugger
