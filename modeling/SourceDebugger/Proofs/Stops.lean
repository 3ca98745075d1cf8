/-
  Where the commands that run stop.  They refine the program that runs by
  itself: traps, those of the user as well as the temporary ones, change
  nothing but where it stops.

  * `Session.continue_refines`: `continue` stops at the first breakpoint, fault
    or end;
  * `Session.runs_to_candidate`: `stepOver` and `stepOut` stop at the first of
    their `Candidates`, if no breakpoint comes before, and leave nothing behind.
-/
import SourceDebugger.Proofs.Chosen
import SourceDebugger.Proofs.Continue
import SourceDebugger.Proofs.Queries
import SourceDebugger.Simulation.Fixture

namespace SourceDebugger

open SourceDebugger.Action

namespace Session

open Debuggee Simulated

variable {s s' : Session Simulated} {k : Nat}

/-! ## Showing the place -/

theorem currentLine_gives (ha : s.debuggee.isAlive) (hp : s.debuggee.tracee.isAlive) :
    currentLine.Gives s
      (.ok (s.resolver.lineEntry? (s.resolver.toStatic s.debuggee.tracee.pc))) s := by
  have hpc : (onDebuggee Debuggee.pc).Gives s (.ok s.debuggee.tracee.pc) s :=
    gives_onDebuggee.2 ⟨_, pc_gives ha hp, rfl⟩
  refine hpc.bind ?_
  rcases hentry : s.resolver.lineEntry? (s.resolver.toStatic s.debuggee.tracee.pc) with _ | entry
  · have hask := Resolver.lineEntry_fails (s := s) hentry
    exact gives_attempt_bind.2 ⟨_, _, gives_ask.2 hask, gives_pure.2 ⟨rfl, rfl⟩⟩
  · have hask := (Resolver.gives_lineEntry (s := s)).2 ⟨hentry, rfl⟩
    exact gives_attempt_bind.2 ⟨_, _, gives_ask.2 hask, gives_pure.2 ⟨rfl, rfl⟩⟩

/-- The place can be shown, and showing it changes nothing. -/
theorem presentLocation_gives (hp : s.debuggee.isAlive → s.debuggee.tracee.isAlive) :
    presentLocation.Gives s (.ok ()) s := by
  refine gives_inspect_bind.2 ?_
  split_ifs with ha
  · refine (currentLine_gives ha (hp ha)).bind ?_
    cases s.resolver.lineEntry? (s.resolver.toStatic s.debuggee.tracee.pc)
    · exact gives_log.2 ⟨rfl, rfl⟩
    · exact gives_inspect_bind.2 (gives_tell.2 ⟨rfl, rfl⟩)
  · exact gives_pure.2 ⟨rfl, rfl⟩

/-! ## Continuing -/

/-- **Continuing refines the program.**  Wherever a session stands, `continue`
    executes the instructions of the program itself up to the first breakpoint
    it comes to, the first fault or the end, stops exactly there, and changes
    nothing else. -/
theorem continue_refines (hs : Reachable s) (alive : s.debuggee.isAlive)
    (conventional : s.debuggee.tracee.Conventional) (intact : s.debuggee.Intact)
    (first : s.debuggee.FirstStop s.debuggee.BreaksAt k) :
    ∃ d', (execute .continue).Gives s
        (.ok (.stopped (s.debuggee.tracee.endEvent s.debuggee.BreaksAt k)))
        { s with debuggee := d' } ∧
      Arrived s.debuggee d' (s.debuggee.tracee.trace k)
        (s.debuggee.tracee.endEvent s.debuggee.BreaksAt k) := by
  have hp := hs.process alive
  obtain ⟨d', hgives, harr⟩ :=
    continueExecution_arrives hs.settled hp intact conventional first alive
  have hp' (ha : d'.isAlive) : d'.tracee.isAlive :=
    ((continueExecution_steady.gives hgives hs.settled).2 ha).2.1 hp
  have hshow := presentLocation_gives (s := { s with debuggee := d' }) hp'
  refine ⟨d', ?_, harr⟩
  rw [execute, gives_log_bind]
  refine Gives.bind ((gives_onDebuggee.2 ⟨d', hgives, rfl⟩).bind ?_) (gives_pure.2 ⟨rfl, rfl⟩)
  exact hshow.bind (gives_pure.2 ⟨rfl, rfl⟩)

/-- The program of the fixture with the memory that its function `main` needs. -/
def mainOnly : Simulated :=
  { Fixture.process with
    memory := ((({} : Memory).setBytes (Fixture.runtime 0x1129) (List.replicate 64 0x90)).setBytes
      Fixture.mainReturn (List.replicate 8 0x90)).setWord
        (Fixture.mainFrame + 8) Fixture.mainReturn }

/-- A session with it that stands at a breakpoint and has another one ahead. -/
def paused : Session Simulated :=
  (fresh mainOnly ⟨Fixture.info, Fixture.loadAddress⟩ {}).after
    [.command (.setBreakpoint (.address (Fixture.runtime 0x1129))),
      .command (.setBreakpoint (.address (Fixture.runtime 0x113c)))]

theorem reachable_paused : Reachable paused := ⟨mainOnly, _, _, _, rfl, rfl⟩

theorem paused_ready : paused.debuggee.isAlive ∧ paused.debuggee.tracee.Conventional ∧
    paused.debuggee.Intact := by
  decide +kernel

/-- From the first breakpoint the program runs to the second. -/
theorem continue_paused : ∃ d',
    (execute .continue).Gives paused (.ok (.stopped (.hitBreakpoint (Fixture.runtime 0x113c))))
      { paused with debuggee := d' } ∧
    Arrived paused.debuggee d' (Fixture.runtime 0x113c)
      (.hitBreakpoint (Fixture.runtime 0x113c)) := by
  obtain ⟨halive, hconv, hintact⟩ := paused_ready
  have hfirst : paused.debuggee.FirstStop paused.debuggee.BreaksAt 5 := by
    decide +kernel
  have hevent : paused.debuggee.tracee.endEvent paused.debuggee.BreaksAt 5 =
      .hitBreakpoint (Fixture.runtime 0x113c) := by
    decide +kernel
  have htrace : paused.debuggee.tracee.trace 5 = Fixture.runtime 0x113c := by
    decide +kernel
  rw [← hevent, ← htrace]
  exact continue_refines reachable_paused halive hconv hintact hfirst

/-! ## Candidates -/

/-- The address that the frame of the current function names as the one to
    return to. -/
def returnsTo? (s : Session Simulated) : Option Addr := do
  s.debuggee.memory.getWord?
    (← Addr.checkedAdd (s.debuggee.tracee.registers.get .rbp) returnAddressOffset)

/-- Where a command wants to stop: `stepOut` where the current function returns
    to, `stepOver` also at the rows of the function other than the current one. -/
inductive Candidates (s : Session Simulated) : Command → List Addr → Prop where
  | finish {caller : Addr} (returns : s.returnsTo? = some caller) : Candidates s .stepOut [caller]
  | next {caller : Addr} {f : Function} {current : LineEntry} {rows : List LineEntry}
      (function :
        s.resolver.functionContaining? (s.resolver.toStatic s.debuggee.tracee.pc) = some f)
      (entry : s.resolver.lineEntry? (s.resolver.toStatic s.debuggee.tracee.pc) = some current)
      (lines : s.resolver.functionLines? f = some rows) (returns : s.returnsTo? = some caller) :
      Candidates s .stepOver
        (((rows.filter fun e => e.address != current.address).map fun e =>
          s.resolver.toRuntime e.address) ++ [caller])

/-- A word can be read as eight bytes. -/
theorem readSized_gives {a : Addr} {w : Word} (ha : s.debuggee.isAlive)
    (hp : s.debuggee.tracee.isAlive) (hw : s.debuggee.memory.getWord? a = some w) :
    (Debuggee.readSized a 8).Gives s.debuggee (.ok w) s.debuggee := by
  have hread : (Debuggee.readMemory a).Gives s.debuggee (.ok w) s.debuggee :=
    readMemory_gives ha hp hw
  have hmask : w &&& 0xffffffffffffffff = w := UInt64.and_neg_one
  rw [Debuggee.readSized, show sizeMask? 8 = some 0xffffffffffffffff from rfl]
  refine hread.bind (gives_log_bind.2 (gives_pure.2 ⟨?_, rfl⟩))
  rw [hmask]

theorem returnAddress_gives (ha : s.debuggee.isAlive) (hp : s.debuggee.tracee.isAlive)
    {caller : Addr} (h : s.returnsTo? = some caller) : returnAddress.Gives s (.ok caller) s := by
  obtain ⟨slot, hslot, hword⟩ := Option.bind_eq_some_iff.1 h
  have hframe : (onDebuggee (Debuggee.readDwarfRegister Register.framePointerNumber)).Gives s
      (.ok (s.debuggee.tracee.registers.get .rbp)) s :=
    gives_onDebuggee.2 ⟨s.debuggee, readRegister_gives ha hp .rbp, rfl⟩
  have hread : (onDebuggee (Debuggee.readSized slot 8)).Gives s (.ok caller) s :=
    gives_onDebuggee.2 ⟨s.debuggee, readSized_gives ha hp hword, rfl⟩
  refine hframe.bind ?_
  rw [hslot]
  exact hread.bind (gives_log_bind.2 (gives_pure.2 ⟨rfl, rfl⟩))

/-- A command that wants to stop at candidates runs to them. -/
theorem Candidates.execute_gives {c : Command} {stops : List Addr} (hc : Candidates s c stops)
    (ha : s.debuggee.isAlive) (hp : s.debuggee.tracee.isAlive) {event : StopEvent}
    (hrun : (runTo stops).Gives s (.ok event) s') :
    (execute c).Gives s (.ok (.stopped event)) s' := by
  cases hc with
  | finish returns =>
    rw [execute, gives_log_bind]
    refine Gives.bind ((returnAddress_gives ha hp returns).bind ?_) (gives_pure.2 ⟨rfl, rfl⟩)
    exact gives_log_bind.2 hrun
  | next function entry lines returns =>
    rw [execute, gives_log_bind]
    refine Gives.bind ?_ (gives_pure.2 ⟨rfl, rfl⟩)
    refine Gives.bind (gives_onDebuggee.2 ⟨_, pc_gives ha hp, rfl⟩) (gives_inspect_bind.2 ?_)
    refine Gives.bind (gives_ask.2 (Resolver.gives_functionContaining.2 ⟨function, rfl⟩)) ?_
    refine Gives.bind (gives_ask.2 (Resolver.gives_lineEntry.2 ⟨entry, rfl⟩)) ?_
    refine Gives.bind (gives_ask.2 (Resolver.gives_functionLines.2 ⟨lines, rfl⟩)) ?_
    refine gives_inspect_bind.2 ?_
    exact (returnAddress_gives ha hp returns).bind (gives_log_bind.2 hrun)

/-! ## Running to candidates -/

/-- What a run with temporary breakpoints at `stops` ends with: a breakpoint of
    the user goes before. -/
def moveEvent (d : Debuggee Simulated) (stops : List Addr) (k : Nat) : StopEvent :=
  if 1 ≤ k ∧ d.BreaksAt (d.tracee.trace k) then .hitBreakpoint (d.tracee.trace k)
  else if 1 ≤ k ∧ d.tracee.trace k ∈ stops then .stepped
  else d.tracee.eventAt (d.tracee.trace k)

theorem relabel_eventAt (p : Simulated) (added : List Addr) (a : Addr) :
    relabel added (p.eventAt a) = p.eventAt a := by
  unfold eventAt
  split
  · split_ifs <;> rfl
  · rfl

theorem relabel_isTerminal (added : List Addr) (event : StopEvent) :
    (relabel added event).isTerminal = event.isTerminal := by
  unfold relabel
  split
  · split_ifs <;> rfl
  · rfl

/-- Where breakpoints can be set they are, and the program stays what it is. -/
theorem addTemporary_gives {stops : List Addr} (hd : s.debuggee.Settled) (ha : s.debuggee.isAlive)
    (hp : s.debuggee.tracee.isAlive) (hw : ∀ a ∈ stops, s.debuggee.tracee.isWritable a) :
    ∃ added d, (addTemporary [] stops).Gives s (.ok (added, .ok ())) { s with debuggee := d } ∧
      Extends s.debuggee added d ∧ d.rest = s.debuggee.rest ∧
      (∀ a, ¬ s.debuggee.BreaksAt a → (a ∈ added ↔ a ∈ stops)) ∧
      Undisturbed s.debuggee d := by
  have hgives := gives_self (addTemporary [] stops) s
  obtain ⟨added, ready, hr, he, hadded⟩ := gives_addTemporary hgives (.refl hd ha)
  obtain rfl := hadded.succeeds hp hw
  have hkeeps := (addTemporary_keeps Debuggee.setBreakpoint_keeps stops []).gives hgives
  rw [hr, hadded.session] at hgives
  refine ⟨added, _, hgives, he, hadded.rest, fun a hfree => ⟨fun h => ?_, fun h => ?_⟩, hkeeps⟩
  · exact (hadded.stop a h).resolve_left (List.not_mem_nil)
  · exact (hadded.all rfl a h).resolve_left hfree

/-- The first stop depends on the program itself and on where to stop. -/
theorem firstStop_of_rest {d d' : Debuggee Simulated} {p q : Addr → Prop} (hr : d'.rest = d.rest)
    (ho : d'.ownByte = d.ownByte) (hpq : ∀ a, q a ↔ p a) (h : d.FirstStop p k) :
    d'.FirstStop q k := by
  obtain rfl : q = p := funext fun a => propext (hpq a)
  rw [eq_of_rest hr] at ho ⊢
  exact ⟨h.ends, h.first, ho ▸ h.own, h.limit, h.limit_off⟩

/-- A hit of a temporary breakpoint is told from one of the user's. -/
theorem relabel_endEvent {d d' : Debuggee Simulated} {added stops : List Addr}
    (he : Extends d added d') (hr : d'.rest = d.rest)
    (hnew : ∀ a, ¬ d.BreaksAt a → (a ∈ added ↔ a ∈ stops)) :
    relabel added (d'.tracee.endEvent d'.BreaksAt k) =
      moveEvent d stops k := by
  have htrace : d'.tracee.trace k = d.tracee.trace k := by rw [eq_of_rest hr]; rfl
  have hevent : d'.tracee.eventAt (d.tracee.trace k) = d.tracee.eventAt (d.tracee.trace k) := by
    rw [eq_of_rest hr]
    rfl
  have hcontains := he.contains_iff (d.tracee.trace k)
  rw [endEvent, htrace, hevent, moveEvent]
  by_cases huser : 1 ≤ k ∧ d.BreaksAt (d.tracee.trace k)
  · have hadded : d.tracee.trace k ∉ added := fun h => he.free _ h huser.2
    rw [if_pos huser, if_pos ⟨huser.1, hcontains.2 (Or.inl huser.2)⟩]
    exact if_neg hadded
  have hfree (hpos : 1 ≤ k) : ¬ d.BreaksAt (d.tracee.trace k) := fun hc => huser ⟨hpos, hc⟩
  by_cases hstop : 1 ≤ k ∧ d.tracee.trace k ∈ stops
  · have hadded := (hnew _ (hfree hstop.1)).2 hstop.2
    rw [if_neg huser, if_pos hstop, if_pos ⟨hstop.1, hcontains.2 (Or.inr hadded)⟩]
    exact if_pos hadded
  · have hnone : ¬ (1 ≤ k ∧ d'.BreaksAt (d.tracee.trace k)) := by
      rintro ⟨hpos, hc⟩
      have hadded := (hcontains.1 hc).resolve_left (hfree hpos)
      exact hstop ⟨hpos, (hnew _ (hfree hpos)).1 hadded⟩
    rw [if_neg huser, if_neg hstop, if_neg hnone]
    exact relabel_eventAt _ _ _

/-- A debuggee that arrived with temporary breakpoints has arrived where they
    are removed. -/
theorem arrived_removed {d d₁ d₂ d₃ : Debuggee Simulated} {event : StopEvent} {a : Addr}
    (h : Arrived d₁ d₂ a event) (hi : d.Intact) (hp : d.tracee.isAlive) (hrest : d₁.rest = d.rest)
    (hund : Undisturbed d d₃)
    (hd₃ : if d₂.isAlive then Extends d [] d₃ ∧ d₃.rest = d₂.rest else d₃ = d₂)
    (added : List Addr) :
    Arrived d d₃ a (relabel added event) ∧ (d₃.isAlive → d₃.tracee.isAlive) := by
  have hterm := relabel_isTerminal added event
  split_ifs at hd₃ with ha₂
  · obtain ⟨he, hr⟩ := hd₃
    obtain ⟨-, hown, hintact⟩ := hund he.alive
    have hlive : ¬ event.isTerminal := fun h' => isAlive_iff.1 ha₂ (h.gone h').1
    refine ⟨⟨fun h' => absurd (hterm ▸ h') hlive, fun _ => ?_, fun _ => ?_,
      fun _ => he.breakpoints_eq, fun _ => ?_, fun _ reg hreg => ?_⟩, fun _ => he.process hp⟩
    · exact (congrArg Debuggee.state hr).trans (h.state hlive)
    · exact (congrArg (fun d => d.tracee.pc) hr).trans (h.pc hlive)
    · exact memory_eq he.breakpoints_eq hown hi (hintact hi)
    · have h₃ : d₃.tracee.registers = d₂.tracee.registers :=
        congrArg (fun d => d.tracee.registers) hr
      have h₁ : d₁.tracee.registers = d.tracee.registers :=
        congrArg (fun d => d.tracee.registers) hrest
      rw [h₃, h.registers hlive reg hreg, h₁]
  · have hgone : event.isTerminal := by
      by_contra h'
      exact ha₂ (isAlive_iff.2 (by rw [h.state h']; simp))
    rw [hd₃]
    exact ⟨arrived_exited (hterm.trans hgone) (h.gone hgone).1 (h.gone hgone).2,
      fun ha => absurd ha ha₂⟩

/-- **Running with temporary breakpoints** stops at the first of them, or at a
    breakpoint of the user, and leaves nothing behind. -/
theorem runTo_arrives {stops : List Addr} (hd : s.debuggee.Settled) (ha : s.debuggee.isAlive)
    (hp : s.debuggee.tracee.isAlive) (hi : s.debuggee.Intact)
    (hconv : s.debuggee.tracee.Conventional)
    (hw : ∀ a ∈ stops, s.debuggee.tracee.isWritable a)
    (hk : s.debuggee.FirstStop (fun a => s.debuggee.BreaksAt a ∨ a ∈ stops) k) :
    ∃ d', (runTo stops).Gives s (.ok (moveEvent s.debuggee stops k)) { s with debuggee := d' } ∧
      Arrived s.debuggee d' (s.debuggee.tracee.trace k) (moveEvent s.debuggee stops k) := by
  obtain ⟨added, d₁, hadd, he, hrest, hnew, hund⟩ := addTemporary_gives hd ha hp hw
  obtain ⟨-, hown, hintact⟩ := hund he.alive
  have hevent := relabel_endEvent (k := k) he hrest hnew
  have hsame := eq_of_rest hrest
  have hconv₁ : d₁.tracee.Conventional := by
    rw [hsame]
    exact ⟨hconv.trapCode, hconv.faults⟩
  have hk₁ : d₁.FirstStop d₁.BreaksAt k := by
    refine firstStop_of_rest hrest hown (fun a => ?_) hk
    exact (he.contains_iff a).trans (or_congr_right' (hnew a))
  -- while it runs, the temporary breakpoints are like those of the user
  obtain ⟨d₂, hrun, harr⟩ := continueExecution_arrives he.settled (he.process hp) (hintact hi)
    hconv₁ hk₁ he.alive
  have hsteady := continueExecution_steady.gives hrun
  have hund₂ := continueExecution_keeps.gives hrun
  obtain ⟨d₃, hremove, hd₃⟩ :=
    removeTemporary_gives (s := { s with debuggee := d₂ }) (he.steady hsteady)
  have hund₃ := (removeTemporary_keeps Debuggee.removeBreakpoint_keeps added).gives hremove
  have hremoved := trans_of Undisturbed hund (trans_of Undisturbed hund₂ hund₃)
  have htrace : d₁.tracee.trace k = s.debuggee.tracee.trace k := by rw [hsame]; rfl
  obtain ⟨harr₃, hp₃⟩ := arrived_removed harr hi hp hrest hremoved hd₃ added
  rw [hevent, htrace] at harr₃
  have hshow := presentLocation_gives (s := { s with debuggee := d₃ }) hp₃
  refine ⟨d₃, ?_, harr₃⟩
  rw [runTo_eq]
  have hready : (runReady (.ok ())).Gives { s with debuggee := d₁ } (.ok (.ok _))
      { s with debuggee := d₂ } := gives_attempt.2 ⟨_, gives_onDebuggee.2 ⟨_, hrun, rfl⟩, rfl⟩
  refine hadd.bind (hready.bind (gives_attempt_bind.2 ⟨_, _, hremove, ?_⟩))
  refine Gives.bind (gives_ofExcept.2 ⟨rfl, rfl⟩) (Gives.bind (gives_ofExcept.2 ⟨rfl, rfl⟩) ?_)
  exact hshow.bind (gives_pure.2 ⟨by rw [hevent], rfl⟩)

/-- **`stepOver` and `stepOut` stop at the first candidate.**  They execute the
    instructions of the program itself up to the first of the candidates or a
    breakpoint before it, and leave no temporary breakpoint behind. -/
theorem runs_to_candidate {c : Command} {stops : List Addr} (hs : Reachable s)
    (alive : s.debuggee.isAlive) (conventional : s.debuggee.tracee.Conventional)
    (intact : s.debuggee.Intact) (writes : s.debuggee.tracee.failWrites = false)
    (candidates : Candidates s c stops)
    (mapped : ∀ a ∈ stops, ∀ i < 8, (s.debuggee.memory.get? (a + UInt64.ofNat i)).isSome)
    (first : s.debuggee.FirstStop (fun a => s.debuggee.BreaksAt a ∨ a ∈ stops) k) :
    ∃ d', (execute c).Gives s (.ok (.stopped (moveEvent s.debuggee stops k)))
        { s with debuggee := d' } ∧
      Arrived s.debuggee d' (s.debuggee.tracee.trace k) (moveEvent s.debuggee stops k) := by
  have hp := hs.process alive
  have hw : ∀ a ∈ stops, s.debuggee.tracee.isWritable a := fun a ha =>
    isWritable_iff.2 ⟨writes, Memory.getWord?_isSome.2 (mapped a ha)⟩
  obtain ⟨d', hgives, harr⟩ := runTo_arrives hs.settled alive hp intact conventional hw first
  exact ⟨d', candidates.execute_gives alive hp hgives, harr⟩

/-- The other rows of `main`, and where it returns to. -/
def mainStops : List Addr :=
  [0x1135, 0x113c, 0x1146, 0x114b, 0x1150, 0x115e].map Fixture.runtime ++ [Fixture.mainReturn]

theorem candidates_paused : Candidates paused .stepOver mainStops := by
  have hf : paused.resolver.functionContaining?
      (paused.resolver.toStatic paused.debuggee.tracee.pc) =
        some ⟨some "main", 0x1129, 0x1160⟩ := by
    decide +kernel
  have he : paused.resolver.lineEntry? (paused.resolver.toStatic paused.debuggee.tracee.pc) =
      some (Fixture.row 0x1129 9).entry := by
    decide +kernel
  have hl : paused.resolver.functionLines? ⟨some "main", 0x1129, 0x1160⟩ =
      some ((Fixture.lineTable.take 7).map (·.entry)) := by
    decide +kernel
  have hr : paused.returnsTo? = some Fixture.mainReturn := by decide +kernel
  convert Candidates.next hf he hl hr using 1
  decide +kernel

/-- The next line of `main` is reached before the second breakpoint. -/
theorem next_paused : ∃ d',
    (execute .stepOver).Gives paused (.ok (.stopped .stepped)) { paused with debuggee := d' } ∧
      Arrived paused.debuggee d' (Fixture.runtime 0x1135) .stepped := by
  obtain ⟨halive, hconv, hintact⟩ := paused_ready
  have hwords : mainStops.all fun a => (paused.debuggee.memory.getWord? a).isSome := by
    decide +kernel
  have hmapped (a) (ha : a ∈ mainStops) := Memory.getWord?_isSome.1 (List.all_eq_true.1 hwords a ha)
  have hfirst : paused.debuggee.FirstStop
      (fun a => paused.debuggee.BreaksAt a ∨ a ∈ mainStops) 3 := by
    decide +kernel
  have hevent : moveEvent paused.debuggee mainStops 3 = .stepped := by decide +kernel
  have htrace : paused.debuggee.tracee.trace 3 = Fixture.runtime 0x1135 := by decide +kernel
  rw [← hevent, ← htrace]
  have hwrites : paused.debuggee.tracee.failWrites = false := by decide +kernel
  exact runs_to_candidate reachable_paused halive hconv hintact hwrites candidates_paused hmapped
    hfirst

end Session

end SourceDebugger
