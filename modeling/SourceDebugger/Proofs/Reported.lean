/-
  What a session reports as the hit of a breakpoint.  The event is made where a
  trap is classified, with temporary breakpoints in the table and perhaps one of
  the user's disabled for a step; it comes through all that is done afterwards.

  * `Session.Advances`: the commands that let the debuggee run or step;
  * `Session.execute_hits`: a command that reports a hit leaves a debuggee that
    stands there;
  * `Session.hit_chosen`: and the breakpoint is an enabled one of the user.
-/
import SourceDebugger.Proofs.Hits
import SourceDebugger.Proofs.Undone

namespace SourceDebugger

open SourceDebugger.Action

namespace Debuggee

open Simulated

variable {d d' : Debuggee Simulated} {a : Addr}

theorem Hit.same (h : Hit d a) (hs : Same d d') : Hit d' a := by
  rw [Same] at hs
  rw [hs]
  exact ⟨h.pc, h.alive, h.known⟩

theorem stepInstruction_hits (hd : d.Settled)
    (h : stepInstruction.Gives d (.ok (.hitBreakpoint a)) d') : Hit d' a := by
  obtain ⟨event, d₁, hover, hend⟩ := gives_bind_ok.1 h
  rcases event with _ | event
  · exact singleStep_hits hend
  · obtain ⟨⟨⟩, rfl⟩ := gives_pure.1 hend
    exact stepOverBreakpoint_hits hd hover

end Debuggee

namespace Session

open Debuggee Simulated

variable {s s' : Session Simulated} {a : Addr} {event : StopEvent}

/-! ## Through the operations of the session -/

/-- The event is the one that the place was shown for. -/
theorem event_of_shown {event' : StopEvent}
    (h : (do presentLocation; return event : Action (Session Simulated) StopEvent).Gives s
      (.ok event') s') : event' = event := by
  obtain ⟨_, _, -, hend⟩ := gives_bind_ok.1 h
  exact Except.ok.inj (gives_pure.1 hend).1

/-- Showing the place leaves a debuggee where it stands. -/
theorem shown_hits (hd : Hit s.debuggee a)
    (h : (do presentLocation; return event : Action (Session Simulated) StopEvent).Gives s
      (.ok (.hitBreakpoint a)) s') : Hit s'.debuggee a := by
  obtain ⟨_, s₁, hshow, hend⟩ := gives_bind_ok.1 h
  obtain ⟨-, rfl⟩ := gives_pure.1 hend
  have hsame : Same s.debuggee s'.debuggee := (presentLocation_keeps same_reading).gives hshow
  exact hd.same hsame

theorem moved_hits {act : Action (Debuggee Simulated) StopEvent}
    (hact : ∀ {d'}, act.Gives s.debuggee (.ok (.hitBreakpoint a)) d' → Hit d' a)
    (h : (do
      let event ← onDebuggee act
      presentLocation
      return event).Gives s (.ok (.hitBreakpoint a)) s') : Hit s'.debuggee a := by
  obtain ⟨event, s₁, hmove, hshow⟩ := gives_bind_ok.1 h
  obtain ⟨d₁, hd₁, rfl⟩ := gives_onDebuggee.1 hmove
  obtain rfl := event_of_shown hshow
  exact shown_hits (s := { s with debuggee := d₁ }) (hact hd₁) hshow

/-- By induction on the instructions that may still be executed. -/
theorem stepFrom_hits {start : Option SourceLocation} {limit : Nat} (hd : s.debuggee.Settled)
    (h : (stepFrom start limit).Gives s (.ok (.hitBreakpoint a)) s') : Hit s'.debuggee a := by
  induction limit generalizing s with
  | zero =>
    obtain ⟨_, _, -, hend⟩ := gives_bind_ok.1 h
    cases (gives_pure.1 hend).1
  | succ limit ih =>
    obtain ⟨event, s₁, hstep, hthen⟩ := gives_bind_ok.1 h
    obtain ⟨d₁, hd₁, rfl⟩ := gives_onDebuggee.1 hstep
    split_ifs at hthen with hne
    · obtain rfl := event_of_shown hthen
      exact shown_hits (s := { s with debuggee := d₁ }) (stepInstruction_hits hd hd₁) hthen
    -- a finished step leaves a settled debuggee, from which the search goes on
    have hd₁' : d₁.Settled := (stepInstruction_steady.gives hd₁ hd).1
    obtain ⟨entry, s₂, hline, hrest⟩ := gives_bind_ok.1 hthen
    have hsteady : Steady d₁ s₂.debuggee :=
      (currentLine_keeps steady_moving.toKeptByReading).gives hline
    have hd₂ : s₂.debuggee.Settled := (hsteady hd₁').1
    rcases entry with _ | here
    · exact ih hd₂ hrest
    dsimp only at hrest
    split_ifs at hrest
    · exact ih hd₂ hrest
    · cases event_of_shown hrest

/-- Only a hit of a breakpoint that is not temporary stays one. -/
theorem relabel_eq_hitBreakpoint {added : List Addr}
    (h : relabel added event = .hitBreakpoint a) : event = .hitBreakpoint a ∧ a ∉ added := by
  unfold relabel at h
  split at h
  · split_ifs at h with hadded
    obtain rfl := StopEvent.hitBreakpoint.inj h
    exact ⟨rfl, hadded⟩
  · rename_i hfree
    exact absurd h (hfree a)

/-- **A run with temporary breakpoints that reports a hit** has come to one of
    the others, and stands there when the temporary ones are gone. -/
theorem runTo_hits {stops : List Addr} (hd : s.debuggee.Settled)
    (h : (runTo stops).Gives s (.ok (.hitBreakpoint a)) s') : Hit s'.debuggee a := by
  generalize hr : Except.ok (StopEvent.hitBreakpoint a) = r at h
  cases gives_runTo h with
  | failed => cases hr
  | @arrived added s₁ s₂ s₃ _ event shown hadd hrun hremove hpresent =>
    rcases shown with _ | _
    · cases hr
    obtain ⟨rfl, hfree⟩ := relabel_eq_hitBreakpoint (Except.ok.inj hr).symm
    obtain ⟨d₂, hcont, rfl⟩ := gives_onDebuggee.1 hrun
    have ha : s.debuggee.isAlive := by
      by_contra hdead
      have hinert : s₁.debuggee = s.debuggee :=
        (addTemporary_keeps (R := Inert) (fun _ => ensureAlive_inert) stops []).gives hadd hdead
      rw [gives_continueExecution, hinert, if_neg hdead] at hcont
      cases hcont.1
    obtain ⟨_, _, ⟨⟩, he, -⟩ := gives_addTemporary hadd (.refl hd ha)
    have hhit := continueExecution_hits he.settled hcont
    have he₂ : Extends s.debuggee added d₂ :=
      he.steady (continueExecution_steady.gives hcont) hhit.alive
    obtain ⟨d₃, hgives, hd₃⟩ := removeTemporary_gives (s := { s₁ with debuggee := d₂ }) fun _ => he₂
    obtain ⟨-, rfl⟩ := hremove.unique hgives
    rw [if_pos hhit.alive] at hd₃
    obtain ⟨he₃, hrest⟩ := hd₃
    have hknown : s.debuggee.breakpoints.contains a :=
      ((he₂.contains_iff a).1 hhit.known).resolve_right hfree
    have hhit₃ : Hit d₃ a :=
      ⟨(congrArg (fun d => d.tracee.pc) hrest).trans hhit.pc, he₃.alive,
        (he₃.contains_iff a).2 (Or.inl hknown)⟩
    have hsame : Same d₃ s'.debuggee := (presentLocation_keeps same_reading).gives hpresent
    exact hhit₃.same hsame

/-! ## Commands -/

/-- The commands that let the debuggee run or step. -/
def Advances : Command → Prop
  | .continue | .stepIn | .stepInstruction | .stepOver | .stepOut => True
  | _ => False

/-- Only these report stops. -/
theorem advances_of_stopped {c : Command} (h : (execute c).Gives s (.ok (.stopped event)) s') :
    Advances c := by
  replace h := gives_log_bind.1 h
  cases c with
  | «continue» | stepIn | stepInstruction | stepOver | stepOut => trivial
  | quit => cases (gives_pure.1 h).1
  | _ =>
    obtain ⟨_ | _, -, ⟨⟩⟩ := gives_map.1 h

/-- **A debuggee that is reported to have hit a breakpoint stands there.** -/
theorem execute_hits {c : Command} (hd : s.debuggee.Settled)
    (h : (execute c).Gives s (.ok (.stopped (.hitBreakpoint a))) s') : Hit s'.debuggee a := by
  have hadvances := advances_of_stopped h
  -- what is read before the run leaves the debuggee settled
  have hrunTo {act : Action (Session Simulated) (List Addr)} {s'}
      (hact : act.Keeps (InvImage Steady Session.debuggee))
      (h : (act >>= runTo).Gives s (.ok (.hitBreakpoint a)) s') : Hit s'.debuggee a := by
    obtain ⟨stops, s₁, hstops, hrun⟩ := gives_bind_ok.1 h
    have hsteady : Steady s.debuggee s₁.debuggee := hact.gives hstops
    exact runTo_hits (hsteady hd).1 hrun
  have hreading := steady_moving.toKeptByReading
  replace h := gives_log_bind.1 h
  cases c with
  | «continue» =>
    obtain ⟨_ | _, hmove, ⟨⟩⟩ := gives_map.1 h
    exact moved_hits (continueExecution_hits hd) hmove
  | stepInstruction =>
    obtain ⟨_ | _, hmove, ⟨⟩⟩ := gives_map.1 h
    exact moved_hits (stepInstruction_hits hd) hmove
  | stepIn =>
    obtain ⟨_ | _, hmove, ⟨⟩⟩ := gives_map.1 h
    obtain ⟨_, s₁, hline, hsteps⟩ := gives_bind_ok.1 hmove
    have hsteady : Steady s.debuggee s₁.debuggee := (currentLine_keeps hreading).gives hline
    exact stepFrom_hits (hsteady hd).1 (gives_log_bind.1 hsteps)
  | stepOver =>
    obtain ⟨_ | _, hmove, ⟨⟩⟩ := gives_map.1 h
    rw [stepOver_eq] at hmove
    exact hrunTo (nextStops_keeps hreading) hmove
  | stepOut =>
    obtain ⟨_ | _, hmove, ⟨⟩⟩ := gives_map.1 h
    rw [stepOut_eq] at hmove
    exact hrunTo (callerStops_keeps hreading) hmove
  | _ => cases hadvances

/-- **A reported hit is true.**  When a command ends with the hit of a breakpoint
    at `a`, whatever was done before, the program counter is at `a`, the debuggee
    is there, and the table has an enabled breakpoint at `a` which the user has
    set and not deleted: no temporary one is ever reported. -/
theorem hit_chosen (p : Simulated) (resolver : Resolver) (config : Config)
    (is : List Interaction) {c : Command} {s' : Session Simulated}
    (hit : (execute c).Gives ((fresh p resolver config).after is)
      (.ok (.stopped (.hitBreakpoint a))) s') :
    s'.debuggee.tracee.registers.get .rip = a ∧ s'.debuggee.isAlive ∧
      s'.debuggee.breakpoints.isEnabledAt a ∧
      a ∈ chosen ((fresh p resolver config).exchanges is) := by
  have hchosen := chosen_after p resolver config is
  have hstands := execute_hits hchosen.settled hit
  have hfree : ¬ Chooses (.command c) := by
    intro hc
    have hadvances := advances_of_stopped hit
    cases c with
    | setBreakpoint | deleteBreakpoint => exact hadvances
    | _ => exact hc
  obtain ⟨hsettled, hkept⟩ := (perform_steady hfree).gives hit hchosen.settled
  obtain ⟨halive, -, htable⟩ := hkept hstands.alive
  refine ⟨hstands.pc, hstands.alive, hsettled.enabled a hstands.known, ?_⟩
  exact (hchosen.table halive a).1 (htable ▸ hstands.known)

/-- Leaving the function comes to a breakpoint of the user before it is over. -/
theorem hit_chosen_paused :
    let o := execute .stepOut paused
    o.result = .ok (.stopped (.hitBreakpoint (Fixture.runtime 0x113c))) ∧
      o.state.debuggee.tracee.registers.get .rip = Fixture.runtime 0x113c ∧
      o.state.debuggee.isAlive ∧
      o.state.debuggee.breakpoints.isEnabledAt (Fixture.runtime 0x113c) ∧
      Fixture.runtime 0x113c ∈
        chosen ((fresh mainOnly ⟨Fixture.info, Fixture.loadAddress⟩ {}).exchanges
          [.command (.setBreakpoint (.address (Fixture.runtime 0x1129))),
            .command (.setBreakpoint (.address (Fixture.runtime 0x113c)))]) := by
  have hit : (execute .stepOut).Gives paused
      (.ok (.stopped (.hitBreakpoint (Fixture.runtime 0x113c)))) (execute .stepOut paused).state :=
    ⟨by decide +kernel, rfl⟩
  exact ⟨hit.1, hit_chosen mainOnly _ _ _ hit⟩

end Session

end SourceDebugger
