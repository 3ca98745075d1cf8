/-
  The order of requests.  A process is asked for nothing while it runs, except
  to be waited for; what is known of it is read off the record of requests.

  * `Phase` is what the requests so far tell of a process, `Phase.Admits` what
    may be asked of it: of a stopped one anything but to wait for it, of one
    that was let go only to wait for it, of one that is gone nothing;
  * `Debuggee.Orderly`: the requests were in this order, and the state of the
    debuggee is what they tell.  Every operation keeps this;
  * `Session.calls_inOrder`: the requests of all sessions are in this order.
    Only a process that was waited for in vain is asked for something without
    being known to have stopped.
-/
import SourceDebugger.Proofs.Observed

namespace SourceDebugger

open SourceDebugger.Action

/-! ## What requests tell -/

/-- What is known of a process. -/
inductive Phase where
  | stopped
  /-- It was resumed or stepped, and not waited for yet. -/
  | launched
  /-- It was waited for in vain. -/
  | lost
  /-- It has exited, or was killed or detached. -/
  | gone
  deriving DecidableEq

namespace Phase

variable {τ : Type}

/-- What is known after a request. -/
def after (phase : Phase) (c : Call τ) : Phase :=
  match c.request.primitive, c.answer with
  | .resume, .ok _ | .step, .ok _ => launched
  | .wait, .ok (some (.signal _ _)) => stopped
  | .wait, .ok _ => gone
  | .wait, .error _ => lost
  | .kill, .ok _ | .detach, .ok _ => gone
  | _, _ => phase

/-- What may be asked. -/
def Admits : Phase → Primitive → Prop
  | stopped, p | lost, p => p ≠ .wait
  | launched, p => p = .wait
  | gone, _ => False

/-- Only a process that is known to have stopped is asked for something else
    than to be waited for. -/
def WhileStopped (phase : Phase) (p : Primitive) : Prop := p ≠ .wait → phase = stopped

instance (phase : Phase) (p : Primitive) : Decidable (WhileStopped phase p) :=
  inferInstanceAs (Decidable (p ≠ .wait → phase = stopped))

end Phase

/-- Every request is made in a phase and of a kind for which `P` holds. -/
def Throughout {τ : Type} (P : Phase → Primitive → Prop) : Phase → List (Call τ) → Prop
  | _, [] => True
  | phase, c :: cs => P phase c.request.primitive ∧ Throughout P (phase.after c) cs

section
variable {τ : Type} {P : Phase → Primitive → Prop} {phase : Phase}

def Throughout.decide [∀ phase p, Decidable (P phase p)] :
    ∀ (phase : Phase) (cs : List (Call τ)), Decidable (Throughout P phase cs)
  | _, [] => isTrue trivial
  | phase, c :: cs =>
    have := Throughout.decide (phase.after c) cs
    inferInstanceAs (Decidable (P phase c.request.primitive ∧ Throughout P (phase.after c) cs))

instance [∀ phase p, Decidable (P phase p)] (phase : Phase) (cs : List (Call τ)) :
    Decidable (Throughout P phase cs) :=
  Throughout.decide phase cs

theorem throughout_append {cs cs' : List (Call τ)} :
    Throughout P phase (cs ++ cs') ↔
      Throughout P phase cs ∧ Throughout P (cs.foldl Phase.after phase) cs' := by
  induction cs generalizing phase with
  | nil => simp [Throughout]
  | cons c cs ih =>
    rw [List.cons_append, Throughout, Throughout, ih, List.foldl_cons, and_assoc]

end

/-- A process is lost by waiting in vain. -/
theorem Phase.lost_of_after {τ : Type} {phase : Phase} {c : Call τ} (h : phase.after c = .lost) :
    phase = .lost ∨ c.request.primitive = .wait ∧ ∃ e, c.answer = .error e := by
  unfold Phase.after at h
  split at h
  case h_5 e hw he => exact Or.inr ⟨hw, e, he⟩
  case h_8 => exact Or.inl h
  all_goals cases h

/-- As long as no waiting fails, processes are asked while they are stopped. -/
theorem Throughout.whileStopped {τ : Type} {phase : Phase} {cs : List (Call τ)}
    (h : Throughout Phase.Admits phase cs) (hphase : phase ≠ .lost)
    (hwait : ∀ c ∈ cs, c.request.primitive = .wait → ∃ report, c.answer = .ok report) :
    Throughout Phase.WhileStopped phase cs := by
  induction cs generalizing phase with
  | nil => trivial
  | cons c cs ih =>
    obtain ⟨hadmits, h⟩ := h
    obtain ⟨hc, hcs⟩ := List.forall_mem_cons.1 hwait
    refine ⟨fun hp => ?_, ih h (fun hlost => ?_) hcs⟩
    · cases phase with
      | stopped => rfl
      | launched => exact absurd hadmits hp
      | lost => exact absurd rfl hphase
      | gone => exact hadmits.elim
    · obtain hlost | ⟨hw, e, he⟩ := Phase.lost_of_after hlost
      · exact hphase hlost
      · obtain ⟨report, hr⟩ := hc hw
        cases he.symm.trans hr

/-- The requests for which it does not matter how they are answered. -/
def Primitive.Passive : Primitive → Prop
  | .readWord | .writeWord | .readRegister | .writeRegister | .memoryMap => True
  | _ => False

theorem Phase.after_passive {τ : Type} {c : Call τ} (h : c.request.primitive.Passive)
    (phase : Phase) : phase.after c = phase := by
  obtain ⟨t, ⟨p, a, r⟩, answer⟩ := c
  cases p <;> first | rfl | cases h

namespace Observed

variable {τ : Type}

/-- Only passive requests are made from the one to the other. -/
def Passively (o o' : Observed τ) : Prop :=
  ∃ cs, o'.calls = o.calls ++ cs ∧ ∀ c ∈ cs, c.request.primitive.Passive

instance : IsPreorder (Observed τ) Passively where
  refl o := ⟨[], by simp, by simp⟩
  trans o₁ o₂ o₃ := by
    rintro ⟨cs, hcs, hp⟩ ⟨cs', hcs', hp'⟩
    refine ⟨cs ++ cs', by rw [hcs', hcs, List.append_assoc], fun c hc => ?_⟩
    exact (List.mem_append.1 hc).elim (hp c) (hp' c)

theorem observe_passively {α : Type} {request : Request} (h : request.primitive.Passive)
    (act : Action τ α) (report? : α → Option Report) :
    (observe request act report?).Keeps Passively := by
  refine .of_gives fun o r o' hg => ?_
  obtain ⟨t, -, rfl⟩ := gives_observe.1 hg
  exact ⟨_, rfl, by simpa using h⟩

end Observed

/-! ## The debuggee -/

/-- The phase in which the process of a debuggee is between its operations: it
    is running only if it could not be waited for. -/
def ProcessState.phase : ProcessState → Phase
  | stopped => .stopped
  | running => .lost
  | exited => .gone

namespace Debuggee

open Observed

variable {τ α : Type} {d d' : Debuggee (Observed τ)}

/-- The requests so far were in order, and the state is what they tell. -/
structure Orderly (d : Debuggee (Observed τ)) : Prop where
  order : Throughout Phase.Admits .stopped d.tracee.calls
  phase : d.tracee.calls.foldl Phase.after .stopped = d.state.phase
  /-- Without a process there are no breakpoints. -/
  bare : d.state = .exited → d.breakpoints = .empty

/-- A process that is not gone may be asked for anything but to be waited
    for. -/
theorem admits_of_isAlive (ha : d.isAlive) {p : Primitive} (hp : p ≠ .wait) :
    d.state.phase.Admits p := by
  cases hstate : d.state with
  | exited => exact absurd hstate (isAlive_iff.1 ha)
  | _ => exact hp

/-- Passive requests may be made of a process that is not gone. -/
theorem Orderly.passive (h : d.Orderly) (ha : d.isAlive) (ht : Passively d.tracee d'.tracee)
    (hs : d'.state = d.state) : d'.Orderly := by
  have hadmits {p : Primitive} (hp : p.Passive) : d.state.phase.Admits p := by
    refine admits_of_isAlive ha ?_
    rintro rfl
    cases hp
  obtain ⟨cs, hcs, hpassive⟩ := ht
  have hstay : cs.foldl Phase.after d.state.phase = d.state.phase ∧
      Throughout Phase.Admits d.state.phase cs := by
    clear hcs
    induction cs with
    | nil => exact ⟨rfl, trivial⟩
    | cons c cs ih =>
      obtain ⟨hc, hcs⟩ := List.forall_mem_cons.1 hpassive
      rw [List.foldl_cons, Throughout, Phase.after_passive hc]
      exact ⟨(ih hcs).1, hadmits hc, (ih hcs).2⟩
  refine ⟨?_, ?_, fun hex => absurd (hs ▸ hex) (isAlive_iff.1 ha)⟩
  · rw [hcs, throughout_append, h.phase]
    exact ⟨h.order, hstay.2⟩
  · rw [hcs, List.foldl_append, h.phase, hstay.1, hs]

/-- A request is recorded as it is made, in a phase that admits it. -/
theorem orderly_call {o : Observed τ} {phase : Phase} {c : Call τ} {t : τ}
    {table : BreakpointTable} {state : ProcessState}
    (horder : Throughout Phase.Admits .stopped o.calls)
    (hphase : o.calls.foldl Phase.after .stopped = phase)
    (hadmits : phase.Admits c.request.primitive) (hafter : phase.after c = state.phase)
    (hbare : state = .exited → table = .empty) :
    (⟨⟨t, o.calls ++ [c]⟩, table, state⟩ : Debuggee (Observed τ)).Orderly := by
  subst hphase
  refine ⟨throughout_append.2 ⟨horder, hadmits, trivial⟩, ?_, hbare⟩
  rw [List.foldl_append]
  exact hafter

theorem requestAlive_order {act : Action (Observed τ) α} (h : act.Keeps Passively) :
    (requestAlive act).Keeps (Preserves Orderly) := by
  refine .of_gives fun d r d' hg hd => ?_
  rw [gives_requestAlive] at hg
  split_ifs at hg with ha
  · obtain ⟨o, ho, rfl⟩ := gives_request.1 hg
    exact hd.passive ha (h.gives ho) rfl
  · exact hg.2 ▸ hd

theorem put_order {act : Action (Observed τ) Breakpoint} (h : act.Keeps Passively)
    (ha : d.Orderly → d.isAlive) {r : Except Failure Unit} (hg : (requestPut act).Gives d r d') :
    Preserves Orderly d d' := by
  intro hd
  obtain ⟨e, o, ho, -, rfl⟩ | ⟨b, o, ho, -, rfl⟩ := gives_requestPut.1 hg
  · exact hd.passive (ha hd) (h.gives ho) rfl
  · exact hd.passive (ha hd) (h.gives ho) rfl

/-- Where there is a breakpoint there is a process. -/
theorem Orderly.alive (hd : d.Orderly) {a : Addr} {b : Breakpoint}
    (hb : d.breakpoints.get? a = some b) : d.isAlive := by
  rw [isAlive_iff]
  intro hex
  rw [hd.bare hex, BreakpointTable.get?_empty] at hb
  cases hb

variable [Tracee τ]

/-- Patching keeps the order. -/
theorem order_patching : KeptByPatching (Preserves (Orderly (τ := τ))) := by
  have hread (a : Addr) : (Tracee.readWord a : Action (Observed τ) Word).Keeps Passively :=
    observe_passively (by trivial) _ _
  have hwrite (a : Addr) (w : Word) :
      (Tracee.writeWord a w : Action (Observed τ) Unit).Keeps Passively :=
    observe_passively (by trivial) _ _
  refine ⟨fun {_ _ _ b _} hb => ?_, fun {_ _ _ b _} hb => ?_, fun ha => ?_, fun d a hd => ?_⟩
  · exact put_order (b.enable_keeps hread hwrite) fun hd => hd.alive hb
  · exact put_order (b.disable_keeps hread hwrite) fun hd => hd.alive hb
  · exact put_order (Breakpoint.enable_keeps hread hwrite _) fun _ => ha
  · refine ⟨hd.order, hd.phase, fun hex => BreakpointTable.ext_get? fun x => ?_⟩
    rw [BreakpointTable.get?_erase, hd.bare hex, BreakpointTable.get?_empty, ite_self]

/-! ### Running -/

theorem classifyTrap_order (code : Int) :
    (classifyTrap code : Action (Debuggee (Observed τ)) StopEvent).Keeps (Preserves Orderly) := by
  unfold classifyTrap
  split_ifs
  · refine .bind (requestAlive_order (observe_passively (by trivial) _ _)) fun here => ?_
    refine .bind (.inspect _) fun known => ?_
    cases known
    · exact .bind (.log _ _ _) fun _ => .pure _
    · exact .bind (requestAlive_order (observe_passively (by trivial) _ _)) fun _ => .pure _
  · exact .pure _
  · exact .bind (.log _ _ _) fun _ => .pure _

/-- A process that was let go is waited for at once. -/
theorem waitForStop_order {o : Observed τ} {table : BreakpointTable}
    (horder : Throughout Phase.Admits .stopped o.calls)
    (hphase : o.calls.foldl Phase.after .stopped = .launched) {r : Except Failure StopEvent}
    (hg : (waitForStop : Action (Debuggee (Observed τ)) StopEvent).Gives
      ⟨o, table, .running⟩ r d') :
    d'.Orderly := by
  rw [gives_waitForStop] at hg
  obtain ⟨e, hwait, -⟩ | ⟨report, d₁, hwait, hclass⟩ := gives_bind.1 hg
  · obtain ⟨_, ho, rfl⟩ := gives_request.1 hwait
    obtain ⟨t, -, rfl⟩ := gives_observe.1 ho
    exact orderly_call horder hphase rfl rfl (by simp)
  obtain ⟨_, ho, rfl⟩ := gives_request.1 hwait
  obtain ⟨t, -, rfl⟩ := gives_observe.1 ho
  cases report with
  | exited code =>
    rw [classify, markExited, gives_modify_bind, gives_pure] at hclass
    obtain ⟨-, rfl⟩ := hclass
    exact orderly_call horder hphase rfl rfl fun _ => rfl
  | killed signal =>
    rw [classify, markExited, gives_modify_bind, gives_pure] at hclass
    obtain ⟨-, rfl⟩ := hclass
    exact orderly_call horder hphase rfl rfl fun _ => rfl
  | signal signal code =>
    rw [classify, setState, gives_modify_bind] at hclass
    let c : Call τ := ⟨o.tracee, { primitive := .wait }, .ok (some (.signal signal code))⟩
    have hstopped : (⟨⟨t, o.calls ++ [c]⟩, table, .stopped⟩ : Debuggee (Observed τ)).Orderly :=
      orderly_call horder hphase rfl rfl (by simp)
    -- the process has stopped, and may be asked for its program counter
    refine Keeps.gives (R := Preserves Orderly) ?_ hclass hstopped
    split_ifs
    · exact classifyTrap_order code
    · exact .pure _
    · exact .pure _

/-- A request that lets the process run, and waiting for it. -/
theorem runAndWait_order {request : Request} {act : Action τ Unit}
    (hrun : request.primitive = .resume ∨ request.primitive = .step) {r : Except Failure StopEvent}
    (hg : (runAndWait (observe request act)).Gives d r d') (ha : d.isAlive) :
    Preserves Orderly d d' := by
  intro hd
  have hadmits : d.state.phase.Admits request.primitive :=
    admits_of_isAlive ha (by rcases hrun with h | h <;> simp [h])
  obtain ⟨e, hreq, -⟩ | ⟨_, d₁, hreq, hwait⟩ := gives_bind.1 hg
  · obtain ⟨_, ho, rfl⟩ := gives_request.1 hreq
    obtain ⟨t, -, rfl⟩ := gives_observe.1 ho
    refine orderly_call hd.order hd.phase hadmits ?_ hd.bare
    obtain ⟨p, a, reg⟩ := request
    rcases hrun with rfl | rfl <;> rfl
  · obtain ⟨_, ho, rfl⟩ := gives_request.1 hreq
    obtain ⟨t, -, rfl⟩ := gives_observe.1 ho
    rw [setState, gives_modify_bind] at hwait
    refine waitForStop_order (o := ⟨t, _⟩) ?_ ?_ hwait
    · rw [throughout_append, hd.phase]
      exact ⟨hd.order, hadmits, trivial⟩
    · rw [List.foldl_append, hd.phase]
      obtain ⟨p, a, reg⟩ := request
      rcases hrun with rfl | rfl <;> rfl

theorem singleStep_order :
    (singleStep : Action (Debuggee (Observed τ)) StopEvent).Keeps (Preserves Orderly) := by
  refine .of_gives fun d r d' hg => ?_
  rw [gives_singleStep] at hg
  split_ifs at hg with ha
  · exact runAndWait_order (Or.inr rfl) hg ha
  · exact hg.2 ▸ refl_of (Preserves Orderly) d

theorem stepOverBreakpoint_order :
    (stepOverBreakpoint : Action (Debuggee (Observed τ)) (Option StopEvent)).Keeps
      (Preserves Orderly) :=
  keeps_stepOverBreakpoint (requestAlive_order (observe_passively (by trivial) _ _))
    order_patching.disableAt singleStep_order order_patching.enableAt

/-! ### Letting go -/

omit [Tracee τ] in
/-- A request that ends the tracing of a process, and what is known of it then. -/
theorem release_order {request : Request} {act : Action τ Unit}
    (hend : request.primitive = .kill ∨ request.primitive = .detach)
    {next : Action (Debuggee (Observed τ)) Unit}
    (hnext : ∀ d r d', next.Gives d r d' → d' = { d with state := .exited, breakpoints := .empty })
    {r : Except Failure Unit} (hd : d.Orderly) (ha : d.isAlive)
    (hg : (Debuggee.request (observe request act) >>= fun _ => next).Gives d r d') :
    d'.Orderly := by
  have hadmits : d.state.phase.Admits request.primitive :=
    admits_of_isAlive ha (by rcases hend with h | h <;> simp [h])
  obtain ⟨p, a, reg⟩ := request
  obtain ⟨e, hreq, -⟩ | ⟨_, d₁, hreq, hmark⟩ := gives_bind.1 hg
  · obtain ⟨_, ho, rfl⟩ := gives_request.1 hreq
    obtain ⟨t, -, rfl⟩ := gives_observe.1 ho
    exact orderly_call hd.order hd.phase hadmits (by rcases hend with rfl | rfl <;> rfl) hd.bare
  · obtain ⟨_, ho, rfl⟩ := gives_request.1 hreq
    obtain ⟨t, -, rfl⟩ := gives_observe.1 ho
    obtain rfl := hnext _ _ _ hmark
    exact orderly_call hd.order hd.phase hadmits (by rcases hend with rfl | rfl <;> rfl)
      fun _ => rfl

theorem kill_order : (kill : Action (Debuggee (Observed τ)) Unit).Keeps (Preserves Orderly) := by
  refine .of_gives fun d r d' hg hd => ?_
  rw [kill, requestAlive, Action.bind_assoc, gives_ensureAlive_bind] at hg
  split_ifs at hg with ha
  · refine release_order (Or.inl rfl) (fun d r d' h => ?_) hd ha hg
    rw [gives_log_bind, gives_markExited] at h
    exact h.2
  · exact hg.2 ▸ hd

theorem detachIn_order (order : List Addr) :
    (detachIn order : Action (Debuggee (Observed τ)) Unit).Keeps (Preserves Orderly) := by
  refine .of_gives fun d r d' hg hd => ?_
  rw [detachIn, gives_ensureAlive_bind] at hg
  split_ifs at hg with ha
  swap
  · exact hg.2 ▸ hd
  obtain ⟨e, hdis, -⟩ | ⟨_, d₁, hdis, hg⟩ := gives_bind.1 hg
  · exact (order_patching.disableEach order).gives hdis hd
  · have ha₁ : d₁.isAlive :=
      isAlive_iff.2 ((disableEach_state order).gives hdis ▸ isAlive_iff.1 ha)
    refine release_order (Or.inr rfl) (fun d r d' h => (gives_markExited.1 h).2) ?_ ha₁ hg
    exact (order_patching.disableEach order).gives hdis hd

/-- Moving keeps the order. -/
theorem order_moving : KeptByMoving (Preserves (Orderly (τ := τ))) where
  readRegister _ := requestAlive_order (observe_passively (by trivial) _ _)
  readMemory _ := requestAlive_order (observe_passively (by trivial) _ _)
  memoryMap := requestAlive_order (observe_passively (by trivial) _ _)
  writeRegister _ _ := requestAlive_order (observe_passively (by trivial) _ _)
  stepInstruction := .bind stepOverBreakpoint_order fun
    | none => singleStep_order
    | some _ => .pure _
  continueExecution :=
    keeps_continueExecution stepOverBreakpoint_order (runAndWait_order (Or.inl rfl))
  kill := kill_order
  detachIn := detachIn_order

end Debuggee

/-! ## Sessions -/

namespace Session

open Debuggee Observed

variable {τ : Type} [Tracee τ]

theorem orderly_after {s : Session (Observed τ)} (h : s.debuggee.Orderly)
    (is : List Interaction) : (s.after is).debuggee.Orderly := by
  refine after_keeps (R := InvImage (Preserves Orderly) Session.debuggee) ?_ s is h
  exact perform_keeps_each order_moving order_patching fun a value =>
    requestAlive_order (observe_passively (by trivial) _ _)

omit [Tracee τ] in
theorem orderly_fresh (t : τ) (resolver : Resolver) (config : Config) :
    (fresh t resolver config).observed.debuggee.Orderly :=
  ⟨trivial, rfl, nofun⟩

/-- **The requests of a session are in order.**  Of a process that was resumed
    or stepped the next request is to wait for it, whatever goes wrong, and
    nothing is asked of one that is gone.  Other requests are made only of a
    process that is known to have stopped, or that could not be waited for the
    last time. -/
theorem calls_inOrder (t : τ) (resolver : Resolver) (config : Config) (is : List Interaction) :
    let s := fresh t resolver config
    Throughout Phase.Admits .stopped (s.calls is) ∧
      (s.calls is).foldl Phase.after .stopped = (s.after is).debuggee.state.phase := by
  have h := orderly_after (orderly_fresh t resolver config) is
  refine ⟨h.order, h.phase.trans ?_⟩
  have herased := after_erased (fresh t resolver config).observed is
  exact congrArg (fun s : Session τ => s.debuggee.state.phase) herased

/-- If waiting never fails, a process is asked only while it is stopped. -/
theorem calls_whileStopped (t : τ) (resolver : Resolver) (config : Config) {is : List Interaction}
    (hwait : ∀ c ∈ (fresh t resolver config).calls is, c.request.primitive = .wait →
      ∃ report, c.answer = .ok report) :
    Throughout Phase.WhileStopped .stopped ((fresh t resolver config).calls is) :=
  (orderly_after (orderly_fresh t resolver config) is).order.whileStopped (by simp) hwait

/-- A process that cannot be waited for the first time. -/
def vanishing : Scripted :=
  { memory := ({} : Memory).setBytes 0x1000 (List.replicate 16 0x90)
    registers := RegisterFile.zero.set .rip 0x1000
    rules := [{ on := .wait, times := some 1 }] : Scripted }.flow [0x1000, 0x1001]

/-- After a step over a breakpoint that was waited for in vain, the process is
    asked to take the trap again while it may be running. -/
theorem asks_unwaited :
    let s := fresh vanishing ⟨⟨[], [], false⟩, 0⟩ {}
    ¬ Throughout Phase.WhileStopped .stopped (s.calls
      [.command (.setBreakpoint (.address 0x1000)), .command .stepInstruction]) := by
  decide +kernel

end Session

end SourceDebugger
