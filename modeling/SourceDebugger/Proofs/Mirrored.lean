/-
  Two runs that mirror each other.  The second does what the first does, with
  all addresses higher by an offset, as long as the first keeps clear of what
  would tell them apart.

  * `Link` says which states correspond and what to keep clear of, and
    `L.Mirrors f act act'` that `act'` does what `act` does: results correspond
    by `f`, the same windows are shown.  There is a rule for each building block;
  * `Link.Tracked`: the requests of the tracees that the engine is built on
    mirror each other, the program counter and the addresses being higher;
  * `Session.execute_mirrors`: if so, do the commands that move the debuggee.
    Every one of them converts an address exactly as often as it has to.
-/
import SourceDebugger.Proofs.Quiet

namespace SourceDebugger

open SourceDebugger.Action

/-! ## Higher addresses -/

/-- The failure of a run whose addresses are higher. -/
def Failure.shift (offset : Addr) : Failure → Failure
  | memoryAccess a errno => memoryAccess (a + offset) errno
  | e => e

def StopEvent.shift (offset : Addr) : StopEvent → StopEvent
  | hitBreakpoint a => hitBreakpoint (a + offset)
  | event => event

def Feedback.shift (offset : Addr) : Feedback → Feedback
  | stopped event => stopped (event.shift offset)
  | breakpointSet a => breakpointSet (a + offset)
  | failed e => failed (e.shift offset)
  | feedback => feedback

/-- A runtime address is higher, the places of the source are what they are. -/
def Command.shift (offset : Addr) : Command → Command
  | setBreakpoint (.address a) => setBreakpoint (.address (a + offset))
  | deleteBreakpoint a => deleteBreakpoint (a + offset)
  | command => command

/-- The commands that move the debuggee or change its breakpoints. -/
def Command.Moves : Command → Prop
  | .continue | .setBreakpoint _ | .deleteBreakpoint _ | .stepIn | .stepInstruction | .stepOver
  | .stepOut => True
  | _ => False

def Breakpoint.shift (offset : Addr) (b : Breakpoint) : Breakpoint := ⟨b.addr + offset, b.saved⟩

/-- The program is loaded higher. -/
def Resolver.shift (offset : Addr) (r : Resolver) : Resolver := ⟨r.info, r.loadAddress + offset⟩

/-- The result of a run whose addresses are higher. -/
def shiftResult {α β : Type} (offset : Addr) (f : α → β) : Except Failure α → Except Failure β
  | .ok a => .ok (f a)
  | .error e => .error (e.shift offset)

theorem StopEvent.shift_eq_stepped {offset : Addr} {event : StopEvent} :
    event.shift offset = stepped ↔ event = stepped := by
  cases event <;> simp [shift]

namespace Resolver

variable {offset : Addr} {r : Resolver}

/-- Loaded higher, the program counter is at the same static address. -/
theorem toStatic_shift (a : Addr) : (r.shift offset).toStatic (a + offset) = r.toStatic a := by
  rw [toStatic, toStatic, shift]
  grind

theorem toRuntime_shift (a : Addr) : (r.shift offset).toRuntime a = r.toRuntime a + offset :=
  (UInt64.add_assoc ..).symm

end Resolver

namespace BreakpointTable

/-- The second table has the breakpoints of the first, at higher addresses. -/
def Shifted (offset : Addr) (t t' : BreakpointTable) : Prop :=
  ∀ a, t'.get? (a + offset) = (t.get? a).map (·.shift offset)

variable {offset : Addr} {t t' : BreakpointTable}

theorem Shifted.contains (h : Shifted offset t t') (a : Addr) :
    t'.contains (a + offset) = t.contains a := by
  rw [contains_eq_isSome, contains_eq_isSome, h a, Option.isSome_map]

theorem Shifted.isEnabledAt (h : Shifted offset t t') (a : Addr) :
    t'.isEnabledAt (a + offset) = t.isEnabledAt a := by
  rw [BreakpointTable.isEnabledAt, BreakpointTable.isEnabledAt, h a]
  cases t.get? a <;> rfl

theorem Shifted.put (h : Shifted offset t t') (b : Breakpoint) :
    Shifted offset (t.put b) (t'.put (b.shift offset)) := by
  intro a
  rw [get?_put, get?_put, h a]
  have hb : (b.shift offset).addr = a + offset ↔ b.addr = a := UInt64.add_left_inj offset
  split_ifs with h₁ h₂ h₂
  · rfl
  · exact absurd (hb.1 h₁) h₂
  · exact absurd (hb.2 h₂) h₁
  · rfl

theorem Shifted.erase (h : Shifted offset t t') (a : Addr) :
    Shifted offset (t.erase a) (t'.erase (a + offset)) := by
  intro x
  rw [get?_erase, get?_erase, h x]
  have hx : a + offset = x + offset ↔ a = x := UInt64.add_left_inj offset
  split_ifs with h₁ h₂ h₂
  · rfl
  · exact absurd (hx.1 h₁) h₂
  · exact absurd (hx.2 h₂) h₁
  · rfl

theorem Shifted.empty : Shifted offset .empty .empty := by
  intro a
  rw [get?_empty, get?_empty]
  rfl

end BreakpointTable

/-! ## Mirroring -/

/-- What relates the states of two runs. -/
structure Link (σ σ' : Type) where
  /-- How much higher the addresses of the second run are. -/
  offset : Addr
  /-- The states correspond. -/
  rel : σ → σ' → Prop
  /-- The first run has kept clear of what would tell the runs apart. -/
  clear : σ → Prop

namespace Link

section
variable {σ σ' α α' β β' : Type} {L : Link σ σ'}

/-- Begun in corresponding states, `act` and `act'` end in corresponding ones
    with corresponding results, if `act` keeps clear. -/
structure Mirrors (L : Link σ σ') (f : α → α') (act : Action σ α) (act' : Action σ' α') : Prop where
  /-- What has not kept clear stays so. -/
  lasting (s : σ) : L.clear (act s).state → L.clear s
  result {s : σ} {s' : σ'} : L.rel s s' → L.clear (act s).state →
    (act' s').result = shiftResult L.offset f (act s).result
  state {s : σ} {s' : σ'} : L.rel s s' → L.clear (act s).state →
    L.rel (act s).state (act' s').state
  windows {s : σ} {s' : σ'} : L.rel s s' → L.clear (act s).state → act'.windows s' = act.windows s

namespace Mirrors

variable {f : α → α'} {g : β → β'} {act : Action σ α} {act' : Action σ' α'}

theorem pure (a : α) : L.Mirrors f (Pure.pure a) (Pure.pure (f a)) where
  lasting _ := id
  result _ _ := rfl
  state h _ := h
  windows _ _ := rfl

theorem fail (e : Failure) : L.Mirrors f (fail e) (fail (e.shift L.offset)) where
  lasting _ := id
  result _ _ := rfl
  state h _ := h
  windows _ _ := rfl

theorem ofExcept (r : Except Failure α) :
    L.Mirrors f (ofExcept r) (ofExcept (shiftResult L.offset f r)) where
  lasting _ := id
  result _ _ := rfl
  state h _ := h
  windows _ _ := rfl

theorem log (level : LogLevel) (source : LogSource) (message message' : String) :
    L.Mirrors id (log level source message) (log level source message') where
  lasting _ := id
  result _ _ := rfl
  state h _ := h
  windows _ _ := rfl

theorem tell (e : Event) : L.Mirrors id (tell e) (tell e) where
  lasting _ := id
  result _ _ := rfl
  state h _ := h
  windows _ _ := rfl

theorem inspect {look : σ → α} {look' : σ' → α'}
    (h : ∀ {s s'}, L.rel s s' → look' s' = f (look s)) :
    L.Mirrors f (inspect look) (inspect look') where
  lasting _ := id
  result hr _ := congrArg Except.ok (h hr)
  state hr _ := hr
  windows _ _ := rfl

theorem modify {change : σ → σ} {change' : σ' → σ'} (hc : ∀ s, L.clear (change s) → L.clear s)
    (h : ∀ {s s'}, L.rel s s' → L.rel (change s) (change' s')) :
    L.Mirrors id (modify change) (modify change') where
  lasting := hc
  result _ _ := rfl
  state hr _ := h hr
  windows _ _ := rfl

theorem attempt (h : L.Mirrors f act act') :
    L.Mirrors (shiftResult L.offset f) act.attempt act'.attempt where
  lasting := h.lasting
  result hr hc := congrArg Except.ok (h.result hr hc)
  state := h.state
  windows := h.windows

/-- What mirrors each other in every part does as a whole. -/
theorem bind {next : α → Action σ β} {next' : α' → Action σ' β'} (h : L.Mirrors f act act')
    (hn : ∀ a, L.Mirrors g (next a) (next' (f a))) :
    L.Mirrors g (act >>= next) (act' >>= next') := by
  -- the first part keeps clear if the whole does
  have hfirst (s : σ) (hc : L.clear ((act >>= next) s).state) : L.clear (act s).state := by
    rw [bind_eq] at hc
    split at hc
    · exact hc
    · exact (hn _).lasting _ hc
  have hlast {s : σ} {a : α} (ha : (act s).result = .ok a)
      (hc : L.clear ((act >>= next) s).state) : L.clear (next a (act s).state).state := by
    rwa [bind_of_ok ha] at hc
  refine ⟨fun s hc => h.lasting s (hfirst s hc), fun {s s'} hr hc => ?_, fun {s s'} hr hc => ?_,
    fun {s s'} hr hc => ?_⟩
  all_goals
    have hc₁ := hfirst s hc
    have hres := h.result hr hc₁
    rcases ha : (act s).result with e | a <;> rw [ha] at hres
  · rw [bind_of_error ha, bind_of_error hres]
    rfl
  · rw [bind_of_ok ha, bind_of_ok hres]
    exact (hn a).result (h.state hr hc₁) (hlast ha hc)
  · rw [bind_of_error ha, bind_of_error hres]
    exact h.state hr hc₁
  · rw [bind_of_ok ha, bind_of_ok hres]
    exact (hn a).state (h.state hr hc₁) (hlast ha hc)
  · rw [windows_bind, windows_bind, ha, hres, h.windows hr hc₁]
    rfl
  · rw [windows_bind, windows_bind, ha, hres, h.windows hr hc₁]
    exact congrArg _ ((hn a).windows (h.state hr hc₁) (hlast ha hc))

/-- The result of a computation is wrapped on both sides. -/
theorem map (h : L.Mirrors f act act') {wrap : α → β} {wrap' : α' → β'}
    (hw : ∀ a, wrap' (f a) = g (wrap a)) :
    L.Mirrors g (do return wrap (← act)) (do return wrap' (← act')) :=
  h.bind fun a => by
    rw [hw a]
    exact pure _

/-- What shows nothing, and does the same by itself. -/
theorem of_gives (hlast : ∀ s, L.clear (act s).state → L.clear s) (hact : act.Quiet)
    (hact' : act'.Quiet)
    (h : ∀ {s s' r t}, L.rel s s' → act.Gives s r t → L.clear t →
      ∃ t', act'.Gives s' (shiftResult L.offset f r) t' ∧ L.rel t t') :
    L.Mirrors f act act' where
  lasting := hlast
  result hr hc := by
    obtain ⟨t', ht, -⟩ := h hr (gives_self act _) hc
    exact ht.1
  state hr hc := by
    obtain ⟨t', ⟨-, rfl⟩, ht⟩ := h hr (gives_self act _) hc
    exact ht
  windows {s s'} _ _ := (hact' s').trans (hact s).symm

/-- What does the same as computations that mirror each other. -/
theorem congr {act₁ : Action σ α} {act₁' : Action σ' α'} (h : L.Mirrors f act₁ act₁')
    (hlast : ∀ s, L.clear (act s).state → L.clear s)
    (heq : ∀ {s s'}, L.rel s s' → act s = act₁ s ∧ act' s' = act₁' s') : L.Mirrors f act act' where
  lasting := hlast
  result hr hc := by
    obtain ⟨hs, hs'⟩ := heq hr
    rw [hs] at hc ⊢
    rw [hs', h.result hr hc]
  state hr hc := by
    obtain ⟨hs, hs'⟩ := heq hr
    rw [hs] at hc ⊢
    rw [hs']
    exact h.state hr hc
  windows hr hc := by
    obtain ⟨hs, hs'⟩ := heq hr
    rw [hs] at hc
    rw [Action.windows, Action.windows, hs, hs']
    exact h.windows hr hc

/-- What acts on parts of the states. -/
theorem within {ρ ρ' : Type} {K : Link ρ ρ'} {get : ρ → σ} {put : σ → ρ → ρ} {get' : ρ' → σ'}
    {put' : σ' → ρ' → ρ'} (h : L.Mirrors f act act') (ho : K.offset = L.offset)
    (hc : ∀ r s, K.clear (put s r) → L.clear s) (hc' : ∀ r, L.clear (get r) → K.clear r)
    (hget : ∀ {r r'}, K.rel r r' → L.rel (get r) (get' r'))
    (hput : ∀ {r r' s s'}, K.rel r r' → L.rel s s' → K.rel (put s r) (put' s' r')) :
    K.Mirrors f (act.within get put) (act'.within get' put') where
  lasting r hclear := hc' r (h.lasting _ (hc r _ hclear))
  result hr hclear := ho ▸ h.result (hget hr) (hc _ _ hclear)
  state hr hclear := hput hr (h.state (hget hr) (hc _ _ hclear))
  windows hr hclear := h.windows (hget hr) (hc _ _ hclear)

end Mirrors

end

/-! ## The debuggee -/

variable {τ τ' α α' : Type} {L : Link τ τ'} {f : α → α'}

/-- Debuggees in the same state, with the same breakpoints. -/
def debuggee (L : Link τ τ') : Link (Debuggee τ) (Debuggee τ') where
  offset := L.offset
  rel d d' := L.rel d.tracee d'.tracee ∧ d'.state = d.state ∧
    d.breakpoints.Shifted L.offset d'.breakpoints
  clear d := L.clear d.tracee

/-- Sessions with the same debug information and settings; the program of the
    second is loaded higher. -/
def session (L : Link τ τ') (r : Resolver) (c : Config) : Link (Session τ) (Session τ') where
  offset := L.offset
  rel s s' := L.debuggee.rel s.debuggee s'.debuggee ∧
    (s.resolver = r ∧ s'.resolver = r.shift L.offset) ∧ s.config = c ∧ s'.config = c
  clear s := L.clear s.debuggee.tracee

/-- The requests on which the moving of a debuggee is built mirror each
    other. -/
structure Tracked [Tracee τ] [Tracee τ'] (L : Link τ τ') : Prop where
  readPc : L.Mirrors (· + L.offset) (Tracee.readRegister .rip) (Tracee.readRegister .rip)
  writePc (a : Addr) :
    L.Mirrors id (Tracee.writeRegister .rip a) (Tracee.writeRegister .rip (a + L.offset))
  enable (b : Breakpoint) :
    L.Mirrors (Breakpoint.shift L.offset) b.enable (b.shift L.offset).enable
  disable (b : Breakpoint) :
    L.Mirrors (Breakpoint.shift L.offset) b.disable (b.shift L.offset).disable
  resume : L.Mirrors id Tracee.resume Tracee.resume
  step : L.Mirrors id Tracee.step Tracee.step
  wait : L.Mirrors id Tracee.wait Tracee.wait

end Link

namespace Debuggee

open Link

variable {τ τ' α α' : Type} {L : Link τ τ'} {f : α → α'}

theorem isAlive_mirrors {d : Debuggee τ} {d' : Debuggee τ'} (h : L.debuggee.rel d d') :
    d'.isAlive = d.isAlive := by
  rw [isAlive, isAlive, h.2.1]

theorem request_mirrors {act : Action τ α} {act' : Action τ' α'} (h : L.Mirrors f act act') :
    L.debuggee.Mirrors f (request act) (request act') :=
  .within h rfl (fun _ _ => id) (fun _ => id) (fun hr => hr.1) fun hr ht => ⟨ht, hr.2⟩

theorem ensureAlive_mirrors :
    L.debuggee.Mirrors id (ensureAlive : Action (Debuggee τ) Unit) ensureAlive where
  lasting _ := id
  result {d d'} h _ := by
    simp only [ensureAlive, isAlive_mirrors h]
    split_ifs <;> rfl
  state h _ := h
  windows _ _ := rfl

theorem requestAlive_mirrors {act : Action τ α} {act' : Action τ' α'} (h : L.Mirrors f act act') :
    L.debuggee.Mirrors f (requestAlive act) (requestAlive act') :=
  .bind ensureAlive_mirrors fun _ => request_mirrors h

theorem setState_mirrors (state : ProcessState) :
    L.debuggee.Mirrors id (setState state : Action (Debuggee τ) Unit) (setState state) :=
  .modify (fun _ => id) fun h => ⟨h.1, rfl, h.2.2⟩

theorem markExited_mirrors :
    L.debuggee.Mirrors id (markExited : Action (Debuggee τ) Unit) markExited :=
  .modify (fun _ => id) fun h => ⟨h.1, rfl, .empty⟩

/-- What patching makes of a breakpoint is put into both tables. -/
theorem put_mirrors {act : Action τ Breakpoint} {act' : Action τ' Breakpoint}
    (h : L.Mirrors (Breakpoint.shift L.offset) act act') :
    L.debuggee.Mirrors id
      (do
        let b ← request act
        modify fun d => { d with breakpoints := d.breakpoints.put b })
      (do
        let b ← request act'
        modify fun d => { d with breakpoints := d.breakpoints.put b }) :=
  .bind (request_mirrors h) fun b => .modify (fun _ => id) fun hr => ⟨hr.1, hr.2.1, hr.2.2.put b⟩

theorem lookup_mirrors (a : Addr) :
    L.debuggee.Mirrors (Option.map (Breakpoint.shift L.offset))
      (inspect fun d => d.breakpoints.get? a)
      (inspect fun d => d.breakpoints.get? (a + L.offset)) :=
  .inspect fun h => h.2.2 a

theorem contains_mirrors (a : Addr) :
    L.debuggee.Mirrors id (inspect fun d => d.breakpoints.contains a)
      (inspect fun d => d.breakpoints.contains (a + L.offset)) :=
  .inspect fun h => h.2.2.contains a

variable [Tracee τ] [Tracee τ'] (hL : L.Tracked)
include hL

theorem enableAt_mirrors (a : Addr) :
    L.debuggee.Mirrors id (enableAt a) (enableAt (a + L.offset)) :=
  .bind (lookup_mirrors a) fun
    | none => .pure ()
    | some b => put_mirrors (hL.enable b)

theorem disableAt_mirrors (a : Addr) :
    L.debuggee.Mirrors id (disableAt a) (disableAt (a + L.offset)) :=
  .bind (lookup_mirrors a) fun
    | none => .pure ()
    | some b => put_mirrors (hL.disable b)

theorem insertBreakpoint_mirrors (a : Addr) :
    L.debuggee.Mirrors id (insertBreakpoint a) (insertBreakpoint (a + L.offset)) := by
  refine .bind (lookup_mirrors a) fun b => ?_
  rcases b with _ | ⟨addr, _ | byte⟩
  · refine .bind (request_mirrors (hL.enable ⟨a, none⟩)) fun b => ?_
    exact .bind (.modify (fun _ => id) fun hr => ⟨hr.1, hr.2.1, hr.2.2.put b⟩) fun _ => .pure _
  · exact .bind (enableAt_mirrors hL a) fun _ => .bind (.log _ _ _ _) fun _ => .pure _
  · exact .bind (.log _ _ _ _) fun _ => .pure _

theorem eraseBreakpoint_mirrors (a : Addr) :
    L.debuggee.Mirrors id (eraseBreakpoint a) (eraseBreakpoint (a + L.offset)) := by
  have hforget : L.debuggee.Mirrors id
      (modify fun d => { d with breakpoints := d.breakpoints.erase a })
      (modify fun d => { d with breakpoints := d.breakpoints.erase (a + L.offset) }) :=
    .modify (fun _ => id) fun hr => ⟨hr.1, hr.2.1, hr.2.2.erase a⟩
  refine .bind (lookup_mirrors a) fun b => ?_
  rcases b with _ | ⟨addr, _ | byte⟩
  · exact .log _ _ _ _
  · exact hforget
  · exact .bind (disableAt_mirrors hL a) fun _ => hforget

theorem setBreakpoint_mirrors (a : Addr) :
    L.debuggee.Mirrors id (setBreakpoint a) (setBreakpoint (a + L.offset)) := by
  refine .bind ensureAlive_mirrors fun _ => .bind (insertBreakpoint_mirrors hL a) fun added => ?_
  cases added
  · exact .pure _
  · exact .bind (.log _ _ _ _) fun _ => .pure _

theorem removeBreakpoint_mirrors (a : Addr) :
    L.debuggee.Mirrors id (removeBreakpoint a) (removeBreakpoint (a + L.offset)) :=
  .bind ensureAlive_mirrors fun _ => eraseBreakpoint_mirrors hL a

theorem pc_mirrors : L.debuggee.Mirrors (· + L.offset) pc pc := requestAlive_mirrors hL.readPc

theorem classifyTrap_mirrors (code : Int) :
    L.debuggee.Mirrors (StopEvent.shift L.offset) (classifyTrap code) (classifyTrap code) := by
  unfold classifyTrap
  split_ifs
  · refine .bind (pc_mirrors hL) fun here => ?_
    have hback : here + L.offset - trapWidth = here - trapWidth + L.offset := by
      rw [UInt64.sub_eq_add_neg, UInt64.sub_eq_add_neg, UInt64.add_assoc, UInt64.add_assoc,
        UInt64.add_comm L.offset]
    dsimp only
    rw [hback]
    refine .bind (contains_mirrors _) fun known => ?_
    cases known
    · exact .bind (.log _ _ _ _) fun _ => .pure (StopEvent.otherTrap code)
    · exact .bind (requestAlive_mirrors (hL.writePc _)) fun _ => .pure (StopEvent.hitBreakpoint _)
  · exact .pure StopEvent.stepped
  · exact .bind (.log _ _ _ _) fun _ => .pure (StopEvent.otherTrap code)

theorem waitForStop_mirrors :
    L.debuggee.Mirrors (StopEvent.shift L.offset) waitForStop waitForStop := by
  have hclassify (report : Report) :
      L.debuggee.Mirrors (StopEvent.shift L.offset) (classify report) (classify report) := by
    cases report with
    | exited code => exact .bind markExited_mirrors fun _ => .pure (StopEvent.exited code)
    | killed signal => exact .bind markExited_mirrors fun _ => .pure (StopEvent.killed signal)
    | signal signal code =>
      refine .bind (setState_mirrors .stopped) fun _ => ?_
      split_ifs
      · exact classifyTrap_mirrors hL code
      · exact .pure (StopEvent.crashed code)
      · exact .pure (StopEvent.otherSignal signal)
  rw [waitForStop_eq, waitForStop_eq]
  refine .bind (.bind (request_mirrors hL.wait) hclassify) fun event => ?_
  exact .bind (.log _ _ _ _) fun _ => .pure event

theorem runAndWait_mirrors {act : Action τ Unit} {act' : Action τ' Unit}
    (h : L.Mirrors id act act') :
    L.debuggee.Mirrors (StopEvent.shift L.offset) (runAndWait act) (runAndWait act') :=
  .bind (request_mirrors h) fun _ => .bind (setState_mirrors .running) fun _ =>
    waitForStop_mirrors hL

theorem singleStep_mirrors :
    L.debuggee.Mirrors (StopEvent.shift L.offset) singleStep singleStep := by
  rw [singleStep_eq, singleStep_eq]
  exact .bind ensureAlive_mirrors fun _ => runAndWait_mirrors hL hL.step

theorem stepOverBreakpoint_mirrors :
    L.debuggee.Mirrors (Option.map (StopEvent.shift L.offset)) stepOverBreakpoint
      stepOverBreakpoint := by
  have henabled (a : Addr) : L.debuggee.Mirrors id (inspect fun d => d.breakpoints.isEnabledAt a)
      (inspect fun d => d.breakpoints.isEnabledAt (a + L.offset)) :=
    .inspect fun h => h.2.2.isEnabledAt a
  have hevent (event : Except Failure StopEvent) :
      L.debuggee.Mirrors (Option.map (StopEvent.shift L.offset))
        (do return some (← .ofExcept event))
        (do return some (← .ofExcept (shiftResult L.offset (StopEvent.shift L.offset) event))) :=
    .map (.ofExcept event) fun _ => rfl
  refine .bind (pc_mirrors hL) fun here => .bind (henabled here) fun enabled => ?_
  cases enabled
  · exact .pure none
  refine .bind (.log _ _ _ _) fun _ => .bind (disableAt_mirrors hL here) fun _ => ?_
  refine .bind (.attempt (singleStep_mirrors hL)) fun event => ?_
  refine .bind (f := id) (.inspect fun h => isAlive_mirrors h) fun alive => ?_
  cases alive
  · exact hevent event
  · exact .bind (enableAt_mirrors hL here) fun _ => hevent event

theorem stepInstruction_mirrors :
    L.debuggee.Mirrors (StopEvent.shift L.offset) stepInstruction stepInstruction :=
  .bind (stepOverBreakpoint_mirrors hL) fun
    | some event => .pure event
    | none => singleStep_mirrors hL

theorem continueExecution_mirrors :
    L.debuggee.Mirrors (StopEvent.shift L.offset) continueExecution continueExecution := by
  refine .bind ensureAlive_mirrors fun _ => .bind (stepOverBreakpoint_mirrors hL) fun event => ?_
  have hrun := runAndWait_mirrors hL hL.resume
  rcases event with _ | event
  · exact hrun
  cases event with
  | stepped => exact hrun
  | _ => exact .pure _

end Debuggee

/-! ## The session -/

namespace Resolver

variable {σ σ' : Type} {L : Link σ σ'} (r : Resolver)

theorem found_mirrors {α : Type} (what what' : String) (o : Option α)
    (h : what' = what) : L.Mirrors id (found what o) (found what' o) := by
  subst h
  cases o
  · exact .fail (.symbolNotFound what')
  · exact .pure _

theorem lineEntry_mirrors (a : Addr) :
    L.Mirrors id (r.lineEntry a) ((r.shift L.offset).lineEntry a) :=
  .bind (found_mirrors _ _ (r.lineEntry? a) rfl) fun _ => .bind (.log _ _ _ _) fun _ => .pure _

theorem functionContaining_mirrors (a : Addr) :
    L.Mirrors id (r.functionContaining a) ((r.shift L.offset).functionContaining a) :=
  .bind (.log _ _ _ _) fun _ => found_mirrors _ _ (r.functionContaining? a) rfl

theorem functionLines_mirrors (f : Function) :
    L.Mirrors id (r.functionLines f) ((r.shift L.offset).functionLines f) :=
  found_mirrors _ _ (r.functionLines? f) rfl

/-- What is found by name is higher. -/
theorem bodyOf_mirrors (name : String) :
    ∀ candidates, L.Mirrors (· + L.offset) (r.bodyOf name candidates)
      ((r.shift L.offset).bodyOf name candidates)
  | [] => .fail (.symbolNotFound ("function " ++ name))
  | (table, f) :: candidates => by
    unfold bodyOf
    dsimp only
    split
    · exact .bind (.log _ _ _ _) fun _ => bodyOf_mirrors name candidates
    · refine .bind (.log _ _ _ _) fun _ => ?_
      rw [toRuntime_shift]
      exact .pure _

theorem addressForLine_mirrors (file : String) (line : UInt64) :
    L.Mirrors (· + L.offset) (r.addressForLine file line)
      ((r.shift L.offset).addressForLine file line) := by
  refine .bind (found_mirrors _ _ (r.statementOn? file line) rfl) fun row => ?_
  refine .bind (.log _ _ _ _) fun _ => ?_
  rw [id, toRuntime_shift]
  exact .pure _

end Resolver

namespace Session

open Link

variable {τ τ' α α' : Type} {L : Link τ τ'} {f : α → α'} {r : Resolver} {c : Config}

theorem onDebuggee_mirrors {act : Action (Debuggee τ) α} {act' : Action (Debuggee τ') α'}
    (h : L.debuggee.Mirrors f act act') :
    (L.session r c).Mirrors f (onDebuggee act) (onDebuggee act') :=
  .within h rfl (fun _ _ => id) (fun _ => id) (fun hr => hr.1) fun hr hd => ⟨hd, hr.2⟩

theorem ask_mirrors {query : Resolver → Action (Session τ) α}
    {query' : Resolver → Action (Session τ') α'}
    (h : ∀ r, (L.session r c).Mirrors f (query r) (query' (r.shift L.offset))) :
    (L.session r c).Mirrors f (ask query) (ask query') where
  lasting s := (h s.resolver).lasting s
  result {s s'} hr hc := by
    rw [ask, hr.2.1.1] at hc
    rw [ask, ask, hr.2.1.1, hr.2.1.2]
    exact (h r).result hr hc
  state {s s'} hr hc := by
    rw [ask, hr.2.1.1] at hc
    rw [ask, ask, hr.2.1.1, hr.2.1.2]
    exact (h r).state hr hc
  windows {s s'} hr hc := by
    rw [ask, hr.2.1.1] at hc
    rw [windows, windows, ask, ask, hr.2.1.1, hr.2.1.2]
    exact (h r).windows hr hc

theorem alive_mirrors : (L.session r c).Mirrors id (inspect fun s => s.debuggee.isAlive)
    (inspect fun s => s.debuggee.isAlive) :=
  .inspect fun h => Debuggee.isAlive_mirrors h.1

theorem locate_mirrors (place : Place) (h : ∀ a, place ≠ .address a) :
    (L.session r c).Mirrors (· + L.offset) (locate place) (locate place) := by
  cases place with
  | address a => exact absurd rfl (h a)
  | line file line =>
    rw [locate, locate]
    exact ask_mirrors fun r => r.addressForLine_mirrors file line
  | function name =>
    rw [locate, locate]
    exact ask_mirrors fun r => r.bodyOf_mirrors name (r.functionsNamed name)

variable [Tracee τ] [Tracee τ'] (hL : L.Tracked)
include hL

/-- The line is the same: the higher program counter belongs to the program
    that is loaded higher. -/
theorem currentLine_mirrors : (L.session r c).Mirrors id currentLine currentLine := by
  refine .bind (onDebuggee_mirrors (Debuggee.pc_mirrors hL)) fun here => ?_
  have hentry : (L.session r c).Mirrors id (ask fun r => r.lineEntry (r.toStatic here))
      (ask fun r => r.lineEntry (r.toStatic (here + L.offset))) := by
    refine ask_mirrors fun r => ?_
    rw [Resolver.toStatic_shift]
    exact r.lineEntry_mirrors _
  refine .bind (.attempt hentry) fun entry => ?_
  cases entry <;> exact .pure _

theorem presentLocation_mirrors : (L.session r c).Mirrors id presentLocation presentLocation := by
  refine .bind alive_mirrors fun alive => ?_
  cases alive
  · exact .pure ()
  refine .bind (currentLine_mirrors hL) fun entry => ?_
  cases entry
  · exact .log _ _ _ _
  · have hcontext : (L.session r c).Mirrors id (inspect fun s => s.config.contextLines)
        (inspect fun s => s.config.contextLines) :=
      .inspect fun h => by rw [h.2.2.1, h.2.2.2]; rfl
    exact .bind hcontext fun _ => .tell _

theorem setBreakpoint_mirrors {place place' : Place}
    (h : (L.session r c).Mirrors (· + L.offset) (locate place) (locate place')) :
    (L.session r c).Mirrors (· + L.offset) (setBreakpoint place) (setBreakpoint place') :=
  .bind h fun a => .bind (onDebuggee_mirrors (Debuggee.setBreakpoint_mirrors hL a)) fun _ => .pure a

/-- The place is shown once the debuggee has moved. -/
theorem moved_mirrors {act : Action (Debuggee τ) StopEvent} {act' : Action (Debuggee τ') StopEvent}
    (h : L.debuggee.Mirrors (StopEvent.shift L.offset) act act') :
    (L.session r c).Mirrors (StopEvent.shift L.offset)
      (do
        let event ← onDebuggee act
        presentLocation
        return event)
      (do
        let event ← onDebuggee act'
        presentLocation
        return event) :=
  .bind (onDebuggee_mirrors h) fun event => .bind (presentLocation_mirrors hL) fun _ => .pure event

theorem stepFrom_mirrors (start : Option SourceLocation) :
    ∀ limit, (L.session r c).Mirrors (StopEvent.shift L.offset) (stepFrom start limit)
      (stepFrom start limit)
  | 0 => .bind (presentLocation_mirrors hL) fun _ => .pure StopEvent.stepped
  | limit + 1 => by
    refine .bind (onDebuggee_mirrors (Debuggee.stepInstruction_mirrors hL)) fun event => ?_
    simp only [ne_eq, StopEvent.shift_eq_stepped]
    split_ifs
    · refine .bind (currentLine_mirrors hL) fun here => ?_
      rcases here with _ | here
      · exact stepFrom_mirrors start limit
      · dsimp only [id]
        split_ifs
        · exact stepFrom_mirrors start limit
        · exact .bind (presentLocation_mirrors hL) fun _ => .pure StopEvent.stepped
    · exact .bind (presentLocation_mirrors hL) fun _ => .pure event

theorem stepIn_mirrors : (L.session r c).Mirrors (StopEvent.shift L.offset) stepIn stepIn :=
  .bind (currentLine_mirrors hL) fun _ => .bind (.log _ _ _ _) fun _ => stepFrom_mirrors hL _ _

/-! ## Temporary breakpoints -/

/-- The breakpoints that were added are higher. -/
theorem addTemporary_mirrors : ∀ stops added, (L.session r c).Mirrors
    (fun r : List Addr × Except Failure Unit =>
      (r.1.map (· + L.offset), shiftResult L.offset id r.2))
    (addTemporary added stops)
    (addTemporary (added.map (· + L.offset)) (stops.map (· + L.offset)))
  | [], added => .pure (added, Except.ok ())
  | a :: stops, added => by
    have hthere : (L.session r c).Mirrors id (inspect fun s => s.debuggee.breakpoints.contains a)
        (inspect fun s => s.debuggee.breakpoints.contains (a + L.offset)) :=
      .inspect fun h => h.1.2.2.contains a
    refine .bind hthere fun there => ?_
    cases there
    · refine .bind (.attempt (onDebuggee_mirrors (Debuggee.setBreakpoint_mirrors hL a))) fun r => ?_
      rcases r with e | _ | _
      · exact .pure (added, Except.error e)
      · exact addTemporary_mirrors stops added
      · have hadd := addTemporary_mirrors stops (added ++ [a])
        rw [List.map_append] at hadd
        exact hadd
    · exact addTemporary_mirrors stops added

theorem removeEach_mirrors : ∀ addrs, (L.session r c).Mirrors id (removeEach addrs)
    (removeEach (addrs.map (· + L.offset)))
  | [] => .pure ()
  | a :: addrs => .bind (onDebuggee_mirrors (Debuggee.removeBreakpoint_mirrors hL a)) fun _ =>
    removeEach_mirrors addrs

theorem removeTemporary_mirrors (added : List Addr) :
    (L.session r c).Mirrors id (removeTemporary added)
      (removeTemporary (added.map (· + L.offset))) := by
  refine .bind alive_mirrors fun alive => ?_
  cases alive
  · exact .pure ()
  · exact .bind (removeEach_mirrors hL added) fun _ => .log _ _ _ _

omit hL [Tracee τ] [Tracee τ'] in
theorem relabel_shift (offset : Addr) (added : List Addr) (event : StopEvent) :
    relabel (added.map (· + offset)) (event.shift offset) = (relabel added event).shift offset := by
  cases event with
  | hitBreakpoint a =>
    have ha : a + offset ∈ added.map (· + offset) ↔ a ∈ added := by
      simp
    simp only [StopEvent.shift, relabel, ha]
    split_ifs <;> rfl
  | _ => rfl

/-- Running with temporary breakpoints at higher addresses. -/
theorem runTo_mirrors (stops : List Addr) :
    (L.session r c).Mirrors (StopEvent.shift L.offset) (runTo stops)
      (runTo (stops.map (· + L.offset))) := by
  have hready (ready : Except Failure Unit) :
      (L.session r c).Mirrors (shiftResult L.offset (StopEvent.shift L.offset)) (runReady ready)
        (runReady (shiftResult L.offset id ready)) := by
    cases ready with
    | ok _ => exact .attempt (onDebuggee_mirrors (Debuggee.continueExecution_mirrors hL))
    | error e => exact .pure (Except.error e)
  rw [runTo_eq, runTo_eq]
  refine .bind (addTemporary_mirrors hL stops []) fun (added, ready) => ?_
  refine .bind (hready ready) fun result => ?_
  refine .bind (.attempt (removeTemporary_mirrors hL added)) fun removed => ?_
  refine .bind (.ofExcept result) fun event => .bind (.ofExcept removed) fun _ => ?_
  refine .bind (presentLocation_mirrors hL) fun _ => ?_
  rw [relabel_shift]
  exact .pure _

section
variable (hret : (L.session r c).Mirrors (· + L.offset) returnAddress returnAddress)
include hret

theorem nextStops_mirrors :
    (L.session r c).Mirrors (List.map (· + L.offset)) nextStops nextStops := by
  refine .bind (onDebuggee_mirrors (Debuggee.pc_mirrors hL)) fun here => ?_
  have hstatic : (L.session r c).Mirrors id (inspect fun s => s.resolver.toStatic here)
      (inspect fun s => s.resolver.toStatic (here + L.offset)) := by
    refine .inspect fun h => ?_
    rw [h.2.1.1, h.2.1.2, Resolver.toStatic_shift]
    rfl
  refine .bind hstatic fun static => ?_
  refine .bind (ask_mirrors fun r => r.functionContaining_mirrors static) fun f => ?_
  refine .bind (ask_mirrors fun r => r.lineEntry_mirrors static) fun start => ?_
  refine .bind (ask_mirrors fun r => r.functionLines_mirrors f) fun rows => ?_
  have htargets (others : List LineEntry) : (L.session r c).Mirrors (List.map (· + L.offset))
      (inspect fun s => others.map fun e => s.resolver.toRuntime e.address)
      (inspect fun s => others.map fun e => s.resolver.toRuntime e.address) := by
    refine .inspect fun h => ?_
    simp only [h.2.1.1, h.2.1.2, Resolver.toRuntime_shift, List.map_map]
    rfl
  refine .bind (htargets _) fun targets => .bind hret fun a => ?_
  refine .bind (.log _ _ _ _) fun _ => ?_
  rw [show targets.map (· + L.offset) ++ [a + L.offset] = (targets ++ [a]).map (· + L.offset) by
    simp]
  exact .pure _

theorem stepOver_mirrors :
    (L.session r c).Mirrors (StopEvent.shift L.offset) stepOver stepOver := by
  rw [stepOver_eq, stepOver_eq]
  exact .bind (nextStops_mirrors hL hret) fun stops => runTo_mirrors hL stops

theorem stepOut_mirrors : (L.session r c).Mirrors (StopEvent.shift L.offset) stepOut stepOut :=
  .bind hret fun a => .bind (.log _ _ _ _) fun _ => runTo_mirrors hL [a]

/-! ## Commands -/

/-- **Commands commute with loading the program higher.**  If the requests that
    move a process mirror each other, so do the commands. -/
theorem execute_mirrors {command : Command} (hc : command.Moves) :
    (L.session r c).Mirrors (Feedback.shift L.offset) (execute command)
      (execute (command.shift L.offset)) := by
  cases command with
  | «continue» =>
    exact .bind (.log _ _ _ _) fun _ =>
      .map (moved_mirrors hL (Debuggee.continueExecution_mirrors hL)) fun _ => rfl
  | setBreakpoint place =>
    cases place with
    | address a =>
      exact .bind (.log _ _ _ _) fun _ => .map (setBreakpoint_mirrors hL (.pure a)) fun _ => rfl
    | line file line =>
      exact .bind (.log _ _ _ _) fun _ =>
        .map (setBreakpoint_mirrors hL (locate_mirrors _ (by simp))) fun _ => rfl
    | function name =>
      exact .bind (.log _ _ _ _) fun _ =>
        .map (setBreakpoint_mirrors hL (locate_mirrors _ (by simp))) fun _ => rfl
  | deleteBreakpoint a =>
    exact .bind (.log _ _ _ _) fun _ =>
      .bind (onDebuggee_mirrors (Debuggee.removeBreakpoint_mirrors hL a)) fun _ => .pure Feedback.ok
  | stepIn => exact .bind (.log _ _ _ _) fun _ => .map (stepIn_mirrors hL) fun _ => rfl
  | stepInstruction =>
    exact .bind (.log _ _ _ _) fun _ =>
      .map (moved_mirrors hL (Debuggee.stepInstruction_mirrors hL)) fun _ => rfl
  | stepOver => exact .bind (.log _ _ _ _) fun _ => .map (stepOver_mirrors hL hret) fun _ => rfl
  | stepOut => exact .bind (.log _ _ _ _) fun _ => .map (stepOut_mirrors hL hret) fun _ => rfl
  | _ => cases hc

end

end Session

end SourceDebugger
