/-
  Sessions with a program that is loaded higher.

  * `Call.touched` are the addresses that a request patches or executes, and a
    record `Spares` the return address if it touches none of its bytes;
  * `relocation` links an observed process with the same one at higher
    addresses; their requests mirror each other (`relocation_tracked`), and they
    return to addresses that differ by the offset
    (`Session.returnAddress_relocated`);
  * `Session.commutes_with_relocation`: so do whole sessions.
-/
import SourceDebugger.Proofs.Observed
import SourceDebugger.Proofs.Shifted
import SourceDebugger.Proofs.Stops

namespace SourceDebugger

open SourceDebugger.Action

/-- What comes second matters only for the results there are. -/
theorem Action.bind_congr {σ α β : Type} {act : Action σ α} {next next' : α → Action σ β} {s : σ}
    (h : ∀ a, (act s).result = .ok a → next a = next' a) :
    (act >>= next) s = (act >>= next') s := by
  rw [bind_eq, bind_eq]
  split
  · rfl
  · rename_i a ha
    rw [h a ha]

/-! ## Touching -/

/-- The addresses at which a request that succeeds patches the process or lets
    it execute an instruction.  A word is written to patch its first byte. -/
def Call.touched (c : Call Simulated) : List Addr :=
  match c.request.primitive, c.answer with
  | .writeWord, .ok _ => c.request.addr.toList
  | .step, .ok _ => [c.before.pc]
  | .resume, .ok _ => c.before.visited Simulated.runLimit
  | _, _ => []

namespace Observed

/-- No byte of the word at `slot` was touched. -/
def Spares (slot : Addr) (calls : List (Call Simulated)) : Prop :=
  ∀ c ∈ calls, ∀ a ∈ c.touched, ¬ Addr.InWord slot a

instance (slot : Addr) (calls : List (Call Simulated)) : Decidable (Spares slot calls) :=
  have (c : Call Simulated) : Decidable (∀ a ∈ c.touched, ¬ Addr.InWord slot a) :=
    List.decidableBAll _ _
  List.decidableBAll _ _

variable {o o' : Observed Simulated} {slot a : Addr}

theorem Spares.before {calls calls' : List (Call Simulated)} (h : Spares slot calls')
    (hp : calls <+: calls') : Spares slot calls :=
  fun c hc => h c (hp.subset hc)

theorem rewrite_touches {f : Word → Word} {found patched : Word → String} {made : Word → Breakpoint}
    {b : Breakpoint}
    (hg : (do
      let w ← Tracee.readWord a
      log .trace .breakpoint (found w)
      log .trace .breakpoint (patched w)
      Tracee.writeWord a (f w)
      return made w : Action (Observed Simulated) Breakpoint).Gives o (.ok b) o') :
    ∃ c ∈ o'.calls, a ∈ c.touched := by
  obtain ⟨w, o₁, -, hg⟩ := gives_bind_ok.1 hg
  rw [gives_log_bind, gives_log_bind] at hg
  obtain ⟨_, o₂, hwrite, hg⟩ := gives_bind_ok.1 hg
  obtain ⟨-, rfl⟩ := gives_pure.1 hg
  obtain ⟨t, -, rfl⟩ := gives_observe.1 hwrite
  exact ⟨_, List.mem_append_right _ (List.mem_singleton_self _), List.mem_singleton_self a⟩

/-- To enable a breakpoint touches its address. -/
theorem enable_touches {b b' : Breakpoint} (hg : b.enable.Gives o (.ok b') o') :
    ∃ c ∈ o'.calls, b.addr ∈ c.touched := by
  unfold Breakpoint.enable at hg
  split_ifs at hg
  · cases (gives_fail.1 hg).1
  · exact rewrite_touches hg

theorem disable_touches {b b' : Breakpoint} (hg : b.disable.Gives o (.ok b') o') :
    ∃ c ∈ o'.calls, b.addr ∈ c.touched := by
  unfold Breakpoint.disable at hg
  split at hg
  · cases (gives_fail.1 hg).1
  · exact rewrite_touches hg

theorem enable_grows (b : Breakpoint) :
    (b.enable : Action (Observed Simulated) Breakpoint).Keeps Grows :=
  b.enable_keeps (fun _ => observe_grows _ _ _) fun _ _ => observe_grows _ _ _

theorem disable_grows (b : Breakpoint) :
    (b.disable : Action (Observed Simulated) Breakpoint).Keeps Grows :=
  b.disable_keeps (fun _ => observe_grows _ _ _) fun _ _ => observe_grows _ _ _

end Observed

/-! ## Two processes -/

open Observed Simulated

/-- An observed process whose frame is at `frame`, and the same one at higher
    addresses. -/
def relocation (offset frame : Addr) : Link (Observed Simulated) Simulated where
  offset := offset
  rel o q := Shifted offset frame o.tracee q
  clear o := Spares (slot frame) o.calls

section
variable {offset frame : Addr} {α α' : Type} {f : α → α'}

/-- A request that both processes answer alike. -/
theorem observe_relocated {request : Request} {act : Action Simulated α}
    {act' : Action Simulated α'} {report? : α → Option Report} (hact : act.Quiet)
    (hact' : act'.Quiet)
    (h : ∀ {p q r p'}, Shifted offset frame p q → act.Gives p r p' →
      (∀ a ∈ (⟨p, request, r.map report?⟩ : Call Simulated).touched,
        ¬ Addr.InWord (slot frame) a) →
      ∃ q', act'.Gives q (shiftResult offset f r) q' ∧ Shifted offset frame p' q') :
    (relocation offset frame).Mirrors f (observe request act report?) act' := by
  refine .of_gives (fun o ho => ho.before (observe_grows _ _ _ o)) (fun o => hact o.tracee) hact' ?_
  intro o q r o' hr hg hclear
  obtain ⟨p', hp, rfl⟩ := gives_observe.1 hg
  exact h hr hp (hclear _ (List.mem_append_right _ (List.mem_singleton_self _)))

/-- A request of a process that is there. -/
theorem whileAlive_relocated {request : Request} {g : Simulated → α × Simulated}
    {g' : Simulated → α' × Simulated} {report? : α → Option Report}
    (h : ∀ {p q}, Shifted offset frame p q →
      (∀ a ∈ (⟨p, request, .ok (report? (g p).1)⟩ : Call Simulated).touched,
        ¬ Addr.InWord (slot frame) a) →
      (g' q).1 = f (g p).1 ∧ Shifted offset frame (g p).2 (g' q).2) :
    (relocation offset frame).Mirrors f (observe request (whileAlive g) report?)
      (whileAlive g') := by
  refine observe_relocated (whileAlive_quiet g) (whileAlive_quiet g')
    fun {p q r p'} hr hg hclear => ?_
  rw [gives_whileAlive] at hg
  simp only [gives_whileAlive, hr.isAlive]
  split_ifs at hg ⊢
  · obtain ⟨rfl, rfl⟩ := hg
    obtain ⟨hresult, hstate⟩ := h hr hclear
    exact ⟨_, ⟨by rw [shiftResult, hresult], rfl⟩, hstate⟩
  · obtain ⟨rfl, rfl⟩ := hg
    exact ⟨q, ⟨rfl, rfl⟩, hr⟩

/-- Patching at higher addresses. -/
theorem patch_relocated {b : Breakpoint} {act act' : Action Simulated Breakpoint}
    {watched : Action (Observed Simulated) Breakpoint} (herased : erasing.Mirrors id watched act)
    (hgrows : watched.Keeps Grows) (hquiet : watched.Quiet)
    (hquiet' : act'.Quiet)
    (htouch : ∀ {o b' o'}, watched.Gives o (.ok b') o' → ∃ c ∈ o'.calls, b.addr ∈ c.touched)
    (h : ∀ {p q r p'}, Shifted offset frame p q → act.Gives p r p' →
      (∀ b', r = .ok b' → ¬ Addr.InWord (slot frame) b.addr) →
      ∃ q', act'.Gives q (shiftResult offset (Breakpoint.shift offset) r) q' ∧
        Shifted offset frame p' q') :
    (relocation offset frame).Mirrors (Breakpoint.shift offset) watched act' := by
  refine .of_gives (fun o ho => ho.before (hgrows o)) hquiet hquiet' ?_
  intro o q r o' hr hg hclear
  refine h hr (gives_erased herased hg) fun b' hb => ?_
  subst hb
  obtain ⟨c, hc, ha⟩ := htouch hg
  exact hclear c hc _ ha

theorem relocation_tracked (offset frame : Addr) : (relocation offset frame).Tracked where
  readPc := whileAlive_relocated fun hr _ => ⟨hr.pc, hr⟩
  writePc a := whileAlive_relocated fun hr _ => ⟨rfl, hr.setPc a⟩
  enable b := patch_relocated (enable_mirrors b) (enable_grows b) (Breakpoint.enable_quiet b)
    (Breakpoint.enable_quiet _) enable_touches fun hr hg => hr.enable hg
  disable b := patch_relocated (disable_mirrors b) (disable_grows b) (Breakpoint.disable_quiet b)
    (Breakpoint.disable_quiet _) disable_touches fun hr hg => hr.disable hg
  resume := whileAlive_relocated fun hr hclear => ⟨rfl, hr.run hclear⟩
  step := whileAlive_relocated fun hr hclear =>
    ⟨rfl, hr.stepOnce (hclear _ (List.mem_singleton_self _))⟩
  wait := observe_relocated QuietTracee.wait QuietTracee.wait fun {p q r p'} hr hg _ => by
    obtain ⟨rfl, rfl⟩ := hg
    have hq : (takePending q).result = shiftResult offset id (takePending p).result ∧
        Shifted offset frame (takePending p).state (takePending q).state := by
      unfold takePending
      rw [hr.pending]
      rcases p.pending with _ | stop
      · exact ⟨rfl, hr⟩
      · exact ⟨rfl, { hr with pending := rfl }⟩
    exact ⟨_, ⟨hq.1, rfl⟩, hq.2⟩

end

/-! ## Return addresses -/

namespace Session

variable {s : Session (Observed Simulated)} {s' : Session Simulated} {offset frame : Addr}
  {r : Resolver} {c : Config}

/-- The word above the frame has an address. -/
def Addressable (frame : Addr) : Prop :=
  Addr.checkedAdd frame returnAddressOffset = some (slot frame)

instance (frame : Addr) : Decidable (Addressable frame) := inferInstanceAs (Decidable (_ = _))

theorem readCaller_relocated :
    (relocation offset frame).Mirrors (· + offset) (Tracee.readWord (slot frame))
      (Tracee.readWord (slot frame + offset)) := by
  refine observe_relocated (QuietTracee.readWord _) (QuietTracee.readWord _)
    fun {p q result p'} hr hg _ => ?_
  obtain ⟨rfl, rfl⟩ := hg
  have hread : (readWord (slot frame + offset) q).result =
        shiftResult offset (· + offset) (readWord (slot frame) p).result ∧
      Shifted offset frame (readWord (slot frame) p).state
        (readWord (slot frame + offset) q).state := by
    unfold readWord
    rw [hr.isAlive, hr.caller]
    split_ifs
    · exact ⟨rfl, hr⟩
    · cases p.memory.getWord? (slot frame) <;> exact ⟨rfl, hr⟩
  exact ⟨_, ⟨hread.1, rfl⟩, hread.2⟩

theorem readSized_relocated :
    (relocation offset frame).debuggee.Mirrors (· + offset) (Debuggee.readSized (slot frame) 8)
      (Debuggee.readSized (slot frame + offset) 8) := by
  have hmask (w : Word) : w &&& 0xffffffffffffffff = w := UInt64.and_neg_one
  unfold Debuggee.readSized
  rw [show Debuggee.sizeMask? 8 = some 0xffffffffffffffff from rfl]
  simp only [hmask]
  exact .bind (Debuggee.requestAlive_mirrors readCaller_relocated) fun _ =>
    .bind (.log _ _ _ _) fun _ => .pure _

/-- What is read of a register is what the tracee answers. -/
theorem answer_of_readRegister {τ : Type} [Tracee τ] {s : Session τ} {reg : Register} {w : UInt64}
    (h : (onDebuggee (Debuggee.readRegister reg) s).result = .ok w) :
    ∃ t, (Tracee.readRegister reg).Gives s.debuggee.tracee (.ok w) t := by
  obtain ⟨d, hd, -⟩ := gives_onDebuggee.1 ⟨h, rfl⟩
  rw [Debuggee.readRegister, Debuggee.gives_requestAlive] at hd
  split_ifs at hd
  · obtain ⟨t, ht, -⟩ := Debuggee.gives_request.1 hd
    exact ⟨t, ht⟩
  · cases hd.1

theorem readRegister_value {p q : Simulated} {reg : Register} {w : UInt64}
    (h : (Tracee.readRegister reg).Gives p (.ok w) q) : w = p.registers.get reg := by
  rw [show (Tracee.readRegister reg : Action Simulated UInt64) =
    whileAlive fun p => (p.registers.get reg, p) from rfl, gives_whileAlive] at h
  split_ifs at h
  · exact Except.ok.inj h.1
  · cases h.1

/-- Reads the address to return to from its place above the frame. -/
def readCaller {τ : Type} [Tracee τ] (frame place : Addr) : Action (Session τ) Addr := do
  let a ← onDebuggee (Debuggee.readSized place 8)
  .log .trace .engine
    ("return address of the frame at " ++ Addr.padded frame ++ ": " ++ Addr.brief a)
  return a

/-- If the frame is known, so is the place above it. -/
theorem returnAddress_eq {τ : Type} [Tracee τ] {s : Session τ} (hframe : Addressable frame)
    (hread : ∀ a, (onDebuggee (Debuggee.readRegister .rbp) s).result = .ok a → a = frame) :
    returnAddress s =
      (onDebuggee (Debuggee.readRegister .rbp) >>= fun _ => readCaller frame (slot frame)) s := by
  refine bind_congr fun a ha => ?_
  rw [hread a ha, hframe]
  rfl

/-- Where both return to. -/
theorem returnAddress_relocated (hframe : Addressable frame)
    (hframe' : Addressable (frame + offset)) :
    ((relocation offset frame).session r c).Mirrors (· + offset) returnAddress returnAddress := by
  have hread : ((relocation offset frame).session r c).Mirrors (· + offset)
      (onDebuggee (Debuggee.readRegister .rbp)) (onDebuggee (Debuggee.readRegister .rbp)) := by
    refine onDebuggee_mirrors (Debuggee.requestAlive_mirrors (whileAlive_relocated fun hr _ => ?_))
    exact ⟨by rw [hr.framePointer, hr.framePointer_shift], hr⟩
  have hslot : slot (frame + offset) = slot frame + offset := by
    rw [slot, slot, UInt64.add_assoc, UInt64.add_comm offset, UInt64.add_assoc]
  have hcaller : ((relocation offset frame).session r c).Mirrors (· + offset)
      (readCaller frame (slot frame)) (readCaller (frame + offset) (slot (frame + offset))) := by
    rw [hslot]
    exact .bind (onDebuggee_mirrors readSized_relocated) fun _ =>
      .bind (.log _ _ _ _) fun _ => .pure _
  -- a session whose frame is another one has kept clear of nothing either
  have hgrows {α : Type} {request : Request} {act : Action Simulated α}
      {report? : α → Option Report} :
      (Debuggee.requestAlive (observe request act report?)).Keeps
        (InvImage Grows Debuggee.tracee) :=
    Debuggee.requestAlive_keeps (Debuggee.request_keeps (observe_grows _ _ _))
  have hreading : Debuggee.KeptByReading
      (InvImage Grows (Debuggee.tracee (τ := Observed Simulated))) :=
    ⟨fun _ => hgrows, fun _ => hgrows, hgrows⟩
  refine .congr (hread.bind fun _ => hcaller)
    (fun s hc => hc.before (returnAddress_keeps hreading s)) fun {s s'} hr =>
      ⟨returnAddress_eq hframe fun a ha => ?_, returnAddress_eq hframe' fun a ha => ?_⟩
  · obtain ⟨o, ho⟩ := answer_of_readRegister ha
    obtain ⟨q, hq, -⟩ := gives_observe.1 ho
    exact (readRegister_value hq).trans hr.1.1.framePointer
  · obtain ⟨q, hq⟩ := answer_of_readRegister ha
    exact (readRegister_value hq).trans hr.1.1.framePointer_shift

/-! ## Whole sessions -/

theorem loadAddress?_ne_none {m : MemoryMap} (h : m.regions ≠ []) (exe : Option String) :
    m.loadAddress? exe ≠ none := by
  obtain ⟨region, regions, hm⟩ := List.exists_cons_of_ne_nil h
  rw [MemoryMap.loadAddress?, hm, List.head?_cons, Ne, Option.map_eq_none_iff,
    Option.or_eq_none_iff]
  simp

/-- The program is where the memory map has it, if that can be read. -/
theorem gives_findLoadAddress {info : DebugInfo} {p q : Simulated} {a : Addr}
    (hinfo : info.positionIndependent) (hmap : p.map.regions ≠ []) :
    (findLoadAddress info c).Gives p (.ok a) q ↔
      (p.isAlive ∧ p.failMaps = false) ∧
        p.map.loadAddress? (Tracee.executable? p) = some a ∧ q = p := by
  rw [findLoadAddress, if_pos hinfo, gives_attempt_bind]
  by_cases hp : p.isAlive ∧ p.failMaps = false
  · have hread : (Tracee.memoryMap : Action Simulated MemoryMap).Gives p (.ok p.map) p := by
      show readMap.Gives p _ _
      simp [Gives, readMap, hp]
    constructor
    · rintro ⟨map, q₁, hgives, hnext⟩
      obtain ⟨rfl, rfl⟩ := hgives.unique hread
      dsimp only at hnext
      rw [gives_inspect_bind] at hnext
      split at hnext
      · rename_i a' ha'
        obtain ⟨ha, rfl⟩ := gives_pure.1 hnext
        exact ⟨hp, ha'.trans (congrArg some (Except.ok.inj ha).symm), rfl⟩
      · rename_i hnone
        exact absurd hnone (loadAddress?_ne_none hmap _)
    · rintro ⟨-, ha, rfl⟩
      refine ⟨_, _, hread, gives_inspect_bind.2 ?_⟩
      rw [ha]
      exact gives_pure.2 ⟨rfl, rfl⟩
  · constructor
    · rintro ⟨map, q₁, hgives, hnext⟩
      have herror : ∃ e, map = .error e := by
        obtain ⟨rfl, -⟩ := hgives
        show ∃ e, (readMap p).result = .error e
        unfold readMap
        rw [not_and_or] at hp
        split_ifs with h₁ h₂
        · exact ⟨_, rfl⟩
        · exact ⟨_, rfl⟩
        · simp at h₁ h₂
          simp [h₁, h₂] at hp
      obtain ⟨e, rfl⟩ := herror
      dsimp only at hnext
      rw [gives_log_bind] at hnext
      obtain ⟨_, q₂, -, hfail⟩ := gives_bind_ok.1 hnext
      cases (gives_fail.1 hfail).1
    · rintro ⟨h, -⟩
      exact absurd h hp

/-- The program that is loaded higher is found there. -/
theorem attach_relocated {info : DebugInfo} {p p₁ : Simulated} {s : Session Simulated}
    (offset : Addr) (hinfo : info.positionIndependent) (hmap : p.map.regions ≠ [])
    (h : (attach info c).Gives p (.ok s) p₁) :
    ∃ a, s = fresh p ⟨info, a⟩ c ∧
      (attach info c).Gives (p.shift offset) (.ok (fresh (p.shift offset) ⟨info, a + offset⟩ c))
        (p.shift offset) := by
  obtain ⟨a, q, hfind, hrest⟩ := gives_bind_ok.1 h
  obtain ⟨hp, ha, rfl⟩ := (gives_findLoadAddress hinfo hmap).1 hfind
  rw [gives_inspect_bind, gives_log_bind, gives_inspect] at hrest
  obtain ⟨hs, -⟩ := hrest
  have hmap' : (q.shift offset).map.regions ≠ [] := by
    simpa [Simulated.shift, MemoryMap.shift] using hmap
  have ha' : (q.shift offset).map.loadAddress? (Tracee.executable? (q.shift offset)) =
      some (a + offset) :=
    (q.map.loadAddress?_shift offset _).trans (congrArg (Option.map (· + offset)) ha)
  refine ⟨a, Except.ok.inj hs, ?_⟩
  refine ((gives_findLoadAddress hinfo hmap').2 ⟨hp, ha', rfl⟩).bind ?_
  rw [gives_inspect_bind, gives_log_bind]
  exact gives_inspect.2 ⟨rfl, rfl⟩

section
variable {τ τ' : Type} [Tracee τ] [Tracee τ'] {L : Link τ τ'} (hL : L.Tracked)
  (hret : (L.session r c).Mirrors (· + L.offset) returnAddress returnAddress)
include hL hret

/-- What mirrors each other does so for any number of commands. -/
theorem after_mirrors {commands : List Command} (hmoves : ∀ x ∈ commands, x.Moves)
    (t : Session τ) (t' : Session τ') :
    (L.clear (t.after (commands.map .command)).debuggee.tracee → L.clear t.debuggee.tracee) ∧
      ((L.session r c).rel t t' → L.clear (t.after (commands.map .command)).debuggee.tracee →
        (L.session r c).rel (t.after (commands.map .command))
          (t'.after (commands.map fun x => .command (x.shift L.offset)))) := by
  induction commands generalizing t t' with
  | nil => exact ⟨id, fun hr _ => hr⟩
  | cons x commands ih =>
    obtain ⟨hx, hmoves⟩ := List.forall_mem_cons.1 hmoves
    have hexec := execute_mirrors hL hret hx
    have hrest := ih hmoves (execute x t).state (execute (x.shift L.offset) t').state
    exact ⟨fun hc => hexec.lasting t (hrest.1 hc), fun hr hc =>
      hrest.2 (hexec.state hr (hrest.1 hc)) hc⟩

end

/-- What the one session does and what the other does at higher addresses. -/
structure Relocated (offset : Addr) (o o' : Outcome (Session Simulated) Feedback) : Prop where
  result : o'.result = shiftResult offset (Feedback.shift offset) o.result
  breakpoints : o.state.debuggee.breakpoints.Shifted offset o'.state.debuggee.breakpoints
  pc : o'.state.debuggee.tracee.pc = o.state.debuggee.tracee.pc + offset
  windows : o'.events.filterMap Event.window? = o.events.filterMap Event.window?

/-- **Sessions commute with relocation.**  A process with everything at higher
    addresses is debugged alike: after any commands that move it, given the
    higher addresses where they name one, the next one gives the same result,
    breakpoints and program counter at higher addresses, and shows the same
    source.  Only the word that holds the return address, which differs, may be
    neither patched nor executed. -/
theorem commutes_with_relocation {info : DebugInfo} {config : Config} {p p₁ : Simulated}
    {s : Session Simulated} (offset : Addr) (hinfo : info.positionIndependent)
    (hmap : p.map.regions ≠ []) (hattach : (attach info config).Gives p (.ok s) p₁)
    (hframe : Addressable (p.registers.get .rbp))
    (hframe' : Addressable (p.registers.get .rbp + offset)) :
    ∃ s', (attach info config).Gives (p.shift offset) (.ok s') (p.shift offset) ∧
      ∀ (commands : List Command) (command : Command), (∀ x ∈ commands ++ [command], x.Moves) →
        Spares (slot (p.registers.get .rbp))
          (s.calls ((commands ++ [command]).map .command)) →
        Relocated offset (execute command (s.after (commands.map .command)))
          (execute (command.shift offset)
            (s'.after (commands.map fun x => .command (x.shift offset)))) := by
  obtain ⟨a, rfl, hattach'⟩ := attach_relocated offset hinfo hmap hattach
  refine ⟨_, hattach', fun commands command hmoves hspared => ?_⟩
  set s := fresh p ⟨info, a⟩ config with hs
  set s' := fresh (p.shift offset) ⟨info, a + offset⟩ config
  set L := relocation offset (p.registers.get .rbp)
  have hL : L.Tracked := relocation_tracked _ _
  have hret : (L.session ⟨info, a⟩ config).Mirrors (· + offset) returnAddress returnAddress :=
    returnAddress_relocated hframe hframe'
  have hstart : (L.session ⟨info, a⟩ config).rel s.observed s' :=
    ⟨⟨p.shifted_shift offset, rfl, .empty⟩, ⟨rfl, rfl⟩, rfl, rfl⟩
  obtain ⟨hlasting, hafter⟩ := after_mirrors hL hret
    (fun x hx => hmoves x (List.mem_append_left _ hx)) s.observed s'
  have hexec := execute_mirrors hL hret (hmoves command (by simp))
  have hcalls : s.calls ((commands ++ [command]).map .command) =
      (execute command (s.observed.after (commands.map .command))).state.debuggee.tracee.calls := by
    rw [calls, List.map_append, after_append]
    rfl
  rw [hcalls] at hspared
  have hrel := hafter hstart (hexec.lasting _ hspared)
  -- the first session with the record and without it
  obtain ⟨hresult, hstate, hwindows⟩ :=
    perform_erased (.command command) (s.observed.after (commands.map .command))
  rw [after_erased, show s.observed.erased = s from rfl] at hresult hstate hwindows
  have hfinal := hexec.state hrel hspared
  show Relocated offset (perform (.command command) (s.after (commands.map .command))) _
  refine ⟨?_, ?_, ?_, (hexec.windows hrel hspared).trans hwindows.symm⟩
  · rw [hresult]
    exact hexec.result hrel hspared
  · rw [hstate]
    exact hfinal.1.2.2
  · rw [hstate]
    exact hfinal.1.1.pc

/-- A breakpoint by name, a run to it and a step to the next line. -/
theorem commutes_with_relocation_mainOnly : ∃ s',
    (attach Fixture.info {}).Gives (mainOnly.shift 0x1000) (.ok s') (mainOnly.shift 0x1000) ∧
      Relocated 0x1000
        (execute .stepOver ((fresh mainOnly ⟨Fixture.info, Fixture.loadAddress⟩ {}).after
          [.command (.setBreakpoint (.function "main")), .command .continue]))
        (execute .stepOver (s'.after
          [.command (.setBreakpoint (.function "main")), .command .continue])) := by
  have hattach : (attach Fixture.info {}).Gives mainOnly
      (.ok (fresh mainOnly ⟨Fixture.info, Fixture.loadAddress⟩ {})) mainOnly := by
    have hload : mainOnly.map.loadAddress? (Tracee.executable? mainOnly) =
        some Fixture.loadAddress := by
      show Fixture.map.loadAddress? (some "/tmp/prog") = _
      simp [MemoryMap.loadAddress?, Fixture.map, Path.same]
    refine ((gives_findLoadAddress rfl (by decide)).2 ⟨⟨rfl, rfl⟩, hload, rfl⟩).bind ?_
    rw [gives_inspect_bind, gives_log_bind]
    exact gives_inspect.2 ⟨rfl, rfl⟩
  obtain ⟨s', hs', hcommutes⟩ := commutes_with_relocation 0x1000 rfl (by decide) hattach
    (by decide +kernel) (by decide +kernel)
  have hmoves : ∀ x ∈ [Command.setBreakpoint (.function "main"), .continue, .stepOver], x.Moves :=
    List.forall_mem_cons.2 ⟨trivial, List.forall_mem_cons.2 ⟨trivial,
      List.forall_mem_singleton.2 trivial⟩⟩
  exact ⟨s', hs', hcommutes [.setBreakpoint (.function "main"), .continue] .stepOver hmoves
    (by decide +kernel)⟩

end Session

end SourceDebugger
