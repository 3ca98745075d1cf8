/-
  What becomes of the words that the user writes.  A word goes straight to the
  tracee, also over traps, while a breakpoint that is deleted puts back the byte
  that it kept when it was set.

  * `Memory.setWordOff` writes those bytes of a word that no breakpoint covers;
  * `Session.Overlaid`: the program's own bytes are those from the beginning
    with all words of the user laid over them, except where a breakpoint was
    when a word was written;
  * `Session.memory_overlaid`: this is what is in memory once all breakpoints
    are deleted, and `Session.covered_write_lost` that bytes do get lost.
-/
import SourceDebugger.Proofs.Chosen

namespace SourceDebugger

open SourceDebugger.Action

/-! ## Writing around breakpoints -/

namespace Memory

variable {covered : Addr → Bool}

/-- Maps those of the bytes `bs` from `a` on that are not covered. -/
def setBytesOff (m : Memory) (covered : Addr → Bool) (a : Addr) : List UInt8 → Memory
  | [] => m
  | b :: bs => (if covered a then m else m.set a b).setBytesOff covered (a + 1) bs

def setWordOff (m : Memory) (covered : Addr → Bool) (a : Addr) (w : Word) : Memory :=
  m.setBytesOff covered a w.bytes

/-- What is written over a byte does not depend on what was there. -/
theorem get?_setBytes_congr (bs : List UInt8) {m n : Memory} {x : Addr}
    (h : m.get? x = n.get? x) (a : Addr) :
    (m.setBytes a bs).get? x = (n.setBytes a bs).get? x := by
  induction bs generalizing m n a with
  | nil => exact h
  | cons b bs ih =>
    refine ih ?_ (a + 1)
    rw [get?_set, get?_set, h]

theorem get?_setBytesOff (bs : List UInt8) (m : Memory) (a x : Addr) :
    (m.setBytesOff covered a bs).get? x =
      if covered x then m.get? x else (m.setBytes a bs).get? x := by
  induction bs generalizing m a with
  | nil => simp [setBytesOff, setBytes]
  | cons b bs ih =>
    rw [setBytesOff, ih, setBytes]
    by_cases hx : covered x
    · rw [if_pos hx, if_pos hx]
      split_ifs with ha
      · rfl
      · have : a ≠ x := fun h => ha (h ▸ hx)
        rw [get?_set, if_neg this]
    · rw [if_neg hx, if_neg hx]
      split_ifs with ha
      · have : a ≠ x := fun h => hx (h ▸ ha)
        refine get?_setBytes_congr bs ?_ (a + 1)
        rw [get?_set, if_neg this]
      · rfl

theorem get?_setWordOff (m : Memory) (a x : Addr) (w : Word) :
    (m.setWordOff covered a w).get? x =
      if covered x then m.get? x else (m.setWord a w).get? x :=
  get?_setBytesOff w.bytes m a x

end Memory

/-! ## One write -/

namespace Debuggee

open Simulated

variable {d d' : Debuggee Simulated} {a : Addr} {value : Word}

/-- A word that is written becomes part of the program where no breakpoint is. -/
theorem Settled.ownByte_setWord (hd : d.Settled) {m : Memory} (ho : d.ownByte = m.get?)
    (hm : d'.memory = d.memory.setWord a value) (hb : d'.breakpoints = d.breakpoints) :
    d'.ownByte = (m.setWordOff d.breakpoints.contains a value).get? := by
  funext x
  rw [Memory.get?_setWordOff]
  split_ifs with hc
  · obtain ⟨v, hv⟩ := BreakpointTable.exists_saved? (hd.enabled x hc)
    rw [← ho, ownByte, ownByte, hb, hv]
    rfl
  · have hfree : ¬ d.breakpoints.isEnabledAt x := fun h =>
      hc (BreakpointTable.contains_of_isEnabledAt h)
    rw [ownByte_of_not_enabled (hb ▸ hfree), hm]
    refine Memory.get?_setBytes_congr value.bytes ?_ a
    rw [← ho, ownByte_of_not_enabled hfree]

end Debuggee

/-! ## Sessions -/

namespace Session

open Debuggee Simulated

variable {s s' : Session Simulated} {i : Interaction} {r : Except Failure Feedback} {m : Memory}

/-- A word that was written is laid over `m`, except where a breakpoint is. -/
def Exchange.overlay (m : Memory) (x : Exchange Simulated) : Memory :=
  match x.interaction, x.result with
  | .command (.writeMemory a value), .ok _ =>
    m.setWordOff x.before.debuggee.breakpoints.contains a value
  | _, _ => m

/-- The memory `m` with all words that were written laid over it in turn. -/
def overlaid (m : Memory) (xs : List (Exchange Simulated)) : Memory := xs.foldl Exchange.overlay m

theorem Exchange.overlay_of_ne {x : Exchange Simulated}
    (hx : ∀ a value, x.interaction ≠ .command (.writeMemory a value)) : x.overlay m = m := by
  obtain ⟨s, i, r⟩ := x
  unfold Exchange.overlay
  split
  · rename_i a value _ hi _
    exact absurd hi (hx a value)
  · rfl

/-- The breakpoints can be patched, and the program's own bytes are those of
    `m`. -/
structure Overlaid (m : Memory) (s : Session Simulated) : Prop where
  settled : s.debuggee.Settled
  own : s.debuggee.isAlive → s.debuggee.ownByte = m.get?

theorem perform_settled (hd : s.debuggee.Settled) (hp : (perform i).Gives s r s') :
    s'.debuggee.Settled := by
  have hs : Chosen False {a | s.debuggee.breakpoints.contains a} s :=
    ⟨hd, False.elim, fun _ _ => Iff.rfl⟩
  exact (hs.perform hp).settled

theorem gives_perform_writeMemory {a : Addr} {value : Word}
    (h : (perform (.command (.writeMemory a value))).Gives s r s') :
    ∃ written, (Debuggee.writeMemory a value).Gives s.debuggee written s'.debuggee ∧
      r = written.map fun _ => .ok := by
  rw [perform, execute, gives_log_bind, gives_map] at h
  obtain ⟨written, hwrite, rfl⟩ := h
  obtain ⟨d, hd, rfl⟩ := gives_onDebuggee.1 hwrite
  exact ⟨written, hd, rfl⟩

/-- Every interaction leaves the program's own bytes with what was written laid
    over them. -/
theorem Overlaid.perform (h : Overlaid m s) (hp : (perform i).Gives s r s') :
    Overlaid (Exchange.overlay m ⟨s, i, r⟩) s' := by
  refine ⟨perform_settled h.settled hp, fun ha => ?_⟩
  by_cases hw : ∃ a value, i = .command (.writeMemory a value)
  · obtain ⟨a, value, rfl⟩ := hw
    obtain ⟨written, hwrite, rfl⟩ := gives_perform_writeMemory hp
    obtain ⟨hstate, hb, hm⟩ := gives_writeMemory hwrite
    have ho := h.own (isAlive_of_state hstate.symm ha)
    obtain ⟨⟨e, rfl⟩, hm⟩ | ⟨rfl, hm⟩ := hm
    · exact (Patched.ownByte_eq (.same hm hb)).trans ho
    · exact h.settled.ownByte_setWord ho hm hb
  · have hne : ∀ a value, i ≠ .command (.writeMemory a value) := fun a value he =>
      hw ⟨a, value, he⟩
    obtain ⟨ha', hown, -⟩ := (perform_undisturbed hne).gives hp ha
    rw [Exchange.overlay_of_ne hne, hown, h.own ha']

/-- So it is after any interactions. -/
theorem overlaid_after (p : Simulated) (resolver : Resolver) (config : Config)
    (is : List Interaction) :
    Overlaid (overlaid p.memory ((fresh p resolver config).exchanges is))
      ((fresh p resolver config).after is) := by
  have hstart : Overlaid p.memory (fresh p resolver config) := by
    refine ⟨settled_of_empty rfl, fun _ => funext fun a => ?_⟩
    exact ownByte_of_not_enabled fun h =>
      not_contains_empty (BreakpointTable.contains_of_isEnabledAt h)
  exact invariant_after (A := fun _ => True) (fun _ _ _ _ _ h hp _ => h.perform hp) hstart
    fun _ _ => trivial

/-- The interactions with which the user patches the program. -/
def Edits : Interaction → Prop
  | .command (.setBreakpoint _) | .command (.deleteBreakpoint _)
  | .command (.writeMemory _ _) => True
  | _ => False

theorem perform_edit_state (hi : Edits i) :
    (perform i).Keeps (InvImage (Unchanged Debuggee.state) (Session.debuggee (τ := Simulated))) := by
  cases i with
  | command c =>
    refine .bind (.log _ _ _) fun _ => ?_
    cases c with
    | setBreakpoint place =>
      exact .bind (setBreakpoint_keeps Debuggee.setBreakpoint_state place) fun _ => .pure _
    | deleteBreakpoint a =>
      exact .bind (onDebuggee_keeps (Debuggee.removeBreakpoint_state a)) fun _ => .pure _
    | writeMemory a value =>
      exact .bind (onDebuggee_keeps (Debuggee.writeMemory_state a value)) fun _ => .pure _
    | _ => exact absurd hi id
  | _ => exact absurd hi id

theorem after_edits_state {is : List Interaction} (edits : ∀ i ∈ is, Edits i)
    (s : Session Simulated) : (s.after is).debuggee.state = s.debuggee.state := by
  induction is generalizing s with
  | nil => rfl
  | cons i is ih =>
    obtain ⟨hi, his⟩ := List.forall_mem_cons.1 edits
    exact (ih his _).trans ((perform_edit_state hi).gives (gives_self _ s))

/-- **What was written outside of breakpoints is there in the end.**  Set and
    delete breakpoints and write words in any order: once no breakpoint is left,
    the memory is that from the beginning with the words laid over it, each
    without those of its bytes at which there was a breakpoint. -/
theorem memory_overlaid (p : Simulated) (resolver : Resolver) (config : Config)
    {is : List Interaction} (edits : ∀ i ∈ is, Edits i)
    (free : ((fresh p resolver config).after is).debuggee.breakpoints.addresses = []) :
    ((fresh p resolver config).after is).debuggee.memory =
      overlaid p.memory ((fresh p resolver config).exchanges is) := by
  have ha : ((fresh p resolver config).after is).debuggee.isAlive := by
    rw [isAlive_iff, after_edits_state edits]
    simp [fresh]
  refine Memory.ext_get? fun a => ?_
  rw [← (overlaid_after p resolver config is).own ha, ownByte_of_not_enabled]
  intro h
  have hmem := BreakpointTable.mem_addresses.2 (BreakpointTable.contains_of_isEnabledAt h)
  rw [free] at hmem
  exact List.not_mem_nil hmem

/-- Sixteen instructions of one byte. -/
def plain : Simulated :=
  { memory := ({} : Memory).setBytes 0x1000 (List.replicate 16 0x90)
    registers := RegisterFile.zero.set .rip 0x1000 }

/-- A word is written while there is a breakpoint at its first byte. -/
def overwriting : List Interaction :=
  [.command (.setBreakpoint (.address 0x1000)), .command (.writeMemory 0x1000 0x1122334455667788),
    .command (.deleteBreakpoint 0x1000)]

theorem memory_overlaid_overwriting :
    ((fresh plain ⟨⟨[], [], false⟩, 0⟩ {}).after overwriting).debuggee.memory =
      overlaid plain.memory ((fresh plain ⟨⟨[], [], false⟩, 0⟩ {}).exchanges overwriting) :=
  memory_overlaid plain _ _ (by simp [overwriting, Edits]) (by decide +kernel)

/-- All that is asked for succeeds and no breakpoint is left, but the first byte
    of the word is not in memory. -/
theorem covered_write_lost :
    let s := fresh plain ⟨⟨[], [], false⟩, 0⟩ {}
    (∀ x ∈ s.exchanges overwriting, x.result.isOk) ∧
      (s.after overwriting).debuggee.breakpoints.addresses = [] ∧
      (written plain.memory (s.exchanges overwriting)).get? 0x1000 = some 0x88 ∧
      (s.after overwriting).debuggee.memory.get? 0x1000 = some 0x90 := by
  decide +kernel

end Session

end SourceDebugger
