/-
  A simulated process at higher addresses.

  * `Simulated.shift` moves whatever a process has at an address, and with it
    the address that the current function returns to;
  * `Simulated.Shifted` is what two such processes have in common for as long as
    they are debugged.  They differ in the bytes of the return address, so
    these may be neither patched nor executed;
  * `Shifted.execute`, `Shifted.run`: they execute the same instructions;
  * `Simulated.shifted_shift`: moving a process gives such a process.
-/
import SourceDebugger.Proofs.Mirrored
import SourceDebugger.Proofs.Simulated

namespace SourceDebugger

open SourceDebugger.Action

/-! ## Moving -/

/-- The entries of `m` at higher keys. -/
def shiftKeys {α β : Type} (offset : Addr) (f : α → β) (m : Std.ExtTreeMap Addr α) :
    Std.ExtTreeMap Addr β :=
  .ofList (m.toList.map fun (a, v) => (a + offset, f v))

theorem getElem?_shiftKeys {α β : Type} (offset : Addr) (f : α → β) (m : Std.ExtTreeMap Addr α)
    (a : Addr) : (shiftKeys offset f m)[a + offset]? = m[a]?.map f := by
  rcases h : m[a]? with _ | v
  · refine Std.ExtTreeMap.getElem?_ofList_of_contains_eq_false ?_
    rw [List.map_map, List.contains_eq_mem, decide_eq_false_iff_not, List.mem_map]
    rintro ⟨⟨b, v⟩, hb, hab⟩
    obtain rfl : b = a := (UInt64.add_left_inj offset).1 hab
    rw [Std.ExtTreeMap.mem_toList_iff_getElem?_eq_some, h] at hb
    cases hb
  · refine Std.ExtTreeMap.getElem?_ofList_of_mem (k := a + offset) (by simp) ?_ ?_
    · refine List.pairwise_map.2 (m.distinct_keys_toList.imp fun {x y} hxy => ?_)
      simpa using hxy
    · exact List.mem_map.2 ⟨(a, v), Std.ExtTreeMap.mem_toList_iff_getElem?_eq_some.2 h, rfl⟩

def Memory.shift (offset : Addr) (m : Memory) : Memory := ⟨shiftKeys offset id m.bytes⟩

theorem Memory.get?_shift (offset : Addr) (m : Memory) (a : Addr) :
    (m.shift offset).get? (a + offset) = m.get? a := by
  rw [get?, shift, getElem?_shiftKeys, Option.map_id]
  rfl

theorem Memory.getBytes?_shift (offset : Addr) (m : Memory) (a : Addr) (n : Nat) :
    (m.shift offset).getBytes? (a + offset) n = m.getBytes? a n := by
  induction n generalizing a with
  | zero => rfl
  | succ n ih =>
    have hnext : a + offset + 1 = a + 1 + offset := by
      rw [UInt64.add_assoc, UInt64.add_comm offset, UInt64.add_assoc]
    rw [getBytes?, getBytes?, get?_shift, hnext, ih]

theorem Memory.getWord?_shift (offset : Addr) (m : Memory) (a : Addr) :
    (m.shift offset).getWord? (a + offset) = m.getWord? a :=
  congrArg (Option.map _) (m.getBytes?_shift offset a wordBytes)

def MemoryRegion.shift (offset : Addr) (r : MemoryRegion) : MemoryRegion :=
  { r with start := r.start + offset, stop := r.stop + offset }

def MemoryMap.shift (offset : Addr) (m : MemoryMap) : MemoryMap :=
  ⟨m.regions.map (·.shift offset)⟩

/-- The loader has put the executable higher. -/
theorem MemoryMap.loadAddress?_shift (offset : Addr) (m : MemoryMap) (exe : Option String) :
    (m.shift offset).loadAddress? exe = (m.loadAddress? exe).map (· + offset) := by
  have hbacked (e : String) : (m.shift offset).regions.find? (fun r => r.path.any (Path.same · e)) =
      (m.regions.find? fun r => r.path.any (Path.same · e)).map (·.shift offset) :=
    List.find?_map ..
  have hfirst : (m.shift offset).regions.head? = m.regions.head?.map (·.shift offset) :=
    List.head?_map ..
  simp only [loadAddress?, hbacked, hfirst]
  rcases exe with _ | e
  · cases m.regions.head? <;> rfl
  · rw [Option.bind_some, Option.bind_some]
    cases m.regions.find? fun r => r.path.any (Path.same · e)
    · cases m.regions.head? <;> rfl
    · rfl

/-! ## Processes -/

/-- The byte at `a` is one of the word at `slot`. -/
def Addr.InWord (slot a : Addr) : Prop := (a - slot).toNat < wordBytes

instance (slot a : Addr) : Decidable (Addr.InWord slot a) := inferInstanceAs (Decidable (_ < _))

namespace Addr

variable {slot a : Addr}

theorem toNat_add_sub {i : Nat} (hi : i < 8) : (slot + UInt64.ofNat i - slot).toNat = i := by
  have hsize : i < UInt64.size := by
    rw [UInt64.size]
    omega
  rw [UInt64.add_comm, UInt64.add_sub_cancel, UInt64.toNat_ofNat_of_lt' hsize]

theorem inWord_add {i : Nat} (hi : i < 8) : InWord slot (slot + UInt64.ofNat i) := by
  rwa [InWord, toNat_add_sub hi]

theorem inWord_shift {offset : Addr} : InWord (slot + offset) (a + offset) ↔ InWord slot a := by
  have h : a + offset - (slot + offset) = a - slot := by grind
  rw [InWord, InWord, h]

end Addr

/-- A word is determined by its bytes. -/
theorem Word.ext_byte {w w' : Word} (h : ∀ i < 8, w.byte i = w'.byte i) : w = w' := by
  refine UInt64.toBitVec_inj.1 (BitVec.eq_of_getLsbD_eq fun n hn => ?_)
  have hbits (w : Word) : w.toBitVec.getLsbD n = (w.byte (n / 8)).toBitVec.getLsbD (n % 8) := by
    rw [getLsbD_byte w (by omega), decide_eq_true (Nat.mod_lt n (by omega)), Bool.true_and,
      Nat.div_add_mod]
  rw [hbits w, hbits w', h (n / 8) (by omega)]

namespace Memory

variable {m m' : Memory} {a : Addr}

theorem getBytes?_congr {n : Nat}
    (h : ∀ i < n, m'.get? (a + UInt64.ofNat i) = m.get? (a + UInt64.ofNat i)) :
    m'.getBytes? a n = m.getBytes? a n := by
  induction n generalizing a with
  | zero => rfl
  | succ n ih =>
    have hfirst := h 0 (Nat.succ_pos n)
    rw [show UInt64.ofNat 0 = 0 from rfl, UInt64.add_zero] at hfirst
    rw [getBytes?, getBytes?, hfirst, ih fun i hi => ?_]
    rw [add_one_add_ofNat]
    exact h (i + 1) (Nat.succ_lt_succ hi)

/-- A byte outside a word is not read with it. -/
theorem getWord?_set {slot : Addr} (h : ¬ Addr.InWord slot a) (m : Memory) (v : UInt8) :
    (m.set a v).getWord? slot = m.getWord? slot := by
  refine congrArg (Option.map _) (getBytes?_congr fun i hi => ?_)
  rw [get?_set, if_neg]
  rintro rfl
  exact h (Addr.inWord_add hi)

/-- A word that is written can be read. -/
theorem getWord?_setWord (m : Memory) (a : Addr) (w : Word) :
    (m.setWord a w).getWord? a = some w := by
  have hget {i : Nat} (hi : i < 8) :
      (m.setWord a w).get? (a + UInt64.ofNat i) = some (w.byte i) := by
    rw [get?_setWord, Addr.toNat_add_sub hi, if_pos hi]
  obtain ⟨w', hw'⟩ := Option.isSome_iff_exists.1 (getWord?_isSome.2 fun i hi =>
    Option.isSome_iff_exists.2 ⟨_, hget hi⟩)
  have hbyte (i : Nat) (hi : i < 8) : w'.byte i = w.byte i :=
    Option.some.inj ((getWord?_eq_some hw' hi).symm.trans (hget hi))
  rw [hw', Word.ext_byte hbyte]

end Memory

namespace Simulated

variable {offset frame a : Addr} {p q p' q' : Simulated}

/-- The process with all addresses higher, and the word above its frame, which
    is an address as well. -/
def shift (offset : Addr) (p : Simulated) : Simulated :=
  let slot := p.registers.get .rbp + Session.returnAddressOffset
  let moved := p.memory.shift offset
  { p with
    memory := match p.memory.getWord? slot with
      | some w => moved.setWord (slot + offset) (w + offset)
      | none => moved
    registers :=
      (p.registers.set .rip (p.pc + offset)).set .rbp (p.registers.get .rbp + offset)
    successors := shiftKeys offset (· + offset) p.successors
    faults := shiftKeys offset id p.faults
    map := p.map.shift offset }

/-- The word that holds the return address, if the frame is at `frame`. -/
abbrev slot (frame : Addr) : Addr := frame + Session.returnAddressOffset

/-- `q` is `p` at higher addresses, its frame being at `frame`. -/
structure Shifted (offset frame : Addr) (p q : Simulated) : Prop where
  memory (a : Addr) : ¬ Addr.InWord (slot frame) a → q.memory.get? (a + offset) = p.memory.get? a
  mapped (a : Addr) : (q.memory.get? (a + offset)).isSome = (p.memory.get? a).isSome
  caller : q.memory.getWord? (slot frame + offset) =
    (p.memory.getWord? (slot frame)).map (· + offset)
  pc : q.pc = p.pc + offset
  framePointer : p.registers.get .rbp = frame
  framePointer_shift : q.registers.get .rbp = frame + offset
  successors (a : Addr) : q.successors[a + offset]? = p.successors[a]?.map (· + offset)
  faults (a : Addr) : q.faults[a + offset]? = p.faults[a]?
  exitCode : q.exitCode = p.exitCode
  trapCode : q.trapCode = p.trapCode
  failWrites : q.failWrites = p.failWrites
  isAlive : q.isAlive = p.isAlive
  pending : q.pending = p.pending

namespace Shifted

theorem setPc (h : Shifted offset frame p q) (a : Addr) :
    Shifted offset frame (p.setPc a) (q.setPc (a + offset)) :=
  { h with
    pc := by simp [Simulated.setPc, Simulated.pc]
    framePointer := by simpa [Simulated.setPc, RegisterFile.get_set] using h.framePointer
    framePointer_shift := by
      simpa [Simulated.setPc, RegisterFile.get_set] using h.framePointer_shift }

theorem isSome_getWord? (h : Shifted offset frame p q) (a : Addr) :
    (q.memory.getWord? (a + offset)).isSome = (p.memory.getWord? a).isSome := by
  have hcomm (i : Nat) : a + offset + UInt64.ofNat i = a + UInt64.ofNat i + offset := by
    rw [UInt64.add_assoc, UInt64.add_comm offset, UInt64.add_assoc]
  rw [Bool.eq_iff_iff, Memory.getWord?_isSome, Memory.getWord?_isSome]
  simp only [hcomm, h.mapped]

/-- A byte outside the return address is set in both. -/
theorem patch (h : Shifted offset frame p q) (ha : ¬ Addr.InWord (slot frame) a) (v : UInt8) :
    Shifted offset frame (p.patch a v) (q.patch (a + offset) v) :=
  { h with
    memory := fun x hx => by
      simp only [Simulated.patch, Memory.get?_set, UInt64.add_left_inj, h.memory x hx]
    mapped := fun x => by
      simp only [Simulated.patch, Memory.get?_set, UInt64.add_left_inj]
      split_ifs
      · rfl
      · exact h.mapped x
    caller := by
      have ha' : ¬ Addr.InWord (slot frame + offset) (a + offset) := mt Addr.inWord_shift.1 ha
      simp only [Simulated.patch, Memory.getWord?_set ha, Memory.getWord?_set ha', h.caller] }

end Shifted

/-! ### Patching -/

/-- What comes of reading the word at `a` and writing it back with another
    lowest byte. -/
def rewritten (p : Simulated) (a : Addr) (v : UInt8) (made : Word → Breakpoint) :
    Except Failure Breakpoint × Simulated :=
  if !p.isAlive then (.error (.memoryAccess a .esrch), p)
  else match p.memory.getWord? a with
    | none => (.error (.memoryAccess a .eio), p)
    | some w =>
      if p.failWrites then (.error (.memoryAccess a .eio), p) else (.ok (made w), p.patch a v)

theorem rewrite_gives (p : Simulated) (a : Addr) (v : UInt8) (found patched : Word → String)
    (made : Word → Breakpoint) :
    (do
      let w ← readWord a
      log .trace .breakpoint (found w)
      log .trace .breakpoint (patched w)
      writeWord a (w.withLowByte v)
      return made w : Action Simulated Breakpoint).Gives p (p.rewritten a v made).1
        (p.rewritten a v made).2 := by
  unfold rewritten
  rcases ha : p.isAlive
  · have hread : (readWord a).Gives p (.error (.memoryAccess a .esrch)) p := by
      simp [Gives, readWord, ha]
    exact hread.bind_error
  rcases hw : p.memory.getWord? a with _ | w
  · have hread : (readWord a).Gives p (.error (.memoryAccess a .eio)) p := by
      simp [Gives, readWord, ha, hw]
    exact hread.bind_error
  refine (readWord_gives ha hw).bind (gives_log_bind.2 (gives_log_bind.2 ?_))
  rcases hf : p.failWrites
  · have hwritable : p.isWritable a := isWritable_iff.2 ⟨hf, by simp [hw]⟩
    exact (writeWord_gives_patch ha hwritable hw).bind (gives_pure.2 ⟨rfl, rfl⟩)
  · have hwrite : (writeWord a (w.withLowByte v)).Gives p (.error (.memoryAccess a .eio)) p := by
      simp [Gives, writeWord, hf]
    exact hwrite.bind_error

/-- If a word could be rewritten, it was not the return address that was
    patched: so it is with the other process. -/
theorem Shifted.rewritten (h : Shifted offset frame p q) {v : UInt8}
    (made made' : Word → Breakpoint)
    (hmade : ∀ w w' : Word, w'.toUInt8 = w.toUInt8 → made' w' = (made w).shift offset)
    (hclear : ∀ b, (p.rewritten a v made).1 = .ok b → ¬ Addr.InWord (slot frame) a) :
    (q.rewritten (a + offset) v made').1 =
        shiftResult offset (Breakpoint.shift offset) (p.rewritten a v made).1 ∧
      Shifted offset frame (p.rewritten a v made).2 (q.rewritten (a + offset) v made').2 := by
  unfold Simulated.rewritten at hclear ⊢
  have hsome := h.isSome_getWord? a
  rw [h.isAlive, h.failWrites]
  rcases ha : p.isAlive
  · exact ⟨rfl, h⟩
  rw [ha] at hclear
  rcases hw : p.memory.getWord? a with _ | w
  · rw [hw, Option.isSome_none, Option.isSome_eq_false_iff, Option.isNone_iff_eq_none] at hsome
    rw [hsome]
    exact ⟨rfl, h⟩
  rw [hw] at hclear hsome
  obtain ⟨w', hw'⟩ := Option.isSome_iff_exists.1 hsome
  rw [hw']
  rcases hf : p.failWrites
  · rw [hf] at hclear
    have hout := hclear _ rfl
    have hlow : w'.toUInt8 = w.toUInt8 := by
      have hbyte := h.memory a hout
      rw [Memory.getWord?_lowByte hw, Memory.getWord?_lowByte hw'] at hbyte
      exact Option.some.inj hbyte
    exact ⟨congrArg Except.ok (hmade w w' hlow), h.patch hout v⟩
  · exact ⟨rfl, h⟩

theorem Shifted.enable (h : Shifted offset frame p q) {b : Breakpoint}
    {r : Except Failure Breakpoint} (hg : b.enable.Gives p r p')
    (hclear : ∀ b', r = .ok b' → ¬ Addr.InWord (slot frame) b.addr) :
    ∃ q', (b.shift offset).enable.Gives q (shiftResult offset (Breakpoint.shift offset) r) q' ∧
      Shifted offset frame p' q' := by
  unfold Breakpoint.enable at hg ⊢
  rw [show (b.shift offset).isEnabled = b.isEnabled from rfl]
  split_ifs at hg ⊢
  · obtain ⟨rfl, rfl⟩ := gives_fail.1 hg
    exact ⟨q, gives_fail.2 ⟨rfl, rfl⟩, h⟩
  · obtain ⟨rfl, rfl⟩ := hg.unique (rewrite_gives p b.addr trapByte _ _ _)
    obtain ⟨hr, hs⟩ := h.rewritten (fun w => { b with saved := some w.toUInt8 })
      (fun w => { b.shift offset with saved := some w.toUInt8 })
      (fun w w' hw => by simp [hw, Breakpoint.shift]) hclear
    exact ⟨_, hr ▸ rewrite_gives q (b.addr + offset) trapByte _ _ _, hs⟩

theorem Shifted.disable (h : Shifted offset frame p q) {b : Breakpoint}
    {r : Except Failure Breakpoint} (hg : b.disable.Gives p r p')
    (hclear : ∀ b', r = .ok b' → ¬ Addr.InWord (slot frame) b.addr) :
    ∃ q', (b.shift offset).disable.Gives q (shiftResult offset (Breakpoint.shift offset) r) q' ∧
      Shifted offset frame p' q' := by
  unfold Breakpoint.disable at hg ⊢
  rw [show (b.shift offset).saved = b.saved from rfl]
  split at hg
  · obtain ⟨rfl, rfl⟩ := gives_fail.1 hg
    exact ⟨q, gives_fail.2 ⟨rfl, rfl⟩, h⟩
  · rename_i v hv
    obtain ⟨rfl, rfl⟩ := hg.unique (rewrite_gives p b.addr v _ _ _)
    obtain ⟨hr, hs⟩ := h.rewritten (fun _ => { b with saved := none })
      (fun _ => { b.shift offset with saved := none }) (fun _ _ _ => rfl) hclear
    exact ⟨_, hr ▸ rewrite_gives q (b.addr + offset) v _ _ _, hs⟩

/-! ### Executing -/

namespace Shifted

/-- They execute the same instruction. -/
theorem execute (h : Shifted offset frame p q) (hpc : ¬ Addr.InWord (slot frame) p.pc) :
    q.execute.1 = p.execute.1 ∧ Shifted offset frame p.execute.2 q.execute.2 := by
  have hbyte : q.memory.get? q.pc = p.memory.get? p.pc := h.pc ▸ h.memory p.pc hpc
  have hfault : q.faults[q.pc]? = p.faults[p.pc]? := h.pc ▸ h.faults p.pc
  have hnext : q.successors[q.pc]? = p.successors[p.pc]?.map (· + offset) :=
    h.pc ▸ h.successors p.pc
  rw [Simulated.execute, Simulated.execute, hbyte, hfault, hnext]
  split_ifs
  · have hpc' : q.pc + 1 = p.pc + 1 + offset := by
      rw [h.pc, UInt64.add_assoc, UInt64.add_comm offset, UInt64.add_assoc]
    exact ⟨by rw [h.trapCode], hpc' ▸ h.setPc _⟩
  · rcases p.faults[p.pc]? with _ | ⟨signal, code⟩
    · rcases p.successors[p.pc]? with _ | next
      · exact ⟨by rw [Option.map_none, h.exitCode], { h with isAlive := rfl }⟩
      · exact ⟨rfl, h.setPc next⟩
    · exact ⟨rfl, h⟩

/-- One becomes pending. -/
theorem pend (h : Shifted offset frame p q) (stop : Report) :
    Shifted offset frame { p with pending := some stop } { q with pending := some stop } :=
  { h with pending := rfl }

end Shifted

/-- The addresses of the instructions that are executed in a run. -/
def visited (p : Simulated) : Nat → List Addr
  | 0 => []
  | limit + 1 => p.pc ::
    match p.execute with
    | (some _, _) => []
    | (none, p) => p.visited limit

theorem Shifted.run (h : Shifted offset frame p q) {n : Nat}
    (hn : ∀ a ∈ p.visited n, ¬ Addr.InWord (slot frame) a) :
    Shifted offset frame (p.run n) (q.run n) := by
  induction n generalizing p q with
  | zero => exact h
  | succ n ih =>
    obtain ⟨hpc, hrest⟩ := List.forall_mem_cons.1 hn
    obtain ⟨hstop, hafter⟩ := h.execute hpc
    rw [Simulated.run, Simulated.run]
    rcases hp : p.execute with ⟨o, p₁⟩
    rcases hq : q.execute with ⟨o', q₁⟩
    rw [hp, hq] at hstop hafter
    rw [hp] at hrest
    obtain rfl : o' = o := hstop
    cases o' with
    | some stop => exact hafter.pend stop
    | none => exact ih hafter hrest

theorem Shifted.stepOnce (h : Shifted offset frame p q)
    (hpc : ¬ Addr.InWord (slot frame) p.pc) : Shifted offset frame p.stepOnce q.stepOnce := by
  obtain ⟨hstop, hafter⟩ := h.execute hpc
  rw [Simulated.stepOnce, Simulated.stepOnce]
  rcases hp : p.execute with ⟨o, p₁⟩
  rcases hq : q.execute with ⟨o', q₁⟩
  rw [hp, hq] at hstop hafter
  obtain rfl : o' = o := hstop
  cases o' with
  | some stop => exact hafter.pend stop
  | none => exact hafter.pend _

/-! ### Moving a process -/

/-- The memory of a process that was moved: the return address is higher, if
    there is one. -/
theorem memory_shift (offset : Addr) (p : Simulated) :
    let at' := slot (p.registers.get .rbp)
    ((p.shift offset).memory = p.memory.shift offset ∧ p.memory.getWord? at' = none) ∨
      ∃ w, (p.shift offset).memory =
        (p.memory.shift offset).setWord (at' + offset) (w + offset) ∧
        p.memory.getWord? at' = some w := by
  intro at'
  have hmemory : (p.shift offset).memory = match p.memory.getWord? at' with
    | some w => (p.memory.shift offset).setWord (at' + offset) (w + offset)
    | none => p.memory.shift offset := rfl
  rcases hw : p.memory.getWord? at' with _ | w <;> rw [hw] at hmemory
  · exact Or.inl ⟨hmemory, rfl⟩
  · exact Or.inr ⟨w, hmemory, rfl⟩

theorem shifted_shift (offset : Addr) (p : Simulated) :
    Shifted offset (p.registers.get .rbp) p (p.shift offset) where
  memory a ha := by
    obtain ⟨hm, -⟩ | ⟨w, hm, -⟩ := p.memory_shift offset
    · rw [hm, Memory.get?_shift]
    · have ha' : ¬ (a + offset - (slot (p.registers.get .rbp) + offset)).toNat < 8 :=
        mt Addr.inWord_shift.1 ha
      rw [hm, Memory.get?_setWord, if_neg ha', Memory.get?_shift]
  mapped a := by
    obtain ⟨hm, -⟩ | ⟨w, hm, hw⟩ := p.memory_shift offset
    · rw [hm, Memory.get?_shift]
    · rw [hm, Memory.get?_setWord]
      split_ifs with ha
      · have hbyte := Memory.getWord?_isSome.1 (Option.isSome_of_eq_some hw) _
          (Addr.inWord_shift.1 ha)
        rw [UInt64.ofNat_toNat, UInt64.add_comm, UInt64.sub_add_cancel] at hbyte
        rw [hbyte]
        rfl
      · rw [Memory.get?_shift]
  caller := by
    obtain ⟨hm, hw⟩ | ⟨w, hm, hw⟩ := p.memory_shift offset
    · rw [hm, hw, Memory.getWord?_shift, hw]
      rfl
    · rw [hm, hw, Memory.getWord?_setWord]
      rfl
  pc := by simp [shift, pc, RegisterFile.get_set]
  framePointer := rfl
  framePointer_shift := by simp [shift]
  successors _ := getElem?_shiftKeys ..
  faults a := by rw [shift, getElem?_shiftKeys, Option.map_id, id]
  exitCode := rfl
  trapCode := rfl
  failWrites := rfl
  isAlive := rfl
  pending := rfl

end Simulated

end SourceDebugger
