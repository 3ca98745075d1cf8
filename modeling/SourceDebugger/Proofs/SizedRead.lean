/-
  Reading some bytes of a word.  One, two, four or eight bytes are read with the
  word at their address, of which the bytes behind them are then masked out.

  * `Word.toNat_ofBytes`, `ByteOrder.number_append`: the number that a word is, and
    the part of it that its first bytes make;
  * `Debuggee.sizeMask?_and`: to mask a word keeps the part of its first bytes;
  * `Session.readMemory_sized`: where a word can be read, its first bytes are read
    as what they say, whatever is behind them; elsewhere they are not read, mapped
    or not (`Session.lastByte_unread`).
-/
import SourceDebugger.Bytes
import SourceDebugger.Proofs.Chosen
import SourceDebugger.Proofs.Feedback

namespace SourceDebugger

open SourceDebugger.Action

/-! ## Numbers of bytes -/

namespace ByteOrder

theorem number_cons (b : UInt8) (bs : List UInt8) :
    little.number (b :: bs) = little.number bs * 256 + b.toNat := rfl

theorem number_lt (bs : List UInt8) : little.number bs < 256 ^ bs.length := by
  induction bs with
  | nil => decide
  | cons b bs ih =>
    have hb := b.toNat_lt
    rw [number_cons, List.length_cons, Nat.pow_succ]
    omega

/-- The bytes in front are the lowest. -/
theorem number_append (xs ys : List UInt8) :
    little.number (xs ++ ys) = little.number xs + 256 ^ xs.length * little.number ys := by
  induction xs with
  | nil => simp [number]
  | cons x xs ih =>
    rw [List.cons_append, number_cons, number_cons, ih, List.length_cons, Nat.pow_succ]
    ring

theorem number_append_mod (xs ys : List UInt8) :
    little.number (xs ++ ys) % 256 ^ xs.length = little.number xs := by
  rw [number_append, Nat.add_mul_mod_self_left, Nat.mod_eq_of_lt (number_lt xs)]

end ByteOrder

/-- A word is the number that its bytes denote. -/
theorem Word.toNat_ofBytes {bs : List UInt8} (h : bs.length ≤ 8) :
    (Word.ofBytes bs).toNat = ByteOrder.little.number bs := by
  induction bs with
  | nil => rfl
  | cons b bs ih =>
    rw [List.length_cons] at h
    have hlt : ByteOrder.little.number bs < 256 ^ 7 :=
      (ByteOrder.number_lt bs).trans_le (Nat.pow_le_pow_right (by decide) (by omega))
    have hb := b.toNat_lt
    have hcons : Word.ofBytes (b :: bs) = Word.ofBytes bs <<< 8 ||| b.toUInt64 := rfl
    have hshift : (Word.ofBytes bs <<< 8).toNat = ByteOrder.little.number bs <<< 8 := by
      rw [UInt64.toNat_shiftLeft, ih (by omega), show (8 : UInt64).toNat % 64 = 8 from rfl,
        Nat.shiftLeft_eq]
      exact Nat.mod_eq_of_lt (by omega)
    rw [hcons, UInt64.toNat_or, hshift, UInt8.toNat_toUInt64,
      ← Nat.shiftLeft_add_eq_or_of_lt hb, Nat.shiftLeft_eq, ByteOrder.number_cons]

/-! ## Bytes in memory -/

namespace Memory

variable {m : Memory} {a : Addr} {n k : Nat} {xs bs : List UInt8} {w : Word}

/-- Fewer bytes are the first of more. -/
theorem getBytes?_append (h : n ≤ k) (hxs : m.getBytes? a n = some xs)
    (hbs : m.getBytes? a k = some bs) : xs ++ bs.drop n = bs := by
  obtain ⟨hx, hxget⟩ := getBytes?_eq_some hxs
  obtain ⟨hb, hbget⟩ := getBytes?_eq_some hbs
  have htake : xs = bs.take n := by
    refine List.ext_getElem (by simp [hx, hb, h]) fun i hi hi' => ?_
    have hib : i < bs.length := by omega
    rw [List.getElem_take]
    exact Option.some.inj ((hxget i hi).symm.trans (hbget i hib))
  rw [htake, List.take_append_drop]

/-- The first bytes of a word are the lowest part of it. -/
theorem getWord?_mod (hw : m.getWord? a = some w) (hn : n ≤ 8) (hxs : m.getBytes? a n = some xs) :
    w.toNat % 256 ^ n = ByteOrder.little.number xs := by
  obtain ⟨bs, hbs, rfl⟩ := Option.map_eq_some_iff.1 hw
  obtain ⟨hlength, -⟩ := getBytes?_eq_some hbs
  obtain ⟨hx, -⟩ := getBytes?_eq_some hxs
  rw [Word.toNat_ofBytes hlength.le, ← getBytes?_append hn hxs hbs, ← hx,
    ByteOrder.number_append_mod]

end Memory

/-! ## Reading -/

namespace Debuggee

/-- A mask for each of the sizes keeps the lowest part of a word. -/
theorem sizeMask?_and {size : UInt64} (h : size ∈ [1, 2, 4, 8]) : ∃ mask,
    sizeMask? size = some mask ∧ ∀ w : Word, (w &&& mask).toNat = w.toNat % 256 ^ size.toNat := by
  have hand (w mask : Word) (k : Nat) (hmask : mask.toNat = 2 ^ k - 1) :
      (w &&& mask).toNat = w.toNat % 2 ^ k := by
    rw [UInt64.toNat_and, hmask, Nat.and_two_pow_sub_one_eq_mod]
  simp only [List.mem_cons, List.not_mem_nil, or_false] at h
  rcases h with rfl | rfl | rfl | rfl
  · exact ⟨_, rfl, fun w => hand w _ 8 rfl⟩
  · exact ⟨_, rfl, fun w => hand w _ 16 rfl⟩
  · exact ⟨_, rfl, fun w => hand w _ 32 rfl⟩
  · exact ⟨_, rfl, fun w => hand w _ 64 rfl⟩

theorem toNat_le_of_size {size : UInt64} (h : size ∈ [1, 2, 4, 8]) : size.toNat ≤ 8 := by
  simp only [List.mem_cons, List.not_mem_nil, or_false] at h
  rcases h with rfl | rfl | rfl | rfl <;> decide

variable {d : Debuggee Simulated} {a : Addr} {size : UInt64} {bs : List UInt8}

section
variable (ha : d.isAlive) (hp : d.tracee.isAlive) (hsize : size ∈ [1, 2, 4, 8])
include ha hp hsize

/-- Where a word can be read, its first bytes are read. -/
theorem readSized_number {w : Word} (hw : d.memory.getWord? a = some w)
    (hbs : d.memory.getBytes? a size.toNat = some bs) : ∃ v : Word,
      v.toNat = ByteOrder.little.number bs ∧ (readSized a size).Gives d (.ok v) d := by
  obtain ⟨mask, hmask, hand⟩ := sizeMask?_and hsize
  refine ⟨w &&& mask, ?_, gives_readSized.2 ⟨mask, w, hmask, readMemory_gives ha hp hw, rfl⟩⟩
  rw [hand, Memory.getWord?_mod hw (toNat_le_of_size hsize) hbs]

/-- Where no word can be read, no bytes of it are. -/
theorem readSized_fails (hw : d.memory.getWord? a = none) :
    (readSized a size).Gives d (.error (.memoryAccess a .eio)) d := by
  obtain ⟨mask, hmask, -⟩ := sizeMask?_and hsize
  rw [readSized, hmask]
  exact (readMemory_fails ha hp hw).bind_error

end

end Debuggee

namespace Session

variable {s : Session Simulated} {a : Addr} {size : UInt64} {bs : List UInt8} {args : List String}

/-- The command that reads some bytes is answered with what is read. -/
theorem handle_readMemory (hargs : (Command.readMemory a (some size)).Arguments args)
    {r : Except Failure Word} (h : (Debuggee.readSized a size).Gives s.debuggee r s.debuggee) :
    (handle ("memory" :: args)).Gives s (.ok (Feedback.ofResult (r.map .word))) s := by
  have hreads : Command.ofWords ("memory" :: args) = .ok (.readMemory a (some size)) :=
    Command.ofWords_of_arguments hargs nofun
  refine (gives_handle hreads).2 ⟨r.map .word, ?_, rfl⟩
  rw [execute, gives_log_bind, gives_map]
  exact ⟨r, gives_onDebuggee.2 ⟨s.debuggee, h, rfl⟩, rfl⟩

/-- **Some bytes of a word are what they say.**  If one, two, four or eight bytes are
    mapped, they are read as the number they denote, whatever the other bytes of the
    word are, as long as these are mapped as well; if not, nothing is read. -/
theorem readMemory_sized (hs : Reachable s) (alive : s.debuggee.isAlive)
    (hsize : size ∈ [1, 2, 4, 8]) (hbs : s.debuggee.memory.getBytes? a size.toNat = some bs)
    (hargs : (Command.readMemory a (some size)).Arguments args) :
    if (s.debuggee.memory.getBytes? a wordBytes).isSome then
      ∃ w : Word, w.toNat = ByteOrder.little.number bs ∧
        (Debuggee.readSized a size).Gives s.debuggee (.ok w) s.debuggee ∧
        (handle ("memory" :: args)).Gives s (.ok (.word w)) s
    else
      (Debuggee.readSized a size).Gives s.debuggee (.error (.memoryAccess a .eio)) s.debuggee ∧
        (handle ("memory" :: args)).Gives s (.ok (.failed (.memoryAccess a .eio))) s := by
  have hp := hs.process alive
  split_ifs with hmapped
  · obtain ⟨word, hword⟩ := Option.isSome_iff_exists.1 hmapped
    have hw : s.debuggee.memory.getWord? a = some (Word.ofBytes word) := by
      rw [Memory.getWord?, hword, Option.map_some]
    obtain ⟨w, hnumber, hread⟩ := Debuggee.readSized_number alive hp hsize hw hbs
    exact ⟨w, hnumber, hread, handle_readMemory hargs hread⟩
  · have hw : s.debuggee.memory.getWord? a = none := by
      rw [Memory.getWord?, Option.not_isSome_iff_eq_none.1 hmapped, Option.map_none]
    have hread := Debuggee.readSized_fails alive hp hsize hw
    exact ⟨hread, handle_readMemory hargs hread⟩

/-- A session with a single word in memory, which is negative. -/
def oneWord : Session Simulated :=
  fresh
    { memory := ({} : Memory).setBytes 0x1000 [0xfe, 0xff, 0xfd, 0, 0, 0, 0, 0x80] }
    ⟨⟨[], [], false⟩, 0⟩ {}

theorem reachable_oneWord : Reachable oneWord := ⟨_, _, _, [], rfl, rfl⟩

theorem readMemory_sized_half : ∃ w : Word, w.toNat = 0xfffe ∧
    (Debuggee.readSized 0x1000 2).Gives oneWord.debuggee (.ok w) oneWord.debuggee ∧
    (handle ["memory", "read", "0x1000", "2"]).Gives oneWord (.ok (.word w)) oneWord := by
  have hbs : oneWord.debuggee.memory.getBytes? 0x1000 (2 : UInt64).toNat = some [0xfe, 0xff] := by
    decide +kernel
  have hmapped : (oneWord.debuggee.memory.getBytes? 0x1000 wordBytes).isSome := by
    decide +kernel
  have hargs : (Command.readMemory 0x1000 (some 2)).Arguments ["read", "0x1000", "2"] :=
    ⟨_, _, .hex 4, .decimal, rfl⟩
  have h := readMemory_sized reachable_oneWord rfl (by decide) hbs hargs
  rwa [if_pos hmapped] at h

/-- The last byte of the memory is mapped and cannot be read. -/
theorem lastByte_unread :
    Reachable oneWord ∧ oneWord.debuggee.isAlive ∧
      oneWord.debuggee.memory.getBytes? 0x1007 1 = some [0x80] ∧
      (∀ w d, ¬ (Debuggee.readSized 0x1007 1).Gives oneWord.debuggee (.ok w) d) ∧
      ∀ w s, ¬ (handle ["memory", "read", "0x1007", "1"]).Gives oneWord (.ok (.word w)) s := by
  have hread : ((Debuggee.readSized 0x1007 1) oneWord.debuggee).result =
      .error (.memoryAccess 0x1007 .eio) := by
    decide +kernel
  have hanswer : (handle ["memory", "read", "0x1007", "1"] oneWord).result =
      .ok (.failed (.memoryAccess 0x1007 .eio)) := by
    decide +kernel
  refine ⟨reachable_oneWord, rfl, by decide +kernel, fun w d h => ?_, fun w s h => ?_⟩
  · cases h.1.symm.trans hread
  · cases h.1.symm.trans hanswer

end Session

end SourceDebugger
