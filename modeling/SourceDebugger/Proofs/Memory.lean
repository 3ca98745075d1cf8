/-
  Words and the bytes they are made of.

  * `Word.byte_ofBytes` and `Word.byte_withLowByte`: the bytes of a word that
    is put together from bytes, and of one whose lowest byte is replaced;
  * `Memory.getWord?_eq_some`: a word that can be read has the bytes of the
    memory from its address on;
  * `Memory.setWord_withLowByte`: to write a word back with another lowest
    byte sets one byte of the memory, whatever the word reaches over.  So the
    traps of overlapping words do not disturb each other.
-/
import Mathlib.Tactic.IntervalCases
import SourceDebugger.Simulation.Memory

namespace SourceDebugger

/-! ## Bytes of words -/

namespace Word

theorem getLsbD_byte (w : Word) {i : Nat} (hi : i < 8) (j : Nat) :
    (w.byte i).toBitVec.getLsbD j = (decide (j < 8) && w.toBitVec.getLsbD (8 * i + j)) := by
  have h : 8 * i % 64 = 8 * i := by omega
  simp [byte, h]

theorem byte_ext {b c : UInt8}
    (h : ∀ j, j < 8 → b.toBitVec.getLsbD j = c.toBitVec.getLsbD j) : b = c :=
  UInt8.toBitVec_inj.1 (BitVec.eq_of_getLsbD_eq h)

theorem getLsbD_shift_or (w : Word) (b : UInt8) {n : Nat} (hn : n < 64) :
    (w <<< 8 ||| b.toUInt64).toBitVec.getLsbD n =
      if n < 8 then b.toBitVec.getLsbD n else w.toBitVec.getLsbD (n - 8) := by
  by_cases h : n < 8
  · simp [hn, h]
  · have hb : b.toBitVec.getLsbD n = false := BitVec.getLsbD_of_ge _ _ (by omega)
    have hn' : n - 8 < 64 := by omega
    simp [hn, hn', h, hb]

theorem getLsbD_withLowByte (w : Word) (b : UInt8) {n : Nat} (hn : n < 64) :
    (w.withLowByte b).toBitVec.getLsbD n =
      if n < 8 then b.toBitVec.getLsbD n else w.toBitVec.getLsbD n := by
  have hm : (0xff#64).getLsbD n = decide (n < 8) := by
    interval_cases n <;> rfl
  have hw : (w.withLowByte b).toBitVec =
      (w.toBitVec &&& ~~~0xff#64) ||| b.toBitVec.setWidth 64 := rfl
  rw [hw, BitVec.getLsbD_or, BitVec.getLsbD_and, BitVec.getLsbD_not, hm, BitVec.getLsbD_setWidth]
  by_cases h : n < 8
  · simp [hn, h]
  · have hb : b.toBitVec.getLsbD n = false := BitVec.getLsbD_of_ge _ _ (by omega)
    simp [hn, h, hb]

/-- The bytes of a word that is put together from its lowest byte and the
    others. -/
theorem byte_shift_or (w : Word) (b : UInt8) {i : Nat} (hi : i < 8) :
    (w <<< 8 ||| b.toUInt64).byte i = if i = 0 then b else w.byte (i - 1) := by
  refine byte_ext fun j hj => ?_
  rw [getLsbD_byte _ hi, getLsbD_shift_or w b (by omega)]
  rcases i with _ | i
  · simp [hj]
  · rw [if_neg (by omega), if_neg (by omega), getLsbD_byte _ (by omega)]
    congr 2
    omega

theorem byte_ofBytes : ∀ (bs : List UInt8) {i : Nat} (h : i < bs.length), i < 8 →
    (ofBytes bs).byte i = bs[i]
  | [], i, h, _ => by simp at h
  | b :: bs, i, h, hi => by
    rw [show ofBytes (b :: bs) = ofBytes bs <<< 8 ||| b.toUInt64 from rfl, byte_shift_or _ b hi]
    rcases i with _ | i
    · rfl
    · have h' : i < bs.length := by simpa using h
      rw [if_neg (by omega), List.getElem_cons_succ]
      exact byte_ofBytes bs h' (by omega)

theorem byte_withLowByte (w : Word) (b : UInt8) {i : Nat} (hi : i < 8) :
    (w.withLowByte b).byte i = if i = 0 then b else w.byte i := by
  refine byte_ext fun j hj => ?_
  rw [getLsbD_byte _ hi, getLsbD_withLowByte w b (by omega)]
  rcases i with _ | i
  · simp [hj]
  · rw [if_neg (by omega), if_neg (by omega), getLsbD_byte _ hi]

theorem byte_zero (w : Word) : w.byte 0 = w.toUInt8 := by
  simp [byte]

theorem getElem?_bytes (w : Word) (i : Nat) :
    w.bytes[i]? = if i < 8 then some (w.byte i) else none := by
  by_cases h : i < 8 <;> simp [bytes, wordBytes, h]

end Word

/-! ## Bytes of the memory -/

namespace Memory

theorem ext_get? {m n : Memory} (h : ∀ a, m.get? a = n.get? a) : m = n := by
  obtain ⟨mb⟩ := m
  obtain ⟨nb⟩ := n
  exact congrArg _ (Std.ExtTreeMap.ext_getElem? h)

theorem get?_set_self (m : Memory) (a : Addr) (v : UInt8) : (m.set a v).get? a = some v := by
  rw [get?_set, if_pos rfl]

/-- To set a byte to what it is changes nothing. -/
theorem set_eq_self {m : Memory} {a : Addr} {v : UInt8} (h : m.get? a = some v) :
    m.set a v = m := by
  refine ext_get? fun b => ?_
  rw [get?_set]
  split_ifs with hb
  · rw [← hb, h]
  · rfl

/-- Of two bytes that are set at one address the second stays. -/
theorem set_set (m : Memory) (a : Addr) (u v : UInt8) : (m.set a u).set a v = m.set a v := by
  refine ext_get? fun b => ?_
  simp only [get?_set]
  split_ifs <;> rfl

/-- How far `x` stands behind `a`. -/
theorem sub_toNat_succ {a x : Addr} (h : a ≠ x) :
    (x - a).toNat = (x - (a + 1)).toNat + 1 := by
  have ha : a.toNat ≠ x.toNat := fun he => h (UInt64.toNat_inj.1 he)
  have h₁ := a.toNat_lt
  have h₂ := x.toNat_lt
  simp only [UInt64.toNat_sub, UInt64.toNat_add, UInt64.reduceToNat]
  omega

/-- The bytes from `a` on are those of the list, the others stay. -/
theorem get?_setBytes (bs : List UInt8) (m : Memory) (a x : Addr) (h : bs.length < 2 ^ 64) :
    (m.setBytes a bs).get? x = (bs[(x - a).toNat]?).or (m.get? x) := by
  induction bs generalizing m a with
  | nil => simp [setBytes]
  | cons b bs ih =>
    rw [List.length_cons] at h
    rw [setBytes, ih _ _ (by omega), get?_set]
    by_cases hx : a = x
    · subst hx
      have hl : bs.length ≤ (a - (a + 1)).toNat := by
        have h₁ := a.toNat_lt
        simp only [UInt64.toNat_sub, UInt64.toNat_add, UInt64.reduceToNat]
        omega
      rw [List.getElem?_eq_none hl]
      simp
    · rw [if_neg hx, sub_toNat_succ hx, List.getElem?_cons_succ]

theorem get?_setWord (m : Memory) (a x : Addr) (w : Word) :
    (m.setWord a w).get? x =
      if (x - a).toNat < 8 then some (w.byte (x - a).toNat) else m.get? x := by
  rw [setWord, get?_setBytes _ _ _ _ (by simp [Word.bytes, wordBytes]), Word.getElem?_bytes]
  split_ifs <;> rfl

theorem add_one_add_ofNat (a : Addr) (i : Nat) :
    a + 1 + UInt64.ofNat i = a + UInt64.ofNat (i + 1) := by
  rw [UInt64.add_assoc]
  congr 1
  apply UInt64.toNat_inj.1
  simp [Nat.add_comm]

theorem getBytes?_eq_some {m : Memory} {n : Nat} {a : Addr} {bs : List UInt8}
    (h : m.getBytes? a n = some bs) :
    bs.length = n ∧ ∀ i (hi : i < bs.length), m.get? (a + UInt64.ofNat i) = some bs[i] := by
  induction n generalizing a bs with
  | zero =>
    cases h
    exact ⟨rfl, fun i hi => absurd hi (Nat.not_lt_zero i)⟩
  | succ n ih =>
    simp only [getBytes?, bind, Option.bind_eq_some_iff, pure, Option.some.injEq] at h
    obtain ⟨b, hb, bs, hbs, rfl⟩ := h
    obtain ⟨hl, hget⟩ := ih hbs
    refine ⟨by simp [hl], fun i hi => ?_⟩
    rcases i with _ | i
    · simpa using hb
    · rw [List.getElem_cons_succ, ← add_one_add_ofNat]
      exact hget i (by simpa using hi)

/-- Bytes can be read if all of them are mapped. -/
theorem getBytes?_isSome {m : Memory} {n : Nat} {a : Addr} :
    (m.getBytes? a n).isSome ↔ ∀ i < n, (m.get? (a + UInt64.ofNat i)).isSome := by
  induction n generalizing a with
  | zero => simp [getBytes?]
  | succ n ih =>
    have h₀ : a + UInt64.ofNat 0 = a := by simp
    simp only [getBytes?, bind, pure, Option.isSome_iff_exists, Option.bind_eq_some_iff] at ih ⊢
    constructor
    · rintro ⟨_, b, hb, bs, hbs, -⟩ i hi
      rcases i with _ | i
      · exact ⟨b, by rw [h₀, hb]⟩
      · rw [← add_one_add_ofNat]
        exact ih.1 ⟨bs, hbs⟩ i (by omega)
    · intro h
      obtain ⟨b, hb⟩ := h 0 (by omega)
      obtain ⟨bs, hbs⟩ := (ih (a := a + 1)).2 fun i hi =>
        add_one_add_ofNat a i ▸ h (i + 1) (by omega)
      exact ⟨_, b, h₀ ▸ hb, bs, hbs, rfl⟩

/-- A word that can be read has the bytes of the memory. -/
theorem getWord?_eq_some {m : Memory} {a : Addr} {w : Word} (h : m.getWord? a = some w) {i : Nat}
    (hi : i < 8) : m.get? (a + UInt64.ofNat i) = some (w.byte i) := by
  obtain ⟨bs, hbs, rfl⟩ := Option.map_eq_some_iff.1 h
  obtain ⟨hl, hget⟩ := getBytes?_eq_some hbs
  have hi' : i < bs.length := by rw [hl]; exact hi
  rw [hget i hi', Word.byte_ofBytes bs hi' hi]

theorem getWord?_isSome {m : Memory} {a : Addr} :
    (m.getWord? a).isSome ↔ ∀ i < 8, (m.get? (a + UInt64.ofNat i)).isSome := by
  rw [getWord?, Option.isSome_map, getBytes?_isSome, wordBytes]

theorem putWord?_eq_some {m m' : Memory} {a : Addr} {w : Word} :
    m.putWord? a w = some m' ↔ (m.getWord? a).isSome ∧ m' = m.setWord a w := by
  rw [putWord?, getWord?, Option.isSome_map]
  split_ifs with h <;> simp [h, eq_comm]

/-- **Patching a word sets one byte.**  Whatever the seven other bytes hold,
    they are written back as they were read. -/
theorem setWord_withLowByte {m : Memory} {a : Addr} {w : Word} (h : m.getWord? a = some w)
    (b : UInt8) : m.setWord a (w.withLowByte b) = m.set a b := by
  refine ext_get? fun x => ?_
  have hx : x = a + (x - a) := by rw [UInt64.add_comm, UInt64.sub_add_cancel]
  rw [get?_setWord, get?_set]
  by_cases hi : (x - a).toNat < 8
  · rw [if_pos hi, Word.byte_withLowByte w b hi]
    by_cases h₀ : (x - a).toNat = 0
    · have : a = x := by
        rw [hx, show x - a = 0 from UInt64.toNat_inj.1 h₀]
        simp
      rw [if_pos h₀, if_pos this]
    · have : a ≠ x := by
        rintro rfl
        simp at h₀
      have hget := getWord?_eq_some h hi
      rw [UInt64.ofNat_toNat, ← hx] at hget
      rw [if_neg h₀, if_neg this, hget]
  · have : a ≠ x := by
      rintro rfl
      simp at hi
    rw [if_neg hi, if_neg this]

theorem getWord?_lowByte {m : Memory} {a : Addr} {w : Word} (h : m.getWord? a = some w) :
    m.get? a = some w.toUInt8 := by
  have := getWord?_eq_some h (show 0 < 8 by omega)
  rwa [Word.byte_zero, show a + UInt64.ofNat 0 = a by simp] at this

end Memory

end SourceDebugger
