/-
  What a number looks like as text, and that exactly this is read.

  * `Numeral.Spells`: digits of a base and the number they denote, the highest
    one first; `Numeral.Written`: a text that is a number, with or without a mark
    that selects the base, and with or without a `+` behind it;
  * `Numeral.Prints`: the texts that are printed for a number, in hexadecimal of
    any width and in decimal; such a text is written so (`Prints.written`);
  * `Numeral.parse?_eq_some_iff`: a text is read as a number if and only if it is
    written so, and the number fits into 64 bits;
  * `number_reads`: so it is where commands take numbers, any other text is
    refused, and addresses are read as numbers are.
-/
import Mathlib.Data.List.Forall2
import Mathlib.Data.Nat.Digits.Defs
import Mathlib.Tactic.IntervalCases
import SourceDebugger.Command

namespace SourceDebugger

namespace Numeral

variable {base d n : Nat} {c : Char} {cs digits mark sign : List Char} {text : String}

/-! ## Digits -/

/-- `c` is a digit of `base` with the value `d`, as a letter of either case. -/
def IsDigit (base : Nat) (c : Char) (d : Nat) : Prop :=
  d < base ∧ (c = d.digitChar ∨ c = d.digitChar.toUpper)

theorem eq_ofNat_of_mem_Icc {lo hi : Char} (h : lo ≤ c ∧ c ≤ hi) :
    ∃ k, lo.toNat ≤ k ∧ k ≤ hi.toNat ∧ c = Char.ofNat k :=
  ⟨c.toNat, h.1, h.2, (Char.ofNat_toNat c).symm⟩

theorem isDigit_of_digit? (h : digit? base c = some d) : IsDigit base c d := by
  simp only [digit?, Option.ite_none_right_eq_some, Option.some.injEq] at h
  obtain ⟨hlt, rfl⟩ := h
  refine ⟨hlt, ?_⟩
  split_ifs at hlt ⊢ with h0 ha hA
  · obtain ⟨k, hlo, hhi, rfl⟩ := eq_ofNat_of_mem_Icc h0
    change 48 ≤ k at hlo
    change k ≤ 57 at hhi
    interval_cases k <;> exact .inl rfl
  · obtain ⟨k, hlo, hhi, rfl⟩ := eq_ofNat_of_mem_Icc ha
    change 97 ≤ k at hlo
    change k ≤ 102 at hhi
    interval_cases k <;> exact .inl rfl
  · obtain ⟨k, hlo, hhi, rfl⟩ := eq_ofNat_of_mem_Icc hA
    change 65 ≤ k at hlo
    change k ≤ 70 at hhi
    interval_cases k <;> exact .inr rfl
  · exact absurd hlt (lt_irrefl _)

theorem digit?_eq_some_iff (hb : base ≤ 16) : digit? base c = some d ↔ IsDigit base c d := by
  refine ⟨isDigit_of_digit?, fun ⟨hlt, h⟩ => ?_⟩
  have hd : d < 16 := by omega
  rcases h with rfl | rfl
  all_goals interval_cases d <;> exact if_pos hlt

/-! ## Lists of digits -/

/-- The digits `cs` of `base`, at least one, denote `n`; the highest stands
    first. -/
def Spells (base : Nat) (cs : List Char) (n : Nat) : Prop :=
  cs ≠ [] ∧ ∃ ds : List Nat, List.Forall₂ (IsDigit base) cs ds ∧ Nat.ofDigits base ds.reverse = n

theorem valueFrom?_eq_some_iff (hb : base ≤ 16) : ∀ {m : Nat} {cs : List Char},
    valueFrom? base m cs = some n ↔ ∃ ds : List Nat, List.Forall₂ (IsDigit base) cs ds ∧
      m * base ^ ds.length + Nat.ofDigits base ds.reverse = n
  | m, [] => by simp [valueFrom?, List.forall₂_nil_left_iff]
  | m, c :: cs => by
    have hstep (d : Nat) (ds : List Nat) :
        (m * base + d) * base ^ ds.length + Nat.ofDigits base ds.reverse =
          m * base ^ (d :: ds).length + Nat.ofDigits base (d :: ds).reverse := by
      rw [List.reverse_cons, Nat.ofDigits_append, Nat.ofDigits_singleton, List.length_reverse,
        List.length_cons]
      ring
    simp only [valueFrom?, Option.bind_eq_some_iff, digit?_eq_some_iff hb,
      valueFrom?_eq_some_iff hb, hstep, List.forall₂_cons_left_iff]
    constructor
    · rintro ⟨d, hd, ds, hds, rfl⟩
      exact ⟨_, ⟨d, ds, hd, hds, rfl⟩, rfl⟩
    · rintro ⟨_, ⟨d, ds, hd, hds, rfl⟩, rfl⟩
      exact ⟨d, hd, ds, hds, rfl⟩

theorem value?_eq_some_iff (hb : base ≤ 16) : value? base cs = some n ↔ Spells base cs n := by
  cases cs with
  | nil => simp [value?, Spells]
  | cons c cs => simp [value?, Spells, valueFrom?_eq_some_iff hb]

theorem Spells.isDigit (h : Spells base cs n) (hc : c ∈ cs) : ∃ d, IsDigit base c d := by
  obtain ⟨-, ds, hds, -⟩ := h
  obtain ⟨i, hi, rfl⟩ := List.mem_iff_getElem.1 hc
  exact ⟨_, hds.get hi (hds.length_eq ▸ hi)⟩

/-! ## Reading -/

/-- The mark in front of a number, by the base that it selects. -/
inductive Mark : Nat → List Char → Prop
  | none : Mark 10 []
  | lower : Mark 16 ['0', 'x']
  | upper : Mark 16 ['0', 'X']

/-- What may stand between the mark and the digits. -/
inductive Sign : List Char → Prop
  | none : Sign []
  | plus : Sign ['+']

/-- The text is the number `n`: mark, sign, digits. -/
inductive Written (text : String) (n : Nat) : Prop
  | mk {base : Nat} {mark sign digits : List Char} (hmark : Mark base mark) (hsign : Sign sign)
      (hdigits : Spells base digits n) (htext : text.toList = mark ++ sign ++ digits)

/-- The characters begin with the mark of a hexadecimal number. -/
def Marked (cs : List Char) : Prop := ['0', 'x'] <+: cs ∨ ['0', 'X'] <+: cs

instance (cs : List Char) : Decidable (Marked cs) := instDecidableOr

theorem Mark.base_le (h : Mark base mark) : base ≤ 16 := by
  cases h <;> decide

theorem splitBase_of_mark (h : Mark base mark) (hcs : mark = [] → ¬ Marked cs) :
    splitBase (mark ++ cs) = (base, cs) := by
  cases h with
  | none =>
    have hcs := hcs rfl
    unfold splitBase
    split
    · next h => exact absurd (.inl ⟨_, h.symm⟩) hcs
    · next h => exact absurd (.inr ⟨_, h.symm⟩) hcs
    · rfl
  | lower => rfl
  | upper => rfl

theorem exists_mark (cs : List Char) :
    ∃ mark, Mark (splitBase cs).1 mark ∧ cs = mark ++ (splitBase cs).2 := by
  unfold splitBase
  split
  · exact ⟨_, .lower, rfl⟩
  · exact ⟨_, .upper, rfl⟩
  · exact ⟨_, .none, rfl⟩

/-- Decimal digits do not look like a hexadecimal number. -/
theorem not_marked (hs : Sign sign) (hd : Spells 10 digits n) : ¬ Marked (sign ++ digits) := by
  have hx (c : Char) (hc : digit? 10 c = none) : c ∉ digits := fun h => by
    obtain ⟨d, hd⟩ := hd.isDigit h
    rw [(digit?_eq_some_iff (by decide)).2 hd] at hc
    exact Option.some_ne_none d hc
  cases hs with
  | none =>
    rintro (h | h)
    · exact hx 'x' rfl (h.subset (by simp))
    · exact hx 'X' rfl (h.subset (by simp))
  | plus => simp [Marked]

theorem dropPlus_append (hb : base ≤ 16) (hs : Sign sign) (hd : Spells base digits n) :
    dropPlus (sign ++ digits) = digits := by
  cases hs with
  | none =>
    rw [List.nil_append]
    unfold dropPlus
    split
    · obtain ⟨d, hd⟩ := hd.isDigit List.mem_cons_self
      rw [← digit?_eq_some_iff hb] at hd
      exact absurd hd (by simp [digit?])
    · rfl
  | plus => rfl

theorem exists_sign (cs : List Char) : ∃ sign, Sign sign ∧ cs = sign ++ dropPlus cs := by
  unfold dropPlus
  split
  · exact ⟨_, .plus, rfl⟩
  · exact ⟨_, .none, rfl⟩

theorem read?_eq_some_iff (hb : base ≤ 16) {v : UInt64} :
    read? base cs = some v ↔ Spells base (dropPlus cs) v.toNat := by
  rw [← value?_eq_some_iff hb, read?]
  cases h : value? base (dropPlus cs) with
  | none => simp
  | some n =>
    simp only [Option.ite_none_right_eq_some, Option.some.injEq]
    constructor
    · rintro ⟨hn, rfl⟩
      exact (UInt64.toNat_ofNat_of_lt' hn).symm
    · rintro rfl
      exact ⟨v.toNat_lt_size, UInt64.ofNat_toNat⟩

theorem parse?_eq (text : String) :
    parse? text = read? (splitBase text.toList).1 (splitBase text.toList).2 := rfl

/-- **Reading accepts what is written.**  A text is read as a number if and only if
    it is written as one that fits into 64 bits. -/
theorem parse?_eq_some_iff {v : UInt64} : parse? text = some v ↔ Written text v.toNat := by
  rw [parse?_eq]
  constructor
  · intro h
    obtain ⟨mark, hm, htext⟩ := exists_mark text.toList
    generalize splitBase text.toList = p at h hm htext
    obtain ⟨sign, hs, hcs⟩ := exists_sign p.2
    refine ⟨hm, hs, (read?_eq_some_iff hm.base_le).1 h, ?_⟩
    rw [List.append_assoc, ← hcs, htext]
  · rintro @⟨base, mark, sign, digits, hm, hs, hd, htext⟩
    have hsplit : splitBase text.toList = (base, sign ++ digits) := by
      rw [htext, List.append_assoc]
      refine splitBase_of_mark hm fun hnil => ?_
      subst hnil
      cases hm
      exact not_marked hs hd
    rw [hsplit, read?_eq_some_iff hm.base_le, dropPlus_append hm.base_le hs hd]
    exact hd

/-! ## Printing -/

/-- A text that is printed for `n`: in hexadecimal with zeros up to some width, or
    in decimal. -/
inductive Prints (n : Nat) : String → Prop
  | hex (width : Nat) : Prints n ("0x" ++ paddedHex width n)
  | decimal : Prints n (decimal n)

theorem Spells.append_digit (h : Spells base cs n) (hd : d < base) :
    Spells base (cs ++ [d.digitChar]) (base * n + d) := by
  obtain ⟨-, ds, hds, rfl⟩ := h
  refine ⟨by simp, ds ++ [d], List.rel_append hds (.cons ⟨hd, .inl rfl⟩ .nil), ?_⟩
  rw [List.reverse_append, List.reverse_singleton, List.singleton_append, Nat.ofDigits_cons]
  exact Nat.add_comm _ _

theorem Spells.cons_zero (h : Spells base cs n) (hb : 0 < base) : Spells base ('0' :: cs) n := by
  obtain ⟨-, ds, hds, rfl⟩ := h
  refine ⟨by simp, 0 :: ds, .cons ⟨hb, .inl rfl⟩ hds, ?_⟩
  rw [List.reverse_cons, Nat.ofDigits_append_zero]

theorem spells_digitChar (hd : d < base) : Spells base [d.digitChar] d :=
  ⟨by simp, [d], .cons ⟨hd, .inl rfl⟩ .nil, Nat.ofDigits_singleton⟩

theorem spells_toDigits (hb : 1 < base) (n : Nat) : Spells base (Nat.toDigits base n) n := by
  induction n using Nat.strongRecOn with
  | ind n ih =>
    rw [Nat.toDigits_eq_if hb]
    split_ifs with h
    · exact spells_digitChar h
    · have hlt : n / base < n := Nat.div_lt_self (by omega) hb
      have hmod : n % base < base := Nat.mod_lt _ (by omega)
      have := (ih _ hlt).append_digit hmod
      rwa [Nat.div_add_mod] at this

theorem spells_paddedHex (width n : Nat) : Spells 16 (paddedHex width n).toList n := by
  rw [paddedHex, String.toList_ofList, padLeft]
  induction width - (hexDigits n).length with
  | zero => exact spells_toDigits (by decide) n
  | succ k ih => exact ih.cons_zero (by decide)

theorem Prints.written (h : Prints n text) : Written text n := by
  cases h with
  | hex width =>
    exact ⟨.lower, .none, spells_paddedHex width n, by simp⟩
  | decimal =>
    exact ⟨.none, .none, spells_toDigits (by decide) n, by simp [Numeral.decimal]⟩

theorem IsDigit.mono {base' : Nat} (h : IsDigit base c d) (hb : base ≤ base') :
    IsDigit base' c d :=
  ⟨lt_of_lt_of_le h.1 hb, h.2⟩

/-- Only digits are printed, but for the mark. -/
theorem Prints.isDigit (h : Prints n text) (hc : c ∈ text.toList) :
    c = 'x' ∨ ∃ d, IsDigit 16 c d := by
  cases h with
  | hex width =>
    rw [String.toList_append, List.mem_append] at hc
    rcases hc with hc | hc
    · rcases List.mem_pair.1 hc with rfl | rfl
      · exact .inr ⟨0, by decide, .inl rfl⟩
      · exact .inl rfl
    · exact .inr ((spells_paddedHex width n).isDigit hc)
  | decimal =>
    rw [Numeral.decimal, String.toList_ofList] at hc
    obtain ⟨d, hd⟩ := (spells_toDigits (by decide) n).isDigit hc
    exact .inr ⟨d, hd.mono (by decide)⟩

theorem paddedHex_zero (n : Nat) : paddedHex 0 n = hex n := by
  simp [paddedHex, padLeft, hex]

theorem prints_hex (n : Nat) : Prints n ("0x" ++ hex n) := paddedHex_zero n ▸ .hex 0

end Numeral

/-! ## Numbers and addresses of commands -/

variable {text : String}

theorem Addr.ofText?_eq (text : String) : Addr.ofText? text = Numeral.parse? text := by
  rw [Numeral.parse?_eq, Addr.ofText?]
  generalize text.toList = cs
  split
  · rfl
  · rfl
  · next h₁ h₂ => rw [Numeral.splitBase.eq_3 _ h₁ h₂]

theorem address_eq (text : String) : address text = number text := by
  rw [address, Addr.ofText?_eq]
  rfl

theorem number_eq_ok_iff {v : UInt64} :
    number text = .ok v ↔ Numeral.Written text v.toNat := by
  rw [← Numeral.parse?_eq_some_iff, number]
  cases Numeral.parse? text <;> simp

theorem number_eq_error_iff :
    number text = .error (.badNumber text) ↔ ∀ v : UInt64, ¬ Numeral.Written text v.toNat := by
  simp only [← number_eq_ok_iff, number]
  cases Numeral.parse? text <;> simp

/-- What is printed for a number is read as this number. -/
theorem number_of_prints {v : UInt64} (h : Numeral.Prints v.toNat text) : number text = .ok v :=
  number_eq_ok_iff.2 h.written

theorem address_of_prints {a : Addr} (h : Numeral.Prints a.toNat text) : address text = .ok a :=
  (address_eq text).trans (number_of_prints h)

/-- **Numbers and addresses are read exactly.**  A text is read as the number that it
    is written as, if this is below `2 ^ 64`; any other text is refused and named in
    the failure.  Addresses are read by the same rule. -/
theorem number_reads (text : String) :
    (∀ v : UInt64, number text = .ok v ↔ Numeral.Written text v.toNat) ∧
      (number text = .error (.badNumber text) ↔
        ∀ n, Numeral.Written text n → 2 ^ 64 ≤ n) ∧
      address text = number text := by
  refine ⟨fun v => number_eq_ok_iff, ?_, address_eq text⟩
  rw [number_eq_error_iff]
  constructor
  · intro h n hn
    by_contra hlt
    rw [← UInt64.toNat_ofNat_of_lt' (lt_of_not_ge hlt)] at hn
    exact h _ hn
  · intro h v hv
    exact absurd v.toNat_lt (not_lt_of_ge (h _ hv))

end SourceDebugger
