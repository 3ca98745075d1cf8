/-
  Decoders take from the front.  What one has read it reads again when more bytes
  follow, which it leaves behind those it has left before.

  * `Decoder.Local`, passed from the parts of a decoder to the whole
    (`Local.bind`, `Local.map`);
  * `Value.local_ofForm`: attribute values are read so, whatever their form.
-/
import Mathlib.Tactic.SplitIfs
import SourceDebugger.Dwarf.Value

namespace SourceDebugger

/-! ## Decoders -/

namespace Decoder

variable {α β : Type} {d : Decoder α}

/-- What is behind the bytes that `d` takes does not matter to it. -/
def Local (d : Decoder α) : Prop :=
  ∀ ⦃bs a rest⦄, d bs = .ok (a, rest) → ∀ more, d (bs ++ more) = .ok (a, rest ++ more)

theorem bind_eq_ok {next : α → Decoder β} {bs rest : List UInt8} {b : β} :
    (d >>= next) bs = .ok (b, rest) ↔ ∃ a bs', d bs = .ok (a, bs') ∧ next a bs' = .ok (b, rest) := by
  show Except.bind (d bs) (fun p => next p.1 p.2) = _ ↔ _
  rcases d bs with e | ⟨a, bs'⟩ <;> simp [Except.bind, and_assoc]

theorem map_eq_ok {f : α → β} {bs rest : List UInt8} {b : β} :
    (f <$> d) bs = .ok (b, rest) ↔ ∃ a, d bs = .ok (a, rest) ∧ f a = b := by
  show Except.bind (d bs) (fun p => Except.ok (f p.1, p.2)) = _ ↔ _
  rcases d bs with e | ⟨a, bs'⟩ <;> simp [Except.bind, and_left_comm, and_comm]

@[simp] theorem Local.pure (a : α) : (Pure.pure a : Decoder α).Local := by
  rintro bs _ _ ⟨⟩ more
  rfl

@[simp] theorem Local.fail (e : Malformed) : (fail e : Decoder α).Local := nofun

@[simp] theorem Local.bind {next : α → Decoder β} (hd : d.Local) (hn : ∀ a, (next a).Local) :
    (d >>= next).Local := by
  intro bs b rest h more
  obtain ⟨a, bs', ha, hb⟩ := bind_eq_ok.1 h
  exact bind_eq_ok.2 ⟨a, _, hd ha more, hn a hb more⟩

@[simp] theorem Local.map {f : α → β} (hd : d.Local) : (f <$> d).Local := by
  intro bs b rest h more
  obtain ⟨a, ha, rfl⟩ := map_eq_ok.1 h
  exact map_eq_ok.2 ⟨a, hd ha more, rfl⟩

@[simp] theorem local_byte : byte.Local := by
  intro bs b rest h more
  cases bs with
  | nil => cases h
  | cons => cases h; rfl

@[simp] theorem local_take (n : Nat) : (take n).Local := by
  intro bs taken rest h more
  simp only [take] at h ⊢
  split_ifs at h with hn
  rw [List.splitAt_eq] at h
  cases h
  rw [if_pos (by simp; omega), List.splitAt_eq, List.take_append_of_le_length hn,
    List.drop_append_of_le_length hn]

@[simp] theorem local_number (order : ByteOrder) (n : Nat) : (number order n).Local :=
  .map (local_take n)

/-- A decoder that has taken bytes itself and goes on with `d`. -/
theorem map_append {f : α → β} {bs rest : List UInt8} {b : β} {more : List UInt8}
    (hd : ∀ ⦃a rest⦄, d bs = .ok (a, rest) → d (bs ++ more) = .ok (a, rest ++ more))
    (h : (d bs).map (fun p => (f p.1, p.2)) = .ok (b, rest)) :
    (d (bs ++ more)).map (fun p => (f p.1, p.2)) = .ok (b, rest ++ more) := by
  rcases ha : d bs with e | ⟨a, bs'⟩
  · rw [ha] at h
    cases h
  · rw [ha] at h
    cases h
    rw [hd ha]
    rfl

@[simp] theorem local_text : text.Local := by
  intro bs
  induction bs with
  | nil => exact nofun
  | cons b bs ih =>
    intro t rest h more
    rw [text] at h
    rw [List.cons_append, text]
    split_ifs at h ⊢
    · cases h
      rfl
    · exact map_append (f := (b :: ·)) (fun _ _ ht => ih ht more) h

@[simp] theorem local_unsignedFrom (shift : Nat) : (unsignedFrom shift).Local := by
  intro bs
  induction bs generalizing shift with
  | nil => exact nofun
  | cons b bs ih =>
    intro n rest h more
    rw [unsignedFrom] at h
    rw [List.cons_append, unsignedFrom]
    split_ifs at h ⊢
    · exact map_append (f := (group b * 2 ^ shift + ·)) (fun _ _ hn => ih _ hn more) h
    · cases h
      rfl

@[simp] theorem local_signedFrom (shift : Nat) : (signedFrom shift).Local := by
  intro bs
  induction bs generalizing shift with
  | nil => exact nofun
  | cons b bs ih =>
    intro n rest h more
    rw [signedFrom] at h
    rw [List.cons_append, signedFrom]
    split_ifs at h ⊢
    · exact map_append (f := (((group b * 2 ^ shift : Nat) : Int) + ·))
        (fun _ _ hn => ih _ hn more) h
    all_goals
      cases h
      rfl

@[simp] theorem local_unsigned : unsigned.Local := local_unsignedFrom 0

@[simp] theorem local_signed : signed.Local := local_signedFrom 0

@[simp] theorem local_unsigned16 : unsigned16.Local := by
  refine .bind local_byte fun a => ?_
  split_ifs
  · exact .pure _
  refine .bind local_byte fun b => ?_
  split_ifs
  · exact .pure _
  refine .bind local_byte fun c => ?_
  split_ifs
  · exact .bind (.fail _) fun _ => .pure _
  · exact .bind (.pure _) fun _ => .pure _

end Decoder

namespace Dwarf

open Decoder

variable (e : Encoding)

@[simp] theorem Encoding.local_number (n : Nat) : (e.number n).Local :=
  Decoder.local_number e.order n

@[simp] theorem Encoding.local_offset : e.offset.Local := e.local_number e.offsetBytes

@[simp] theorem Encoding.local_address : e.address.Local := .map (e.local_number e.addressBytes)

namespace Value

@[simp] theorem local_data (n : Nat) : (data e n).Local := .map (e.local_number n)

@[simp] theorem local_dataOrOffset (name : AttributeName) (n : Nat) :
    (dataOrOffset e name n).Local := by
  unfold dataOrOffset
  split_ifs <;> simp

@[simp] theorem local_blockOf {size : Decoder Nat} (h : size.Local) : (blockOf size).Local :=
  .bind h fun n => .bind (local_take n) fun _ => .pure _

@[simp] theorem local_ofEntryForm (form : Nat) : (ofEntryForm e form).Local := by
  unfold ofEntryForm ofEntryForm?
  split <;> simp

variable (name : AttributeName) (implicit : Option Int)

/-- Only a value behind its form needs a limit. -/
theorem ofFormUpTo_succ {form : Nat} (h : form ≠ 0x16) (m n : Nat) :
    ofFormUpTo e name implicit (m + 1) form = ofFormUpTo e name implicit (n + 1) form := by
  unfold ofFormUpTo
  split
  case h_10 => exact absurd rfl h
  all_goals rfl

theorem local_ofFormUpTo (limit form : Nat) : (ofFormUpTo e name implicit limit form).Local := by
  induction limit generalizing implicit form with
  | zero => exact .fail _
  | succ limit ih =>
    unfold ofFormUpTo
    cases implicit <;> split <;> simp [ih]

/-- A value that is read is read with every higher limit. -/
theorem ofFormUpTo_mono {m n form : Nat} (h : m ≤ n) {bs rest : List UInt8} {v : Value}
    (hv : ofFormUpTo e name implicit m form bs = .ok (v, rest)) :
    ofFormUpTo e name implicit n form bs = .ok (v, rest) := by
  induction m generalizing n implicit form bs with
  | zero => cases hv
  | succ m ih =>
    obtain ⟨n, rfl⟩ := Nat.exists_eq_add_of_le' (Nat.le_of_add_left_le h)
    by_cases hform : form = 0x16
    · subst hform
      obtain ⟨inner, bs', hinner, hv⟩ := bind_eq_ok.1 hv
      exact bind_eq_ok.2 ⟨inner, bs', hinner, ih none (by omega) hv⟩
    · rwa [ofFormUpTo_succ e name implicit hform n m]

/-- **A value is read from the front**, whatever its form. -/
theorem local_ofForm (form : Nat) : (ofForm e name form implicit).Local := by
  intro bs v rest h more
  exact ofFormUpTo_mono e name implicit (by simp)
    (local_ofFormUpTo e name implicit (bs.length + 2) form h more)

end Value

end Dwarf

end SourceDebugger
