/-
  The entries of a unit form a tree, and are written in depth-first order: behind an
  entry stand those below it, which a null entry ends, and behind these its siblings.

  * `Entry.next_append`: an entry is read from the front of the bytes;
  * `Forest`, `Forest.entries`, `Forest.Written`: trees of entries, their depth-first
    order, and how they are written;
  * `Forest.Written.all_eq`: what is read of trees are their entries in this order.
-/
import SourceDebugger.Dwarf.Unit
import SourceDebugger.Proofs.Decoder

namespace SourceDebugger.Dwarf

variable {e : Encoding} {shapes : List Abbreviation}

/-! ## Single entries -/

namespace Entry

variable {entry : Entry} {bytes rest : List UInt8}

theorem attributesOf_append {specs : List AttributeSpec} {as : List Attribute}
    (h : attributesOf e specs bytes = (as, .ok rest)) (more : List UInt8) :
    attributesOf e specs (bytes ++ more) = (as, .ok (rest ++ more)) := by
  induction specs generalizing bytes as with
  | nil =>
    cases h
    rfl
  | cons spec specs ih =>
    rw [attributesOf] at h ⊢
    rcases hv : (Value.ofForm e spec.name spec.form spec.implicit).run bytes with _ | ⟨v, bytes'⟩
    · rw [hv] at h
      cases h
    rcases htail : attributesOf e specs bytes' with ⟨as', ending⟩
    simp only [hv, htail] at h
    cases h
    simp only [StateT.run] at hv ⊢
    simp only [Value.local_ofForm e spec.name spec.implicit spec.form hv more, ih htail]

/-- What stands behind an entry does not matter to it. -/
theorem next_append {found : Option Entry} (h : next e shapes bytes = (found, .ok rest))
    (more : List UInt8) : next e shapes (bytes ++ more) = (found, .ok (rest ++ more)) := by
  rw [next] at h ⊢
  rcases hcode : Decoder.unsigned.run bytes with _ | ⟨code, bytes'⟩
  · rw [hcode] at h
    cases h
  have hmore : Decoder.unsigned.run (bytes ++ more) = .ok (code, bytes' ++ more) :=
    Decoder.local_unsigned hcode more
  simp only [hcode, hmore] at h ⊢
  split_ifs at h ⊢
  · cases h
    rfl
  · cases hshape : Abbreviation.find? shapes code with
    | none =>
      rw [hshape] at h
      cases h
    | some shape =>
      rcases has : attributesOf e shape.attributes bytes' with ⟨as, ending⟩
      simp only [hshape, has] at h
      cases h
      simp only [attributesOf_append has]

theorem ne_nil_of_next (h : next e shapes bytes = (some entry, .ok rest)) : bytes ≠ [] := by
  rintro rfl
  cases h

theorem allUpTo_entry (h : next e shapes bytes = (some entry, .ok [])) (limit : Nat)
    (rest : List UInt8) : allUpTo e shapes (limit + 1) (bytes ++ rest) =
      (entry :: (allUpTo e shapes limit rest).1, (allUpTo e shapes limit rest).2) := by
  have hne : (bytes ++ rest).isEmpty = false := by simp [ne_nil_of_next h]
  rw [allUpTo, next_append h rest, hne]
  rfl

theorem allUpTo_null (limit : Nat) (rest : List UInt8) :
    allUpTo e shapes (limit + 1) (0 :: rest) = allUpTo e shapes limit rest := rfl

theorem allUpTo_nil (limit : Nat) : allUpTo e shapes limit [] = ([], .ok ()) := by
  cases limit <;> rfl

end Entry

/-! ## Trees -/

/-- Trees of entries in a row: an entry, the trees below it, and those behind it. -/
inductive Forest where
  | nil
  | node (entry : Entry) (below siblings : Forest)

namespace Forest

/-- The entries in depth-first order. -/
def entries : Forest → List Entry
  | nil => []
  | node entry below siblings => entry :: (below.entries ++ siblings.entries)

/-- How trees are written.  There may be no list below an entry, or one that is
    empty. -/
inductive Written (e : Encoding) (shapes : List Abbreviation) : Forest → List UInt8 → Prop where
  | nil : Written e shapes nil []
  | leaf {entry : Entry} {siblings : Forest} {bytes rest : List UInt8}
      (entry_written : Entry.next e shapes bytes = (some entry, .ok []))
      (siblings_written : Written e shapes siblings rest) :
      Written e shapes (node entry nil siblings) (bytes ++ rest)
  | node {entry : Entry} {below siblings : Forest} {bytes inner rest : List UInt8}
      (entry_written : Entry.next e shapes bytes = (some entry, .ok []))
      (below_written : Written e shapes below inner)
      (siblings_written : Written e shapes siblings rest) :
      Written e shapes (node entry below siblings) (bytes ++ (inner ++ 0 :: rest))

variable {f : Forest} {bytes : List UInt8}

/-- The entries of trees are read first, and then what stands behind them. -/
theorem Written.allUpTo_eq (h : f.Written e shapes bytes) : ∃ k ≤ bytes.length, ∀ limit rest,
    Entry.allUpTo e shapes (k + limit) (bytes ++ rest) =
      (f.entries ++ (Entry.allUpTo e shapes limit rest).1,
        (Entry.allUpTo e shapes limit rest).2) := by
  induction h with
  | nil => exact ⟨0, Nat.le_refl 0, fun limit rest => by simp [entries]⟩
  | @leaf entry siblings bytes behind hentry _ ih =>
    obtain ⟨k, hk, hread⟩ := ih
    have hlength := List.length_pos_iff.2 (Entry.ne_nil_of_next hentry)
    refine ⟨k + 1, by rw [List.length_append]; omega, fun limit rest => ?_⟩
    rw [Nat.add_right_comm, List.append_assoc, Entry.allUpTo_entry hentry, hread]
    rfl
  | @node entry below siblings bytes inner behind hentry _ _ ihb ihs =>
    obtain ⟨k, hk, hbelow⟩ := ihb
    obtain ⟨l, hl, hsiblings⟩ := ihs
    have hlength := List.length_pos_iff.2 (Entry.ne_nil_of_next hentry)
    refine ⟨k + (l + 1) + 1, by simp; omega, fun limit rest => ?_⟩
    have hlimit : k + (l + 1) + 1 + limit = k + (l + limit + 1) + 1 := by omega
    rw [hlimit, List.append_assoc, List.append_assoc, List.cons_append,
      Entry.allUpTo_entry hentry, hbelow, Entry.allUpTo_null, hsiblings]
    simp [entries]

/-- **Entries are read in depth-first order**, whatever the shape of the trees. -/
theorem Written.all_eq (h : f.Written e shapes bytes) :
    Entry.all e shapes bytes = (f.entries, .ok ()) := by
  obtain ⟨k, hk, hread⟩ := h.allUpTo_eq
  have hlimit : bytes.length = k + (bytes.length - k) := by omega
  have hall := hread (bytes.length - k) []
  rwa [List.append_nil, ← hlimit, Entry.allUpTo_nil, List.append_nil] at hall

end Forest

end SourceDebugger.Dwarf
