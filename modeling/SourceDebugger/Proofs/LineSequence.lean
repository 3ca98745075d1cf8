/-
  Line tables that are made of sequences.  A sequence describes adjoining code: its
  rows are in the order of their addresses, several may begin at one, and a row that
  describes no code ends it.  The sequences of a table may come in any order.

  * `LineSequence`, `LineTable.ofSequences`: sequences, and the tables made of them;
  * `LineSequence.LastUpTo`: the last row of a sequence that begins at an address or
    before it;
  * `LineTable.findAddress?_iff_isRowAt`: the scan over pairs of rows finds that row of
    the sequence around the address, and nothing where there is no sequence.
-/
import SourceDebugger.Proofs.Place

namespace SourceDebugger

/-! ## Sequences -/

/-- Rows of adjoining code, and the row that ends them. -/
structure LineSequence where
  rows : List LineRow
  stop : LineRow
  code (row : LineRow) : row ∈ rows → ¬ row.endSequence
  ended : stop.endSequence
  ascending : (rows ++ [stop]).Pairwise (·.address ≤ ·.address)

namespace LineSequence

variable {s : LineSequence} {row : LineRow} {before after : List LineRow} {a : Addr}

/-- The rows as they stand in a table. -/
def toRows (s : LineSequence) : List LineRow := s.rows ++ [s.stop]

/-- Where the code begins; a sequence without rows has none. -/
def start (s : LineSequence) : Addr := (s.rows.headD s.stop).address

/-- The code at `a` belongs to the sequence. -/
def Contains (s : LineSequence) (a : Addr) : Prop := s.start ≤ a ∧ a < s.stop.address

instance (s : LineSequence) (a : Addr) : Decidable (s.Contains a) :=
  inferInstanceAs (Decidable (_ ∧ _))

/-- The row between `before` and `after` is the last one of the sequence that begins at
    `a` or before it. -/
structure LastUpTo (s : LineSequence) (a : Addr) (before : List LineRow) (row : LineRow)
    (after : List LineRow) : Prop where
  rows : s.rows = before ++ row :: after
  le : row.address ≤ a
  behind (next : LineRow) : next ∈ after → a < next.address

theorem mem_toRows : row ∈ s.toRows ↔ row ∈ s.rows ∨ row = s.stop := by
  rw [toRows, List.mem_append, List.mem_singleton]

theorem rows_ascending (s : LineSequence) : s.rows.Pairwise (·.address ≤ ·.address) :=
  (List.pairwise_append.1 s.ascending).1

theorem le_stop (h : row ∈ s.rows) : row.address ≤ s.stop.address :=
  (List.pairwise_append.1 s.ascending).2.2 row h s.stop (List.mem_singleton_self _)

theorem start_le (h : row ∈ s.rows) : s.start ≤ row.address := by
  have hasc := s.rows_ascending
  rw [start]
  cases hrows : s.rows with
  | nil =>
    rw [hrows] at h
    cases h
  | cons first rows =>
    rw [hrows] at h hasc
    rcases List.mem_cons.1 h with rfl | h
    · exact UInt64.le_refl _
    · exact (List.pairwise_cons.1 hasc).1 row h

theorem exists_le_of_contains (h : s.Contains a) : ∃ row ∈ s.rows, row.address ≤ a := by
  obtain ⟨hstart, hstop⟩ := h
  rw [start] at hstart
  cases hrows : s.rows with
  | nil =>
    rw [hrows] at hstart
    exact absurd hstart (UInt64.not_le.2 hstop)
  | cons first rows =>
    rw [hrows] at hstart
    exact ⟨first, List.mem_cons_self, hstart⟩

theorem exists_last_le {rows : List LineRow} (h : ∃ row ∈ rows, row.address ≤ a) :
    ∃ before row after, rows = before ++ row :: after ∧ row.address ≤ a ∧
      ∀ next ∈ after, a < next.address := by
  induction rows with
  | nil =>
    obtain ⟨row, hmem, -⟩ := h
    cases hmem
  | cons row rows ih =>
    by_cases hrest : ∃ row ∈ rows, row.address ≤ a
    · obtain ⟨before, last, after, rfl, hlast⟩ := ih hrest
      exact ⟨row :: before, last, after, rfl, hlast⟩
    · have hbehind : ∀ next ∈ rows, a < next.address := fun next hnext =>
        UInt64.not_le.1 fun hle => hrest ⟨next, hnext, hle⟩
      obtain ⟨first, hfirst, hle⟩ := h
      rcases List.mem_cons.1 hfirst with rfl | hfirst
      · exact ⟨[], first, rows, rfl, hle, hbehind⟩
      · exact absurd ⟨first, hfirst, hle⟩ hrest

theorem exists_lastUpTo (h : s.Contains a) :
    ∃ before row after, s.LastUpTo a before row after := by
  obtain ⟨before, row, after, hrows, hle, hbehind⟩ := exists_last_le (exists_le_of_contains h)
  exact ⟨before, row, after, hrows, hle, hbehind⟩

section
variable (h : s.LastUpTo a before row after)
include h

theorem LastUpTo.mem : row ∈ s.rows := by simp [h.rows]

theorem LastUpTo.ascending : (before ++ row :: after).Pairwise (·.address ≤ ·.address) :=
  h.rows ▸ s.rows_ascending

theorem LastUpTo.before_le : ∀ r ∈ before, r.address ≤ row.address := fun r hr =>
  (List.pairwise_append.1 h.ascending).2.2 r hr row List.mem_cons_self

/-- If a row begins at `a`, then the last one up to `a` does. -/
theorem LastUpTo.address_eq {first : LineRow} (hfirst : first ∈ s.rows)
    (ha : first.address = a) : row.address = a := by
  refine UInt64.le_antisymm h.le ?_
  rw [h.rows] at hfirst
  rcases List.mem_append.1 hfirst with hbefore | hrest
  · exact ha ▸ h.before_le first hbefore
  · rcases List.mem_cons.1 hrest with rfl | hafter
    · exact ha ▸ UInt64.le_refl _
    · exact absurd (h.behind first hafter) (ha ▸ UInt64.lt_irrefl _)

end

end LineSequence

namespace LineTable

open LineSequence

variable {t : LineTable} {row : LineRow} {s : LineSequence} {ss earlier later : List LineSequence}
  {before after : List LineRow} {a : Addr} {i : Nat}

/-! ## Scans -/

/-- The scan for `a` finds nothing in `rows`, nor in their last one with a row behind. -/
def Passes (rows : List LineRow) (a : Addr) : Prop :=
  ∀ t, findAddress? (rows ++ t) a = (findAddress? t a).map (· + rows.length)

theorem map_add_map_add (o : Option Nat) (m n : Nat) :
    (o.map (· + m)).map (· + n) = o.map (· + (n + m)) := by
  rw [Option.map_map]
  congr 1
  funext k
  exact (Nat.add_assoc k m n).trans (congrArg (k + ·) (Nat.add_comm m n))

theorem passes_nil : Passes [] a := fun _ => Option.map_id'.symm

theorem Passes.append {rows rows' : List LineRow} (h : Passes rows a) (h' : Passes rows' a) :
    Passes (rows ++ rows') a := by
  intro t
  rw [List.append_assoc, h, h', map_add_map_add, List.length_append]

theorem passes_singleton (h : ∀ next, ¬ covers row next a) : Passes [row] a := by
  intro t
  cases t with
  | nil => rfl
  | cons next t => exact if_neg (h next)

/-- Rows that begin behind `a` are passed. -/
theorem passes_of_lt {rows : List LineRow} (h : ∀ row ∈ rows, a < row.address) :
    Passes rows a := by
  induction rows with
  | nil => exact passes_nil
  | cons row rows ih =>
    have hrow : ∀ next, ¬ covers row next a := fun next hc =>
      UInt64.not_le.2 (h row List.mem_cons_self) (covers_iff.1 hc).2.1
    exact (passes_singleton hrow).append (ih fun r hr => h r (List.mem_cons_of_mem _ hr))

/-- Rows are passed as long as the next one does not begin behind `a`. -/
theorem findAddress?_append_of_le {rows : List LineRow} (h : ∀ row ∈ rows, row.address ≤ a)
    (hrow : row.address ≤ a) (t : LineTable) :
    findAddress? (rows ++ row :: t) a = (findAddress? (row :: t) a).map (· + rows.length) := by
  induction rows with
  | nil => exact passes_nil (row :: t)
  | cons first rows ih =>
    have hrest : ∀ r ∈ rows, r.address ≤ a := fun r hr => h r (List.mem_cons_of_mem _ hr)
    have hpass (next : LineRow) (hnext : next.address ≤ a) : ¬ covers first next a := fun hc =>
      UInt64.not_le.2 (covers_iff.1 hc).2.2 hnext
    have hskip : findAddress? (first :: (rows ++ row :: t)) a =
        (findAddress? (rows ++ row :: t) a).map (· + 1) := by
      cases rows with
      | nil => exact if_neg (hpass row hrow)
      | cons next rows => exact if_neg (hpass next (hrest next List.mem_cons_self))
    rw [List.cons_append, hskip, ih hrest, map_add_map_add, List.length_cons, Nat.add_comm]

/-- A sequence around another place is passed as a whole. -/
theorem passes_toRows (h : ¬ s.Contains a) : Passes s.toRows a := by
  have hstop : Passes [s.stop] a := passes_singleton fun next hc => (covers_iff.1 hc).1 s.ended
  by_cases hstart : s.start ≤ a
  · have hle : s.stop.address ≤ a := UInt64.not_lt.1 fun hlt => h ⟨hstart, hlt⟩
    have hrows : ∀ row ∈ s.rows, row.address ≤ a := fun row hrow =>
      UInt64.le_trans (le_stop hrow) hle
    intro t
    rw [toRows, List.append_assoc, List.singleton_append, findAddress?_append_of_le hrows hle,
      ← List.singleton_append, hstop, map_add_map_add, List.length_append]
  · have hrows : ∀ row ∈ s.rows, a < row.address := fun row hrow =>
      UInt64.lt_of_lt_of_le (UInt64.not_le.1 hstart) (start_le hrow)
    exact (passes_of_lt hrows).append hstop

/-- In the sequence around `a` the last row up to `a` is found. -/
theorem findAddress?_of_lastUpTo (h : s.LastUpTo a before row after) (hin : s.Contains a)
    (t : LineTable) : findAddress? (s.toRows ++ t) a = some before.length := by
  have hbefore : ∀ r ∈ before, r.address ≤ a := fun r hr =>
    UInt64.le_trans (h.before_le r hr) h.le
  have hfound : findAddress? (row :: (after ++ s.stop :: t)) a = some 0 := by
    have hcode := s.code row h.mem
    cases hafter : after with
    | nil => rw [List.nil_append, findAddress?, if_pos (covers_iff.2 ⟨hcode, h.le, hin.2⟩)]
    | cons next rest =>
      have hnext : a < next.address := h.behind next (hafter ▸ List.mem_cons_self)
      rw [List.cons_append, findAddress?, if_pos (covers_iff.2 ⟨hcode, h.le, hnext⟩)]
  have hrows : s.toRows ++ t = before ++ row :: (after ++ s.stop :: t) := by
    simp [toRows, h.rows]
  rw [hrows, findAddress?_append_of_le hbefore h.le, hfound, Option.map_some, Nat.zero_add]

/-! ## Tables of sequences -/

/-- The sequences one behind the other. -/
def ofSequences (ss : List LineSequence) : LineTable := ss.flatMap LineSequence.toRows

/-- No code belongs to two of the sequences. -/
def Disjoint (ss : List LineSequence) : Prop :=
  ss.Pairwise fun s s' => ∀ a, s.Contains a → ¬ s'.Contains a

/-- Where two ranges meet one of them begins. -/
theorem disjoint_iff : Disjoint ss ↔ ss.Pairwise fun s s' =>
    ¬ (s.Contains s.start ∧ s'.Contains s.start) ∧
      ¬ (s.Contains s'.start ∧ s'.Contains s'.start) := by
  refine ⟨fun h => h.imp fun hss => ?_, fun h => h.imp fun {s s'} hstarts a hin hin' => ?_⟩
  · exact ⟨fun ⟨h, h'⟩ => hss _ h h', fun ⟨h, h'⟩ => hss _ h h'⟩
  · obtain ⟨hs, hs'⟩ := hstarts
    obtain ⟨hle, hlt⟩ := hin
    obtain ⟨hle', hlt'⟩ := hin'
    by_cases hstart : s.start ≤ s'.start
    · exact hs' ⟨⟨hstart, UInt64.lt_of_le_of_lt hle' hlt⟩,
        UInt64.le_refl _, UInt64.lt_of_le_of_lt hle' hlt'⟩
    · exact hs ⟨⟨UInt64.le_refl _, UInt64.lt_of_le_of_lt hle hlt⟩,
        UInt64.le_of_lt (UInt64.not_le.1 hstart), UInt64.lt_of_le_of_lt hle hlt'⟩

instance (ss : List LineSequence) : Decidable (Disjoint ss) :=
  decidable_of_iff _ disjoint_iff.symm

/-- Row `i` of the table is the last one up to `a` in the sequence that `a` is in. -/
inductive IsRowAt (ss : List LineSequence) (a : Addr) (i : Nat) : Prop
  | intro {earlier later : List LineSequence} {s : LineSequence} {before after : List LineRow}
      {row : LineRow} (sequences : ss = earlier ++ s :: later) (contains : s.Contains a)
      (last : s.LastUpTo a before row after)
      (index : i = (ofSequences earlier).length + before.length)

theorem ofSequences_cons : ofSequences (s :: ss) = s.toRows ++ ofSequences ss := rfl

theorem ofSequences_append :
    ofSequences (earlier ++ later) = ofSequences earlier ++ ofSequences later :=
  List.flatMap_append

/-- Sequences around other places are passed. -/
theorem passes_ofSequences (h : ∀ s ∈ ss, ¬ s.Contains a) : Passes (ofSequences ss) a := by
  induction ss with
  | nil => exact passes_nil
  | cons s ss ih =>
    exact (passes_toRows (h s List.mem_cons_self)).append
      (ih fun s' hs' => h s' (List.mem_cons_of_mem _ hs'))

theorem findAddress?_eq_none (h : ∀ s ∈ ss, ¬ s.Contains a) :
    findAddress? (ofSequences ss) a = none := by
  have hpasses := passes_ofSequences h []
  rwa [List.append_nil] at hpasses

theorem exists_isRowAt (hs : s ∈ ss) (h : s.Contains a) : ∃ i, IsRowAt ss a i := by
  obtain ⟨earlier, later, hss⟩ := List.append_of_mem hs
  obtain ⟨before, row, after, hlast⟩ := exists_lastUpTo h
  exact ⟨_, hss, h, hlast, rfl⟩

theorem IsRowAt.findAddress?_eq (h : IsRowAt ss a i) (disjoint : Disjoint ss) :
    findAddress? (ofSequences ss) a = some i := by
  obtain ⟨rfl, hin, hlast, rfl⟩ := h
  have hearlier := passes_ofSequences fun s' hs' hin' =>
    (List.pairwise_append.1 disjoint).2.2 s' hs' _ List.mem_cons_self a hin' hin
  rw [ofSequences_append, hearlier, ofSequences_cons, findAddress?_of_lastUpTo hlast hin,
    Option.map_some, Nat.add_comm]

/-- **The scan is the lookup in the sequence.**  At an address in the range of a
    sequence the last row of that sequence is found that begins there or before;
    between the sequences, before and behind them nothing is. -/
theorem findAddress?_iff_isRowAt (disjoint : Disjoint ss) (a : Addr) :
    (∀ i, findAddress? (ofSequences ss) a = some i ↔ IsRowAt ss a i) ∧
      (findAddress? (ofSequences ss) a = none ↔ ∀ s ∈ ss, ¬ s.Contains a) := by
  by_cases hin : ∃ s ∈ ss, s.Contains a
  · obtain ⟨s, hs, hcontains⟩ := hin
    obtain ⟨j, hj⟩ := exists_isRowAt hs hcontains
    have hfound := hj.findAddress?_eq disjoint
    refine ⟨fun i => ⟨fun hi => ?_, fun hi => hi.findAddress?_eq disjoint⟩, ?_⟩
    · obtain rfl : j = i := Option.some_inj.1 (hfound.symm.trans hi)
      exact hj
    · rw [hfound]
      exact ⟨nofun, fun hout => absurd hcontains (hout s hs)⟩
  · have hout : ∀ s ∈ ss, ¬ s.Contains a := fun s hs hcontains => hin ⟨s, hs, hcontains⟩
    have hnone := findAddress?_eq_none hout
    refine ⟨fun i => ⟨fun hi => ?_, fun hi => hi.findAddress?_eq disjoint⟩, ?_⟩
    · rw [hnone] at hi
      cases hi
    · exact ⟨fun _ => hout, fun _ => hnone⟩

/-- The code at 0x2000 before that at 0x1000, where two rows begin at 0x1004, and a
    sequence at 0x1004 that ends where it begins. -/
def scattered : List LineSequence :=
  [⟨[⟨0x2000, "main.c", 9, true, false⟩], ⟨0x2010, "main.c", 9, true, true⟩,
      by decide, by decide, by decide⟩,
    ⟨[⟨0x1004, "main.c", 7, true, false⟩], ⟨0x1004, "main.c", 7, true, true⟩,
      by decide, by decide, by decide⟩,
    ⟨[⟨0x1000, "main.c", 1, true, false⟩, ⟨0x1004, "main.c", 2, false, false⟩,
        ⟨0x1004, "main.c", 3, true, false⟩], ⟨0x1010, "main.c", 3, true, true⟩,
      by decide, by decide, by decide⟩]

/-- The second of the rows that begin at 0x1004. -/
theorem isRowAt_scattered : Disjoint scattered ∧ IsRowAt scattered 0x1008 6 := by
  have hdisjoint : Disjoint scattered := by decide +kernel
  have hfound : findAddress? (ofSequences scattered) 0x1008 = some 6 := by decide +kernel
  exact ⟨hdisjoint, ((findAddress?_iff_isRowAt hdisjoint 0x1008).1 6).1 hfound⟩

end LineTable

end SourceDebugger
