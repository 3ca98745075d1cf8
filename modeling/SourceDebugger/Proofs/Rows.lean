/-
  Which rows of the line tables describe the code at an address, a function, a line.

  * `Resolver.functionLines_begins`: the rows of a function begin with the row at its
    low address, if the first unit around that address has one;
  * `Resolver.functionLines_spans`: in a table of sequences they are a block of one
    sequence, with just the addresses inside the function;
  * `Resolver.lineEntry_addressForLine`: where every address is described once, from
    lines to addresses and from addresses to lines one comes to the same row.
-/
import SourceDebugger.Proofs.LineSequence

namespace SourceDebugger

open SourceDebugger.Action

/-! ## Rows of a function -/

/-- The row describes code before the end of `f`. -/
def LineRow.beginsIn (row : LineRow) (f : Function) : Bool :=
  !row.endSequence && row.address < f.high

theorem LineRow.beginsIn_iff {row : LineRow} {f : Function} :
    row.beginsIn f ↔ ¬ row.endSequence ∧ row.address < f.high := by
  simp [beginsIn]

/-- If what has the property comes first, then it is all that has it. -/
theorem takeWhile_eq_filter {α : Type} {p : α → Bool} {l : List α}
    (h : l.Pairwise fun x y => p y → p x) : l.takeWhile p = l.filter p := by
  induction l with
  | nil => rfl
  | cons x l ih =>
    obtain ⟨hx, hl⟩ := List.pairwise_cons.1 h
    by_cases hp : p x
    · rw [List.takeWhile_cons_of_pos hp, List.filter_cons_of_pos hp, ih hl]
    · rw [List.takeWhile_cons_of_neg hp, List.filter_cons_of_neg hp, eq_comm,
        List.filter_eq_nil_iff]
      exact fun y hy hpy => hp (hx y hy hpy)

/-- What does not have the property ends the search. -/
theorem takeWhile_append_cons {α : Type} {p : α → Bool} {x : α} (hx : ¬ p x) (l l' : List α) :
    (l ++ x :: l').takeWhile p = l.takeWhile p := by
  rw [List.takeWhile_append, List.takeWhile_cons_of_neg hx, List.append_nil]
  split_ifs with hall
  · exact (List.takeWhile_prefix p).eq_of_length hall |>.symm
  · rfl

namespace LineSequence

variable {seq : LineSequence} {f : Function} {before after : List LineRow} {row : LineRow}
  {a : Addr}

/-- `block` is the part of the sequence that describes `f`. -/
structure Spans (seq : LineSequence) (f : Function) (block : List LineRow) : Prop where
  contiguous : block <:+: seq.rows
  code (row : LineRow) : row ∈ block → ¬ row.endSequence
  /-- No address is missed and none is added; of rows at one address some may be. -/
  addresses (a : Addr) :
    (∃ row ∈ block, row.address = a) ↔ f.contains a ∧ ∃ row ∈ seq.rows, row.address = a
  first : block.head?.map (·.address) = some f.low

section
variable (h : seq.LastUpTo a before row after)
include h

theorem LastUpTo.mem_of_mem {r : LineRow} (hr : r ∈ row :: after) : r ∈ seq.rows :=
  h.rows ▸ List.mem_append_right before hr

/-- The rows before the end of `f` come first. -/
theorem LastUpTo.mem_takeWhile {r : LineRow} :
    r ∈ (row :: after).takeWhile (·.beginsIn f) ↔ r ∈ row :: after ∧ r.address < f.high := by
  have hfirst : (row :: after).Pairwise fun r r' => r'.beginsIn f → r.beginsIn f := by
    refine (List.pairwise_append.1 h.ascending).2.1.imp_of_mem fun {r r'} hr _ hle hr' => ?_
    have hhigh := (LineRow.beginsIn_iff.1 hr').2
    exact LineRow.beginsIn_iff.2
      ⟨seq.code r (h.mem_of_mem hr), UInt64.lt_of_le_of_lt hle hhigh⟩
  rw [takeWhile_eq_filter hfirst, List.mem_filter, LineRow.beginsIn_iff]
  exact ⟨fun ⟨hr, hin⟩ => ⟨hr, hin.2⟩, fun ⟨hr, hin⟩ => ⟨hr, seq.code r (h.mem_of_mem hr), hin⟩⟩

theorem LastUpTo.le_of_mem {r : LineRow} (hr : r ∈ row :: after) : row.address ≤ r.address := by
  rcases List.mem_cons.1 hr with rfl | hafter
  · exact UInt64.le_refl _
  · exact UInt64.le_of_lt (UInt64.lt_of_le_of_lt h.le (h.behind r hafter))

end

/-- From the last row at the beginning of `f` on the rows are taken up to its end. -/
theorem LastUpTo.spans (h : seq.LastUpTo f.low before row after) (hlow : row.address = f.low)
    (nonempty : f.low < f.high) : seq.Spans f ((row :: after).takeWhile (·.beginsIn f)) where
  contiguous := by
    rw [h.rows]
    exact (List.takeWhile_prefix _).isInfix.trans (List.suffix_append before _).isInfix
  code r hr := seq.code r (h.mem_of_mem (h.mem_takeWhile.1 hr).1)
  addresses a := by
    rw [Function.contains, Bool.and_eq_true, decide_eq_true_iff, decide_eq_true_iff]
    constructor
    · rintro ⟨r, hr, rfl⟩
      obtain ⟨hr, hhigh⟩ := h.mem_takeWhile.1 hr
      exact ⟨⟨hlow ▸ h.le_of_mem hr, hhigh⟩, r, h.mem_of_mem hr, rfl⟩
    · rintro ⟨⟨hle, hhigh⟩, r, hr, rfl⟩
      rcases List.mem_append.1 (h.rows ▸ hr) with hbefore | hrest
      · -- a row at the beginning of `f`, of which only the last one is taken
        have heq : r.address = row.address :=
          UInt64.le_antisymm (h.before_le r hbefore) (hlow ▸ hle)
        exact ⟨row, h.mem_takeWhile.2 ⟨List.mem_cons_self, hlow ▸ nonempty⟩, heq.symm⟩
      · exact ⟨r, h.mem_takeWhile.2 ⟨hrest, hhigh⟩, rfl⟩
  first := by
    have hrow : row.beginsIn f := LineRow.beginsIn_iff.2 ⟨seq.code row h.mem, hlow ▸ nonempty⟩
    rw [List.takeWhile_cons, if_pos hrow, List.head?_cons, Option.map_some, hlow]

end LineSequence

namespace Resolver

open LineTable LineSequence

variable {σ : Type} {s : σ} {r : Resolver} {f : Function} {u : CompilationUnit}
  {ss : List LineSequence} {seq : LineSequence} {row : LineRow} {a : Addr} {i : Nat}

theorem functionLines?_eq (first : r.info.units.find? (·.contains f.low) = some u) :
    r.functionLines? f = (findAddress? u.lineTable f.low).map fun i =>
      ((u.lineTable.drop i).takeWhile (·.beginsIn f)).map (·.entry) := by
  rw [functionLines?, unitsContaining, List.head?_filter, first]
  exact Option.map_eq_bind.symm

theorem exists_rowAt {t : LineTable} (h : findAddress? t a = some i) :
    ∃ row rest, t.drop i = row :: rest ∧ t.rowAt? a = some row ∧
      ¬ row.endSequence ∧ row.address ≤ a := by
  obtain ⟨row, next, hdrop, hc⟩ := findAddress?_eq_some h
  obtain ⟨hcode, hle, -⟩ := covers_iff.1 hc
  refine ⟨row, _, hdrop, ?_, hcode, hle⟩
  rw [rowAt?, h, Option.bind_some, ← Nat.add_zero i, ← List.getElem?_drop, hdrop]
  rfl

/-- The row is the first one of those that are taken from it on. -/
theorem functionLines?_of_rowAt (first : r.info.units.find? (·.contains f.low) = some u)
    (nonempty : f.low < f.high) (hrow : u.lineTable.rowAt? f.low = some row) :
    ∃ rest, r.functionLines? f = some (row.entry :: rest) := by
  obtain ⟨i, hi, -⟩ := Option.bind_eq_some_iff.1 hrow
  obtain ⟨row', rest, hdrop, hrow', hcode, hle⟩ := exists_rowAt hi
  obtain rfl : row' = row := Option.some_inj.1 (hrow'.symm.trans hrow)
  have hin : row'.beginsIn f :=
    LineRow.beginsIn_iff.2 ⟨hcode, UInt64.lt_of_le_of_lt hle nonempty⟩
  rw [functionLines?_eq first, hi, Option.map_some, hdrop, List.takeWhile_cons, if_pos hin,
    List.map_cons]
  exact ⟨_, rfl⟩

/-- A row in the first unit is taken. -/
theorem lineEntry?_of_first (first : r.info.units.find? (·.contains a) = some u)
    (hrow : u.lineTable.rowAt? a = some row) : r.lineEntry? a = some row.entry := by
  rw [← List.head?_filter] at first
  obtain ⟨us, hunits⟩ := List.head?_eq_some_iff.1 first
  unfold lineEntry? unitsContaining
  rw [hunits, List.findSome?_cons, hrow]
  rfl

theorem exists_first_of_lineEntry {entry : LineEntry} (h : r.lineEntry? a = some entry) :
    ∃ u, r.info.units.find? (·.contains a) = some u := by
  obtain ⟨u, hu, -⟩ := List.exists_of_findSome?_eq_some h
  obtain ⟨hu, hcontains⟩ := List.mem_filter.1 hu
  exact Option.isSome_iff_exists.1 (List.find?_isSome.2 ⟨u, hu, hcontains⟩)

/-- **The rows of a function begin with the row at its low address**, if the first unit
    around that address has a row there.  Otherwise there is no answer, also if another
    unit has one. -/
theorem functionLines_begins {x : Addr} {entry : LineEntry}
    (within : (r.functionContaining x).Gives s (.ok f) s)
    (described : (r.lineEntry f.low).Gives s (.ok entry) s) :
    ∃ u, r.info.units.find? (·.contains f.low) = some u ∧
      ((∃ row, u.lineTable.rowAt? f.low = some row) ∧
          (∃ rest, (r.functionLines f).Gives s (.ok (entry :: rest)) s) ∨
        u.lineTable.rowAt? f.low = none ∧
          (r.functionLines f).Gives s
            (.error (.symbolNotFound ("line entries of " ++ f.name.getD "<anonymous>"))) s) := by
  have hentry := (gives_lineEntry.1 described).1
  have hf := List.find?_some (gives_functionContaining.1 within).1
  rw [Function.contains, Bool.and_eq_true, decide_eq_true_iff, decide_eq_true_iff] at hf
  have hnonempty := UInt64.lt_of_le_of_lt hf.1 hf.2
  obtain ⟨u, hfirst⟩ := exists_first_of_lineEntry hentry
  refine ⟨u, hfirst, ?_⟩
  cases hrow : u.lineTable.rowAt? f.low with
  | some row =>
    obtain rfl : row.entry = entry :=
      Option.some_inj.1 ((lineEntry?_of_first hfirst hrow).symm.trans hentry)
    obtain ⟨rest, hlines⟩ := functionLines?_of_rowAt hfirst hnonempty hrow
    exact Or.inl ⟨⟨row, rfl⟩, rest, gives_functionLines.2 ⟨hlines, rfl⟩⟩
  | none =>
    refine Or.inr ⟨rfl, functionLines_fails ?_⟩
    rw [functionLines?_eq hfirst, Option.map_eq_none_iff, Option.eq_none_iff_forall_ne_some]
    intro i hi
    obtain ⟨row, -, -, hrow', -⟩ := exists_rowAt hi
    cases hrow.symm.trans hrow'

/-- The first row of `main`. -/
theorem functionLines_begins_main :
    ∃ u, Fixture.info.units.find? (·.contains 0x1129) = some u ∧
      ((∃ row, u.lineTable.rowAt? 0x1129 = some row) ∧
          (∃ rest, (functionLines ⟨Fixture.info, 0⟩ ⟨some "main", 0x1129, 0x1160⟩).Gives ()
            (.ok ((Fixture.row 0x1129 9).entry :: rest)) ()) ∨
        u.lineTable.rowAt? 0x1129 = none ∧
          (functionLines ⟨Fixture.info, 0⟩ ⟨some "main", 0x1129, 0x1160⟩).Gives ()
            (.error (.symbolNotFound "line entries of main")) ()) := by
  have hwithin : (functionContaining ⟨Fixture.info, 0⟩ 0x1139).Gives ()
      (.ok ⟨some "main", 0x1129, 0x1160⟩) () := ⟨by decide +kernel, rfl⟩
  have hdescribed : (lineEntry ⟨Fixture.info, 0⟩ 0x1129).Gives ()
      (.ok (Fixture.row 0x1129 9).entry) () := ⟨by decide +kernel, rfl⟩
  exact functionLines_begins hwithin hdescribed

/-- Two units around the same addresses, the first of which has no rows. -/
def overlapping : Resolver :=
  ⟨{ units :=
      [{ name := "start.c"
         ranges := [(0x1000, 0x1010)]
         functions := []
         lineTable := [] },
       { name := "main.c"
         ranges := [(0x1000, 0x1010)]
         functions := [⟨some "main", 0x1000, 0x1010⟩]
         lineTable := [⟨0x1000, "main.c", 1, true, false⟩, ⟨0x1010, "main.c", 1, true, true⟩] }] },
    0⟩

/-- The function is found, and so is the row at its low address, but not its rows. -/
theorem functionLines_missed :
    (∀ u ∈ overlapping.info.units, ∃ ss, u.lineTable = ofSequences ss ∧ LineTable.Disjoint ss) ∧
      (overlapping.functionContaining 0x1000).Gives () (.ok ⟨some "main", 0x1000, 0x1010⟩) () ∧
      (overlapping.lineEntry 0x1000).Gives () (.ok ⟨⟨"main.c", 1⟩, true, 0x1000⟩) () ∧
      ¬ ∃ rest, (overlapping.functionLines ⟨some "main", 0x1000, 0x1010⟩).Gives ()
        (.ok (⟨⟨"main.c", 1⟩, true, 0x1000⟩ :: rest)) () := by
  refine ⟨fun u hu => ?_, ⟨by decide +kernel, rfl⟩, ⟨by decide +kernel, rfl⟩, ?_⟩
  · rcases List.mem_pair.1 hu with rfl | rfl
    · exact ⟨[], rfl, by decide⟩
    · exact ⟨[⟨[⟨0x1000, "main.c", 1, true, false⟩], ⟨0x1010, "main.c", 1, true, true⟩,
        by decide, by decide, by decide⟩], rfl, by decide⟩
  · rintro ⟨rest, hlines⟩
    have hnone : overlapping.functionLines? ⟨some "main", 0x1000, 0x1010⟩ = none := by
      decide +kernel
    cases hnone.symm.trans (gives_functionLines.1 hlines).1

/-! ## Rows of a function in a table of sequences -/

/-- The table from the last row up to `a` on. -/
theorem drop_ofSequences {earlier later : List LineSequence} {before after : List LineRow}
    (h : seq.LastUpTo a before row after) :
    (ofSequences (earlier ++ seq :: later)).drop ((ofSequences earlier).length + before.length) =
      row :: (after ++ seq.stop :: ofSequences later) := by
  have htable : ofSequences (earlier ++ seq :: later) =
      (ofSequences earlier ++ before) ++ row :: (after ++ seq.stop :: ofSequences later) := by
    simp [ofSequences_append, ofSequences_cons, toRows, h.rows]
  rw [htable]
  exact List.drop_left' List.length_append

/-- **The rows of a function are those of one sequence.**  They are a block of the
    sequence in which the function is: it begins with a row at the low address, has
    just the addresses of rows inside the function, and no row that ends a sequence. -/
theorem functionLines_spans (first : r.info.units.find? (·.contains f.low) = some u)
    (table : u.lineTable = ofSequences ss) (disjoint : LineTable.Disjoint ss) (mem : seq ∈ ss)
    (begins : ∃ row ∈ seq.toRows, row.address = f.low) (nonempty : f.low < f.high)
    (ends : f.high ≤ seq.stop.address) :
    ∃ block, seq.Spans f block ∧ (r.functionLines f).Gives s (.ok (block.map (·.entry))) s := by
  obtain ⟨row₀, hrow₀, hlow⟩ := begins
  have hstop : f.low < seq.stop.address := UInt64.lt_of_lt_of_le nonempty ends
  have hcode : row₀ ∈ seq.rows := by
    refine (mem_toRows.1 hrow₀).resolve_right ?_
    rintro rfl
    exact UInt64.lt_irrefl _ (hlow ▸ hstop)
  have hin : seq.Contains f.low := ⟨hlow ▸ start_le hcode, hstop⟩
  obtain ⟨earlier, later, rfl⟩ := List.append_of_mem mem
  obtain ⟨before, row, after, hlast⟩ := exists_lastUpTo hin
  have hfound := IsRowAt.findAddress?_eq ⟨rfl, hin, hlast, rfl⟩ disjoint
  have hblock : ((row :: after) ++ seq.stop :: ofSequences later).takeWhile (·.beginsIn f) =
      (row :: after).takeWhile (·.beginsIn f) := by
    refine takeWhile_append_cons ?_ _ _
    exact fun h => (LineRow.beginsIn_iff.1 h).1 seq.ended
  refine ⟨_, hlast.spans (hlast.address_eq hcode hlow) nonempty, gives_functionLines.2 ⟨?_, rfl⟩⟩
  rw [functionLines?_eq first, table, hfound, Option.map_some, drop_ofSequences hlast,
    ← List.cons_append, hblock]

/-- A unit with the code of the sequences of `scattered`. -/
def unitOfScattered : CompilationUnit where
  name := "main.c"
  ranges := [(0x2000, 0x2010), (0x1000, 0x1010)]
  functions := [⟨some "f", 0x1004, 0x1010⟩]
  lineTable := ofSequences scattered

/-- The second of the rows at 0x1004 is the only one of this function. -/
theorem functionLines_spans_scattered : ∃ seq ∈ scattered, ∃ block,
    seq.Spans ⟨some "f", 0x1004, 0x1010⟩ block ∧
      (functionLines ⟨{ units := [unitOfScattered] }, 0⟩ ⟨some "f", 0x1004, 0x1010⟩).Gives ()
        (.ok (block.map (·.entry))) () := by
  obtain ⟨seq, hseq, hrow, hends⟩ : ∃ seq ∈ scattered,
      (∃ row ∈ seq.toRows, row.address = 0x1004) ∧ (0x1010 : Addr) ≤ seq.stop.address := by
    decide +kernel
  have hfirst : [unitOfScattered].find? (·.contains 0x1004) = some unitOfScattered := by
    decide +kernel
  have hdisjoint : LineTable.Disjoint scattered := by decide +kernel
  exact ⟨seq, hseq, functionLines_spans hfirst rfl hdisjoint hseq hrow (by decide) hends⟩

end Resolver

/-! ## Lines and addresses -/

namespace LineSequence

variable {seq : LineSequence} {before after : List LineRow} {row : LineRow}

/-- The rows begin one behind the other, and the sequence ends behind all of them. -/
def Strict (seq : LineSequence) : Prop := seq.toRows.Pairwise (·.address < ·.address)

instance (seq : LineSequence) : Decidable seq.Strict := inferInstanceAs (Decidable (List.Pairwise _ _))

variable (h : seq.Strict)
include h

theorem Strict.contains (hrow : row ∈ seq.rows) : seq.Contains row.address :=
  ⟨start_le hrow, (List.pairwise_append.1 h).2.2 row hrow seq.stop (List.mem_singleton_self _)⟩

theorem Strict.lastUpTo (hrows : seq.rows = before ++ row :: after) :
    seq.LastUpTo row.address before row after := by
  refine ⟨hrows, UInt64.le_refl _, fun next hnext => ?_⟩
  have hasc := (List.pairwise_append.1 h).1
  rw [hrows] at hasc
  exact (List.pairwise_cons.1 (List.pairwise_append.1 hasc).2.1).1 next hnext

end LineSequence

/-- Every address is described at most once, and in the unit around it. -/
structure DebugInfo.Unambiguous (info : DebugInfo) : Prop where
  units : info.units.Pairwise fun u u' => ∀ a, u.contains a → ¬ u'.contains a
  rows (u : CompilationUnit) : u ∈ info.units → ∀ row ∈ u.lineTable, ¬ row.endSequence →
    u.contains row.address
  tables (u : CompilationUnit) : u ∈ info.units → ∃ ss, u.lineTable = LineTable.ofSequences ss ∧
    LineTable.Disjoint ss ∧ ∀ seq ∈ ss, seq.Strict

namespace Resolver

open LineTable LineSequence

variable {σ : Type} {s : σ} {r : Resolver} {u : CompilationUnit} {ss : List LineSequence}
  {row : LineRow}

/-- Each row describes the code where it begins. -/
theorem rowAt?_address (disjoint : LineTable.Disjoint ss) (strict : ∀ seq ∈ ss, seq.Strict)
    (mem : row ∈ ofSequences ss) (hcode : ¬ row.endSequence) :
    (ofSequences ss).rowAt? row.address = some row := by
  obtain ⟨seq, hseq, hmem⟩ := List.mem_flatMap.1 mem
  have hrow : row ∈ seq.rows := by
    refine (mem_toRows.1 hmem).resolve_right ?_
    rintro rfl
    exact hcode seq.ended
  obtain ⟨before, after, hrows⟩ := List.append_of_mem hrow
  obtain ⟨earlier, later, rfl⟩ := List.append_of_mem hseq
  have hlast := (strict seq hseq).lastUpTo hrows
  have hfound := IsRowAt.findAddress?_eq
    ⟨rfl, (strict seq hseq).contains hrow, hlast, rfl⟩ disjoint
  obtain ⟨row', rest, hdrop, hrow', -⟩ := exists_rowAt hfound
  obtain ⟨rfl, -⟩ := List.cons.inj (hdrop.symm.trans (drop_ofSequences hlast))
  exact hrow'

theorem lineEntry?_address (unambiguous : r.info.Unambiguous) (hu : u ∈ r.info.units)
    (hrow : row ∈ u.lineTable) (hcode : ¬ row.endSequence) :
    r.lineEntry? row.address = some row.entry := by
  obtain ⟨ss, htable, hdisjoint, hstrict⟩ := unambiguous.tables u hu
  have hcontains := unambiguous.rows u hu row hrow hcode
  refine lineEntry?_of_first ?_ (u := u) ?_
  · obtain ⟨us, us', hunits⟩ := List.append_of_mem hu
    have hpairwise := unambiguous.units
    rw [hunits] at hpairwise
    rw [List.find?_eq_some_iff_append]
    refine ⟨hcontains, us, us', hunits, fun u' hu' => ?_⟩
    have hother := (List.pairwise_append.1 hpairwise).2.2 u' hu' u List.mem_cons_self
    simpa using fun h => hother row.address h hcontains
  · rw [htable] at hrow ⊢
    exact rowAt?_address hdisjoint hstrict hrow hcode

/-- **From lines to addresses and back.**  Where every address is described once, the
    row at the address of a line begins there a statement of that line; and every line
    with a statement in a unit that the file names has an address. -/
theorem lineEntry_addressForLine (unambiguous : r.info.Unambiguous) (file : String) :
    (∀ line a, (r.addressForLine file line).Gives s (.ok a) s →
        ∃ entry, (r.lineEntry (r.toStatic a)).Gives s (.ok entry) s ∧
          entry.location.line = line ∧ entry.isStatement ∧ entry.address = r.toStatic a) ∧
      ∀ u ∈ r.info.units, Path.endsWith u.name file → ∀ row ∈ u.lineTable, row.isStatement →
        ¬ row.endSequence → ∃ a, (r.addressForLine file row.line).Gives s (.ok a) s := by
  constructor
  · intro line a h
    obtain ⟨row, hrow, rfl⟩ := Option.map_eq_some_iff.1 (gives_addressForLine.1 h)
    rw [statementOn?_eq] at hrow
    obtain ⟨u, hu, -, hmem⟩ := mem_rowsNamed.1 (List.mem_of_find?_eq_some hrow)
    have hon := List.find?_some hrow
    obtain ⟨hstatement, hcode, hline⟩ := LineRow.isStatementOn_iff.2 hon
    rw [toStatic_toRuntime]
    have hentry := lineEntry?_address unambiguous hu hmem hcode
    exact ⟨row.entry, gives_lineEntry.2 ⟨hentry, rfl⟩, hline, hstatement, rfl⟩
  · intro u hu hnamed row hrow hstatement hcode
    have hon : row.IsStatementOn row.line := ⟨hstatement, hcode, rfl⟩
    have hsome : (r.statementOn? file row.line).isSome := by
      rw [statementOn?_eq, List.find?_isSome]
      exact ⟨row, mem_rowsNamed.2 ⟨u, hu, hnamed, hrow⟩, LineRow.isStatementOn_iff.1 hon⟩
    obtain ⟨row', hrow'⟩ := Option.isSome_iff_exists.1 hsome
    exact ⟨_, gives_addressForLine.2 (Option.map_eq_some_iff.2 ⟨row', hrow', rfl⟩)⟩

theorem unambiguous_fixture : Fixture.info.Unambiguous where
  units := List.pairwise_singleton _ _
  rows := by decide +kernel
  tables u hu := by
    obtain rfl := List.mem_singleton.1 hu
    refine ⟨[⟨Fixture.lineTable.dropLast, Fixture.row 0x1180 5 true true, by decide +kernel,
      by decide, by decide +kernel⟩], rfl, List.pairwise_singleton _ _, by decide +kernel⟩

/-- Of the two rows of line 13 the one that begins a statement. -/
theorem lineEntry_addressForLine_fixture : Fixture.info.Unambiguous ∧
    ∃ entry, (lineEntry ⟨Fixture.info, Fixture.loadAddress⟩ 0x1150).Gives () (.ok entry) () ∧
      entry.location.line = 13 ∧ entry.isStatement ∧ entry.address = 0x1150 := by
  have hgiven : (addressForLine ⟨Fixture.info, Fixture.loadAddress⟩ "main.c" 13).Gives ()
      (.ok (Fixture.runtime 0x1150)) () := ⟨by decide +kernel, rfl⟩
  have hstatic : toStatic ⟨Fixture.info, Fixture.loadAddress⟩ (Fixture.runtime 0x1150) =
      0x1150 := by decide +kernel
  refine ⟨unambiguous_fixture, ?_⟩
  rw [← hstatic]
  exact (lineEntry_addressForLine unambiguous_fixture "main.c").1 13 _ hgiven

end Resolver

end SourceDebugger
