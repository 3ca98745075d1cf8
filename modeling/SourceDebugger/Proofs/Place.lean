/-
  Where breakpoints on functions and on lines are placed.

  * `LineTable.bodyAddress?_eq_some`: the address behind the first row of a
    function is that of the next row;
  * `Resolver.addressForFunction_lands`: a breakpoint on a function is behind its
    beginning, and in the function as far as the row behind the first one is;
  * `Resolver.addressForLine_lands`: a breakpoint on a line is at the first
    statement on it in any file of the units that are named.
-/
import Mathlib.Data.List.Chain
import SourceDebugger.Proofs.Queries
import SourceDebugger.Simulation.Fixture

namespace SourceDebugger

open SourceDebugger.Action

/-! ## Rows -/

/-- The row begins a statement on `line`. -/
structure LineRow.IsStatementOn (row : LineRow) (line : UInt64) : Prop where
  statement : row.isStatement
  code : ¬ row.endSequence
  line : row.line = line

theorem LineRow.isStatementOn_iff {row : LineRow} {line : UInt64} : row.IsStatementOn line ↔
    (row.isStatement && !row.endSequence && row.line == line) = true := by
  simp only [Bool.and_eq_true, Bool.not_eq_true', beq_iff_eq]
  exact ⟨fun h => ⟨⟨h.statement, Bool.eq_false_iff.2 h.code⟩, h.line⟩,
    fun ⟨⟨h₁, h₂⟩, h₃⟩ => ⟨h₁, Bool.eq_false_iff.1 h₂, h₃⟩⟩

instance (row : LineRow) (line : UInt64) : Decidable (row.IsStatementOn line) :=
  decidable_of_iff _ LineRow.isStatementOn_iff.symm

namespace LineTable

variable {t : LineTable} {row next : LineRow} {a low : Addr} {i : Nat}

/-- Sequences of rows whose addresses do not decrease, each of them ended. -/
structure Ordered (t : LineTable) : Prop where
  ascending : List.IsChain
    (fun row next : LineRow => row.endSequence ∨ row.address ≤ next.address) t
  ended (row : LineRow) : t.getLast? = some row → row.endSequence

theorem covers_iff : covers row next a ↔
    ¬ row.endSequence ∧ row.address ≤ a ∧ a < next.address := by
  simp [covers, and_assoc]

/-- The row that is found covers the address up to the next one. -/
theorem findAddress?_eq_some (h : findAddress? t a = some i) :
    ∃ row next, t.drop i = row :: next :: t.drop (i + 2) ∧ covers row next a := by
  induction t generalizing i with
  | nil => cases h
  | cons row t ih =>
    cases t with
    | nil => cases h
    | cons next rows =>
      rw [findAddress?] at h
      split at h
      next hc =>
        obtain rfl := Option.some_inj.1 h
        exact ⟨row, next, rfl, hc⟩
      next =>
        obtain ⟨j, hj, rfl⟩ := Option.map_eq_some_iff.1 h
        exact ih hj

theorem bodyAddress?_eq_some (h : t.bodyAddress? low = some a) :
    ∃ row next, [row, next] <:+: t ∧ covers row next low ∧
      a = if next.endSequence then low else next.address := by
  obtain ⟨i, hi, rfl⟩ := Option.map_eq_some_iff.1 h
  obtain ⟨row, next, hdrop, hc⟩ := findAddress?_eq_some hi
  have hinfix : [row, next] <:+: t := by
    rw [← List.take_append_drop i t, hdrop]
    exact ⟨_, _, List.append_assoc _ [row, next] _⟩
  have hget : t[i + 1]? = some next := by
    rw [← List.getElem?_drop, hdrop]
    rfl
  refine ⟨row, next, hinfix, hc, ?_⟩
  rw [hget]

end LineTable

namespace Resolver

variable {σ : Type} {s s' : σ} {r : Resolver} {a : Addr}

/-! ## Functions -/

theorem mem_functionsNamed {name : String} {table : LineTable} {f : Function} :
    (table, f) ∈ r.functionsNamed name ↔
      ∃ u ∈ r.info.units, u.lineTable = table ∧ f ∈ u.functions ∧ f.name = some name := by
  simp only [functionsNamed, List.mem_flatMap, List.mem_map, List.mem_filter, beq_iff_eq,
    Prod.mk.injEq]
  constructor
  · rintro ⟨u, hu, _, hf, htable, rfl⟩
    exact ⟨u, hu, htable, hf⟩
  · rintro ⟨u, hu, htable, hf⟩
    exact ⟨u, hu, f, hf, htable, rfl⟩

/-- A breakpoint on the function `f` of the unit `u` at the static address `a`: it is
    where the row begins that is behind the one which covers the beginning of `f`. -/
structure Lands (u : CompilationUnit) (f : Function) (row next : LineRow) (a : Addr) : Prop where
  rows : [row, next] <:+: u.lineTable
  covers : LineTable.covers row next f.low
  /-- A row that only ends the sequence describes no code. -/
  address : a = if next.endSequence then f.low else next.address
  low : f.low ≤ a
  inside : f.contains a ↔ f.low < f.high ∧ (next.endSequence ∨ next.address < f.high)

/-- **Where a breakpoint on a function is.**  Of the functions with the name one is
    taken whose beginning a row covers.  The breakpoint is where the next row begins,
    unless that only ends the sequence; so it is never before the function, and in it
    if and only if the next row does not begin behind it. -/
theorem addressForFunction_lands {name : String}
    (given : (r.addressForFunction name).Gives s (.ok a) s') :
    ∃ u ∈ r.info.units, ∃ f ∈ u.functions, f.name = some name ∧
      ∃ row next, Lands u f row next (r.toStatic a) := by
  have hfound := eq_some_of_elim ((addressForFunction_gives name s).unique given).1
  obtain ⟨⟨table, f⟩, hmem, hplace⟩ := List.exists_of_findSome?_eq_some hfound
  obtain ⟨u, hu, rfl, hf, hname⟩ := mem_functionsNamed.1 hmem
  obtain ⟨body, hbody, rfl⟩ := Option.map_eq_some_iff.1 hplace
  obtain ⟨row, next, hrows, hc, haddress⟩ := LineTable.bodyAddress?_eq_some hbody
  obtain ⟨-, -, hlow⟩ := LineTable.covers_iff.1 hc
  rw [toStatic_toRuntime]
  refine ⟨u, hu, f, hf, hname, row, next, hrows, hc, haddress, ?_, ?_⟩
  · rw [haddress]
    split_ifs
    · exact UInt64.le_refl _
    · exact UInt64.le_of_lt hlow
  · rw [haddress, Function.contains, Bool.and_eq_true, decide_eq_true_iff, decide_eq_true_iff]
    split_ifs with hend
    · simp [hend]
    · refine ⟨fun ⟨_, hhigh⟩ => ⟨UInt64.lt_trans hlow hhigh, Or.inr hhigh⟩, fun ⟨_, hhigh⟩ => ?_⟩
      exact ⟨UInt64.le_of_lt hlow, hhigh.resolve_left hend⟩

/-- The code of `main` behind its first row. -/
theorem addressForFunction_main : ∃ u ∈ Fixture.info.units, ∃ f ∈ u.functions,
    f.name = some "main" ∧ ∃ row next, Lands u f row next 0x1135 := by
  have hgiven : (addressForFunction ⟨Fixture.info, 0⟩ "main").Gives () (.ok 0x1135) () :=
    ⟨by decide +kernel, rfl⟩
  exact addressForFunction_lands hgiven

/-- A function of one row, behind which another function begins. -/
def adjoining : Resolver :=
  ⟨{ units :=
      [{ name := "main.c"
         ranges := [(0x1000, 0x1020)]
         functions := [⟨some "f", 0x1000, 0x1010⟩, ⟨some "g", 0x1010, 0x1020⟩]
         lineTable := [⟨0x1000, "main.c", 1, true, false⟩, ⟨0x1010, "main.c", 5, true, false⟩,
           ⟨0x1020, "main.c", 5, true, true⟩] }] }, 0⟩

/-- The breakpoint on the one function is in the other one. -/
theorem addressForFunction_outside :
    (∀ u ∈ adjoining.info.units, u.lineTable.Ordered) ∧
      (adjoining.addressForFunction "f").Gives () (.ok 0x1010) () ∧
      ¬ ∃ u ∈ adjoining.info.units, ∃ f ∈ u.functions, f.name = some "f" ∧
        f.low ≤ adjoining.toStatic 0x1010 ∧ adjoining.toStatic 0x1010 < f.high := by
  refine ⟨fun u hu => ?_, ⟨by decide +kernel, rfl⟩, by decide +kernel⟩
  obtain rfl := List.mem_singleton.1 hu
  exact ⟨by decide +kernel, by simp⟩

/-! ## Lines -/

/-- The rows of the units that `file` names, in the order in which they are searched. -/
def rowsNamed (r : Resolver) (file : String) : List LineRow :=
  (r.info.units.filter (·.isNamed file)).flatMap (·.lineTable)

theorem mem_rowsNamed {file : String} {row : LineRow} : row ∈ r.rowsNamed file ↔
    ∃ u ∈ r.info.units, Path.endsWith u.name file ∧ row ∈ u.lineTable := by
  simp [rowsNamed, CompilationUnit.isNamed, and_assoc]

theorem statementOn?_eq (file : String) (line : UInt64) :
    r.statementOn? file line = (r.rowsNamed file).find? fun row =>
      row.isStatement && !row.endSequence && row.line == line :=
  List.find?_flatMap.symm

/-- A breakpoint on a line, at the static address `a`, of a row of the unit `u`. -/
structure LandsOn (r : Resolver) (file : String) (line : UInt64) (u : CompilationUnit)
    (row : LineRow) (a : Addr) : Prop where
  named : Path.endsWith u.name file
  mem : row ∈ u.lineTable
  statement : row.IsStatementOn line
  address : a = row.address
  /-- No statement on the line comes before it, in this or another unit. -/
  first : ∃ before after, r.rowsNamed file = before ++ row :: after ∧
    ∀ row' ∈ before, ¬ row'.IsStatementOn line

/-- **Where a breakpoint on a line is.**  It is at the first statement on the line in
    the units whose main source file is named.  Of which file the row is itself does
    not count. -/
theorem addressForLine_lands {file : String} {line : UInt64}
    (given : (r.addressForLine file line).Gives s (.ok a) s') :
    ∃ u ∈ r.info.units, ∃ row, LandsOn r file line u row (r.toStatic a) := by
  have hfound := eq_some_of_elim ((addressForLine_gives file line s).unique given).1
  obtain ⟨row, hrow, rfl⟩ := Option.map_eq_some_iff.1 hfound
  rw [statementOn?_eq, List.find?_eq_some_iff_append] at hrow
  obtain ⟨hstatement, before, after, hrows, hbefore⟩ := hrow
  have hmem : row ∈ r.rowsNamed file := by simp [hrows]
  obtain ⟨u, hu, hnamed, hmem⟩ := mem_rowsNamed.1 hmem
  refine ⟨u, hu, row, hnamed, hmem, LineRow.isStatementOn_iff.2 hstatement, toStatic_toRuntime r _,
    before, after, hrows, fun row' hrow' hon => ?_⟩
  have hnot := hbefore row' hrow'
  rw [LineRow.isStatementOn_iff.1 hon] at hnot
  cases hnot

/-- Line 13 of the fixture has a row that begins no statement, and one that does. -/
theorem addressForLine_statement : ∃ u ∈ Fixture.info.units, ∃ row,
    LandsOn ⟨Fixture.info, 0⟩ "main.c" 13 u row 0x1150 := by
  have hgiven : (addressForLine ⟨Fixture.info, 0⟩ "main.c" 13).Gives () (.ok 0x1150) () :=
    ⟨by decide +kernel, rfl⟩
  exact addressForLine_lands hgiven

/-- A source file that includes code on line 4 of another one before its own. -/
def including : Resolver :=
  ⟨{ units :=
      [{ name := "/src/main.c"
         ranges := [(0x1000, 0x1010)]
         functions := [⟨some "main", 0x1000, 0x1010⟩]
         lineTable := [⟨0x1000, "/src/inc/h.h", 4, true, false⟩,
           ⟨0x1004, "/src/main.c", 4, true, false⟩, ⟨0x1010, "/src/main.c", 4, true, true⟩] }] }, 0⟩

/-- The breakpoint on line 4 of the one file is in the other one. -/
theorem addressForLine_otherFile :
    (including.addressForLine "main.c" 4).Gives () (.ok 0x1000) () ∧
      ¬ ∃ u ∈ including.info.units, ∃ row ∈ u.lineTable, row.IsStatementOn 4 ∧
        row.address = including.toStatic 0x1000 ∧ Path.endsWith row.file "main.c" :=
  ⟨⟨by decide +kernel, rfl⟩, by decide +kernel⟩

end Resolver

end SourceDebugger
