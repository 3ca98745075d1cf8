/-
  The functions of a unit are those of its entries that have code of their own.  Such
  an entry has a low address, written out or found in the address table, and says
  where the function ends, by an address that is written out or by its size.

  * `Entry.hasCode`, `Lookups.Describes`: the entries with code, and what they say
    about a function;
  * `Lookups.finding_cases`: each entry is described or passed over;
  * `Lookups.functions_describe`: of entries in a row those with code are kept,
    whatever entries these are, and whatever the tables hold that they refer to;
  * `CompilationUnit.load_describes`: so the functions of a unit, whatever the tree of
    its entries is like;
  * `CompilationUnit.indexedEnd_passedOver`: a function whose end is in the address
    table is not among them.
-/
import Mathlib.Data.List.Forall2
import SourceDebugger.DebugInfo.Load
import SourceDebugger.Proofs.Action
import SourceDebugger.Proofs.Entries

namespace SourceDebugger

open SourceDebugger.Action

namespace Dwarf

theorem map_eq_ok {α β : Type} {r : Except Malformed α} {f : α → β} {b : β} :
    f <$> r = .ok b ↔ ∃ a, r = .ok a ∧ f a = b := by
  cases r <;> simp [Functor.map, Except.map]

/-! ## Values -/

namespace Value

/-- Addresses are written out or found in the address table. -/
def isAddress : Value → Bool
  | address _ | index .addresses _ => true
  | _ => false

/-- The values that say where a function ends. -/
def isEnd : Value → Bool
  | address _ => true
  | v => v.constant?.isSome

/-- The value says that a function at `low` ends at `high`. -/
inductive EndsAt (low : Addr) : Value → Addr → Prop where
  | address (high : Addr) : EndsAt low (.address high) high
  | size {v : Value} {n : UInt64} {high : Addr} (size : v.constant? = some n)
      (high_eq : high.toNat = low.toNat + n.toNat) : EndsAt low v high

end Value

/-! ## Single entries -/

/-- The entry is of a function with code of its own. -/
def Entry.hasCode (entry : Entry) : Bool :=
  entry.tag = Entry.functionTag && (entry.value? AttributeName.low).any Value.isAddress &&
    (entry.value? AttributeName.high).any Value.isEnd

/-- If the entry says how large it is, a function at `low` ends within the address
    space. -/
def Entry.fits (entry : Entry) (low : Addr) : Bool :=
  (entry.value? AttributeName.high).all fun v =>
    v.constant?.all fun n => low.toNat + n.toNat < UInt64.size

namespace Lookups

/-- The value is the address `a`. -/
inductive Denotes (l : Lookups) : Value → Addr → Prop where
  | written (a : Addr) : Denotes l (.address a) a
  | indexed {i : Nat} {a : Addr} (listed : l.addressAt i = .ok a) :
      Denotes l (.index .addresses i) a

/-- The entry has the name, or has none. -/
inductive Named (l : Lookups) (entry : Entry) : Option String → Prop where
  | unnamed (absent : entry.value? AttributeName.name = none) : Named l entry none
  | named {v : Value} {bytes : List UInt8} (present : entry.value? AttributeName.name = some v)
      (text : l.text v = .ok bytes) : Named l entry (some (Utf8.lossy bytes))

/-- The entry is that of the function `f`. -/
structure Describes (l : Lookups) (entry : Entry) (f : Function) : Prop where
  tag : entry.tag = Entry.functionTag
  low : ∃ v, entry.value? AttributeName.low = some v ∧ l.Denotes v f.low
  high : ∃ v, entry.value? AttributeName.high = some v ∧ v.EndsAt f.low f.high
  name : l.Named entry f.name

/-- What the entry of a function says can be read.  The name is only read if there is
    code. -/
structure Legible (l : Lookups) (entry : Entry) : Prop where
  low : ∃ found, l.lowOf entry = .ok found ∧ found.all entry.fits
  name : entry.hasCode → ∃ name, l.nameOf entry = .ok name

variable {l : Lookups} {entry : Entry} {low : Addr}

theorem named_of_nameOf {name : Option String} (h : l.nameOf entry = .ok name) :
    l.Named entry name := by
  unfold nameOf at h
  split at h
  · cases h
    exact .unnamed ‹_›
  · obtain ⟨bytes, hbytes, rfl⟩ := map_eq_ok.1 h
    exact .named ‹_› hbytes

theorem denotes_of_address? {v : Value} (h : l.address? v = .ok (some low)) : l.Denotes v low := by
  unfold address? at h
  split at h
  · cases h
    exact .written _
  · obtain ⟨a, ha, ⟨⟩⟩ := map_eq_ok.1 h
    exact .indexed ha
  · cases h

/-- Whether a value is an address can be seen without the address table. -/
theorem isAddress_eq {v : Value} {found : Option Addr} (h : l.address? v = .ok found) :
    v.isAddress = found.isSome := by
  unfold address? at h
  split at h
  · cases h
    rfl
  · obtain ⟨a, -, rfl⟩ := map_eq_ok.1 h
    rfl
  · rename_i hwritten hindexed
    cases h
    unfold Value.isAddress
    split
    · exact absurd rfl (hwritten _)
    · exact absurd rfl (hindexed _)
    · rfl

theorem isEnd_eq (low : Addr) (v : Value) : v.isEnd = (highOf? low v).isSome := by
  unfold Value.isEnd highOf?
  split <;> simp

theorem endsAt_of_highOf? {v : Value} {high : Addr} (h : highOf? low v = some high)
    (fits : v.constant?.all fun n => low.toNat + n.toNat < UInt64.size) :
    v.EndsAt low high := by
  unfold highOf? at h
  split at h
  · cases h
    exact .address _
  · obtain ⟨n, hn, rfl⟩ := Option.map_eq_some_iff.1 h
    have hlt : low.toNat + n.toNat < UInt64.size := by simpa [hn] using fits
    exact .size hn (by rw [UInt64.toNat_add, Nat.mod_eq_of_lt hlt])

theorem low_of_lowOf {found : Option Addr} (h : l.lowOf entry = .ok found) :
    (entry.value? AttributeName.low).any Value.isAddress = found.isSome ∧
      ∀ low, found = some low → ∃ v, entry.value? AttributeName.low = some v ∧ l.Denotes v low := by
  unfold lowOf at h
  split at h
  · rename_i habsent
    cases h
    exact ⟨by rw [habsent]; rfl, nofun⟩
  · rename_i v hv
    refine ⟨by rw [hv]; exact isAddress_eq h, ?_⟩
    rintro low rfl
    exact ⟨v, hv, denotes_of_address? h⟩

/-- The entry of a function contributes what its two addresses say. -/
theorem finding_eq (htag : entry.tag = Entry.functionTag) {found : Option Addr} :
    l.lowOf entry = .ok found → l.finding entry =
      match found, entry.value? AttributeName.high with
      | some low, some v =>
        match highOf? low v with
        | some high => (fun name => .function ⟨name, low, high⟩) <$> l.nameOf entry
        | none => .ok (.badHigh v)
      | _, _ => .ok .nothing := by
  intro hlow
  rw [finding, if_neg (not_not_intro htag), hlow]
  cases l.nameOf entry <;> rfl

/-- An entry with code is that of a function, all others are passed over. -/
theorem finding_cases (h : entry.tag = Entry.functionTag → l.Legible entry) :
    (entry.hasCode ∧ ∃ f, l.finding entry = .ok (.function f) ∧ l.Describes entry f) ∨
      entry.hasCode = false ∧
        (l.finding entry = .ok .nothing ∨ ∃ v, l.finding entry = .ok (.badHigh v)) := by
  by_cases htag : entry.tag = Entry.functionTag
  case neg => exact .inr ⟨by simp [Entry.hasCode, htag], .inl (by rw [finding, if_pos htag]; rfl)⟩
  obtain ⟨⟨found, hfound, hfits⟩, hname⟩ := h htag
  obtain ⟨hany, hlow⟩ := low_of_lowOf hfound
  have hcode : entry.hasCode =
      (found.isSome && (entry.value? AttributeName.high).any Value.isEnd) := by
    simp [Entry.hasCode, htag, hany]
  rw [hcode] at hname ⊢
  rw [finding_eq htag hfound]
  cases found with
  | none => exact .inr ⟨rfl, .inl rfl⟩
  | some low =>
  cases hhigh : entry.value? AttributeName.high with
  | none => exact .inr ⟨rfl, .inl rfl⟩
  | some v =>
  have hend : v.isEnd = (highOf? low v).isSome := isEnd_eq low v
  cases hv : highOf? low v with
  | none =>
    rw [hv] at hend
    exact .inr ⟨hend, .inr ⟨v, by simp only [hv]⟩⟩
  | some high =>
    rw [hv] at hend
    rw [hhigh] at hname
    rw [Option.all_some, Entry.fits, hhigh] at hfits
    obtain ⟨name, hname⟩ := hname hend
    refine .inl ⟨hend, ⟨name, low, high⟩, by simp only [hv, hname]; rfl, htag, hlow low rfl, ?_,
      named_of_nameOf hname⟩
    exact ⟨v, hhigh, endsAt_of_highOf? hv hfits⟩

/-! ## Entries in a row -/

/-- **Of entries in a row those with code are kept**, in their order and each once. -/
theorem functions_describe (l : Lookups) {σ : Type} (st : σ) {entries : List Entry}
    (h : ∀ entry ∈ entries, entry.tag = Entry.functionTag → l.Legible entry) : ∃ fs,
      (l.functions entries).Gives st (.ok fs) st ∧
        List.Forall₂ l.Describes (entries.filter Entry.hasCode) fs := by
  induction entries with
  | nil => exact ⟨[], gives_pure.2 ⟨rfl, rfl⟩, .nil⟩
  | cons entry entries ih =>
    obtain ⟨fs, hread, hfs⟩ := ih fun x hx => h x (List.mem_cons_of_mem _ hx)
    rcases finding_cases (h entry List.mem_cons_self) with
      ⟨hcode, f, hfound, hf⟩ | ⟨hcode, hfound | ⟨v, hfound⟩⟩
    · refine ⟨f :: fs, ?_, by rw [List.filter_cons_of_pos hcode]; exact .cons hf hfs⟩
      rw [functions, hfound]
      exact hread.bind (gives_pure.2 ⟨rfl, rfl⟩)
    · refine ⟨fs, ?_, by rwa [List.filter_cons_of_neg (by simp [hcode])]⟩
      rwa [functions, hfound]
    · refine ⟨fs, ?_, by rwa [List.filter_cons_of_neg (by simp [hcode])]⟩
      rw [functions, hfound]
      exact gives_log_bind.2 hread

end Lookups

/-! ## Units -/

/-- A unit that can be read: it holds the tree of the entries below `root`, the root
    says what is in `scope`, and nothing that is read of it is malformed. -/
structure WellFormed (sections : Sections) (header : Header) (root : Entry) (below : Forest)
    (scope : Scope) : Prop where
  written : ∃ shapes,
    Abbreviation.table sections.abbreviations header.abbreviations = .ok shapes ∧
      (Forest.node root below .nil).Written header.encoding shapes header.entries
  scope_eq : Scope.ofRoot sections header.encoding root = .ok scope
  name : ∃ name, scope.lookups.nameOf root = .ok name
  ranges : ∃ ranges, scope.ranges root = .ok ranges
  lines : ∃ program,
    (Scope.position? root [AttributeName.lineTable]).mapM (LineProgram.ofBytes scope) =
      .ok program ∧ ∀ p ∈ program, ∃ rows, p.rows scope = .ok rows
  functions : ∀ entry ∈ below.entries, entry.tag = Entry.functionTag → scope.lookups.Legible entry

end Dwarf

open Dwarf

namespace CompilationUnit

theorem gives_ofDebugInfo {σ α : Type} {a : α} {st : σ} {r : Except Malformed α} (h : r = .ok a) :
    (Action.ofDebugInfo r).Gives st (.ok a) st := by
  rw [h]
  exact gives_ofExcept.2 ⟨rfl, rfl⟩

variable {sections : Sections} {header : Header} {root : Entry} {below : Forest} {scope : Scope}

/-- **The functions of a unit are those of its entries with code**, in depth-first order,
    each of them once, whatever the tree is like and whatever is passed over.  The end of
    a function may be written out or be a size. -/
theorem load_describes {σ : Type} (st : σ) (h : WellFormed sections header root below scope) :
    ∃ u, (load sections header).Gives st (.ok u) st ∧
      List.Forall₂ scope.lookups.Describes (below.entries.filter Entry.hasCode) u.functions := by
  obtain ⟨shapes, hshapes, hwritten⟩ := h.written
  obtain ⟨name, hname⟩ := h.name
  obtain ⟨ranges, hranges⟩ := h.ranges
  obtain ⟨program, hprogram, hrows⟩ := h.lines
  obtain ⟨fs, hread, hfs⟩ := scope.lookups.functions_describe st h.functions
  have hentries : Entry.all header.encoding shapes header.entries =
      (root :: below.entries, .ok ()) := by
    rw [hwritten.all_eq]
    simp [Forest.entries]
  have hlines : ∃ rows, program.elim (.ok []) (·.rows scope) = Except.ok rows := by
    cases program with
    | none => exact ⟨_, rfl⟩
    | some p => exact hrows p rfl
  obtain ⟨rows, hrows⟩ := hlines
  refine ⟨⟨name.getD "", ranges, fs, rows⟩, ?_, hfs⟩
  refine (gives_ofDebugInfo hshapes).bind ?_
  rw [hentries]
  refine (gives_ofDebugInfo h.scope_eq).bind ((gives_ofDebugInfo hprogram).bind ?_)
  refine (gives_ofDebugInfo hranges).bind ((gives_ofDebugInfo hname).bind (hread.bind ?_))
  refine (gives_ofDebugInfo rfl).bind ((gives_ofDebugInfo (a := rows) ?_).bind ?_)
  · cases program <;> exact hrows
  · exact gives_log_bind.2 (gives_pure.2 ⟨rfl, rfl⟩)

/-! ## A unit -/

def sampleEncoding : Encoding := ⟨.little, 5, 4, 8⟩

/-- The shapes of entries, and three addresses. -/
def sampleSections : Sections where
  order := .little
  abbreviations :=
    -- a unit with its name and the position of the addresses, a namespace, a block
    [1, 0x11, 1, 0x03, 0x08, 0x73, 0x17, 0, 0] ++ [2, 0x39, 1, 0, 0] ++ [3, 0x0b, 1, 0, 0] ++
    -- functions: with a listed address and a size, with two addresses, with two listed ones
    [4, 0x2e, 1, 0x03, 0x08, 0x11, 0x1b, 0x12, 0x0b, 0, 0] ++
    [5, 0x2e, 0, 0x11, 0x01, 0x12, 0x01, 0, 0] ++
    [6, 0x2e, 0, 0x03, 0x08, 0x11, 0x1b, 0x12, 0x1b, 0, 0] ++ [0]
  addresses :=
    [28, 0, 0, 0, 5, 0, 8, 0] ++ [0, 0x10, 0, 0, 0, 0, 0, 0] ++ [0x10, 0x10, 0, 0, 0, 0, 0, 0] ++
    [0x20, 0x10, 0, 0, 0, 0, 0, 0]

def sampleShapes : List Abbreviation :=
  (Abbreviation.table sampleSections.abbreviations 0).toOption.getD []

def sampleRoot : Entry := ⟨0x11, [⟨0x03, .text [0x6d]⟩, ⟨0x73, .offset .section 8⟩]⟩

def sampleScope : Scope where
  sections := sampleSections
  encoding := sampleEncoding
  addressBase := 8
  name := some [0x6d]

/-- A function whose low address is listed at `i`. -/
def listed (name : UInt8) (i : Nat) (high : Value) : Entry :=
  ⟨0x2e, [⟨0x03, .text [name]⟩, ⟨0x11, .index .addresses i⟩, ⟨0x12, high⟩]⟩

def nameless : Entry := ⟨0x2e, [⟨0x11, .address 0x1004⟩, ⟨0x12, .address 0x1008⟩]⟩

/-- A namespace with two functions, the first of which holds another one in a block,
    and a function behind it. -/
def sampleTree : Forest :=
  .node ⟨0x39, []⟩
    (.node (listed 0x66 0 (.unsigned 0x10)) (.node ⟨0x0b, []⟩ (.node nameless .nil .nil) .nil)
      (.node (listed 0x68 1 (.index .addresses 2)) .nil .nil))
    (.node (listed 0x67 2 (.unsigned 0x10)) .nil .nil)

def sampleHeader : Header where
  encoding := sampleEncoding
  abbreviations := 0
  entries :=
    [1, 0x6d, 0, 8, 0, 0, 0] ++
      [2] ++
        [4, 0x66, 0, 0, 0x10] ++
          [3] ++ [5, 4, 0x10, 0, 0, 0, 0, 0, 0, 8, 0x10, 0, 0, 0, 0, 0, 0] ++ [0] ++ [0] ++
        [6, 0x68, 0, 1, 2] ++ [0] ++
      [4, 0x67, 0, 2, 0x10] ++ [0] ++ [0]

theorem sampleTree_written :
    (Forest.node sampleRoot sampleTree .nil).Written sampleEncoding sampleShapes
      sampleHeader.entries := by
  have hroot : Entry.next sampleEncoding sampleShapes [1, 0x6d, 0, 8, 0, 0, 0] =
      (some sampleRoot, .ok []) := by decide +kernel
  have hspace : Entry.next sampleEncoding sampleShapes [2] = (some ⟨0x39, []⟩, .ok []) := by
    decide +kernel
  have hf : Entry.next sampleEncoding sampleShapes [4, 0x66, 0, 0, 0x10] =
      (some (listed 0x66 0 (.unsigned 0x10)), .ok []) := by decide +kernel
  have hblock : Entry.next sampleEncoding sampleShapes [3] = (some ⟨0x0b, []⟩, .ok []) := by
    decide +kernel
  have hnameless : Entry.next sampleEncoding sampleShapes
      [5, 4, 0x10, 0, 0, 0, 0, 0, 0, 8, 0x10, 0, 0, 0, 0, 0, 0] = (some nameless, .ok []) := by
    decide +kernel
  have hh : Entry.next sampleEncoding sampleShapes [6, 0x68, 0, 1, 2] =
      (some (listed 0x68 1 (.index .addresses 2)), .ok []) := by decide +kernel
  have hg : Entry.next sampleEncoding sampleShapes [4, 0x67, 0, 2, 0x10] =
      (some (listed 0x67 2 (.unsigned 0x10)), .ok []) := by decide +kernel
  exact .node hroot (.node hspace
    (.node hf (.node hblock (.leaf hnameless .nil) .nil) (.leaf hh .nil)) (.node hg .nil .nil)) .nil

theorem sample_wellFormed :
    WellFormed sampleSections sampleHeader sampleRoot sampleTree sampleScope where
  written := ⟨sampleShapes, by decide +kernel, sampleTree_written⟩
  scope_eq := rfl
  name := ⟨_, rfl⟩
  ranges := ⟨_, rfl⟩
  lines := ⟨none, rfl, nofun⟩
  functions := by
    intro entry h htag
    simp only [sampleTree, Forest.entries, List.append_nil, List.nil_append, List.cons_append,
      List.mem_cons, List.not_mem_nil, or_false] at h
    rcases h with rfl | rfl | rfl | rfl | rfl | rfl
    · cases htag
    · exact ⟨⟨some 0x1000, rfl, rfl⟩, fun _ => ⟨_, rfl⟩⟩
    · cases htag
    · exact ⟨⟨some 0x1004, rfl, rfl⟩, fun _ => ⟨_, rfl⟩⟩
    · exact ⟨⟨some 0x1010, rfl, rfl⟩, fun _ => ⟨_, rfl⟩⟩
    · exact ⟨⟨some 0x1020, rfl, rfl⟩, fun _ => ⟨_, rfl⟩⟩

theorem load_describes_sample : ∃ u, (load sampleSections sampleHeader).Gives () (.ok u) () ∧
    List.Forall₂ sampleScope.lookups.Describes
      [listed 0x66 0 (.unsigned 0x10), nameless, listed 0x67 2 (.unsigned 0x10)] u.functions :=
  load_describes () sample_wellFormed

/-- A function is not among those of the unit, although both its addresses are listed
    in the address table. -/
theorem indexedEnd_passedOver :
    WellFormed sampleSections sampleHeader sampleRoot sampleTree sampleScope ∧
      (∃ entry ∈ sampleTree.entries, entry.tag = Entry.functionTag ∧
        (∃ v, entry.value? AttributeName.low = some v ∧ sampleScope.lookups.Denotes v 0x1010) ∧
        (∃ v, entry.value? AttributeName.high = some v ∧ sampleScope.lookups.Denotes v 0x1020) ∧
        sampleScope.lookups.Named entry (some "h")) ∧
      ∃ u, (load sampleSections sampleHeader).Gives () (.ok u) () ∧
        u.functions = [⟨some "f", 0x1000, 0x1010⟩, ⟨none, 0x1004, 0x1008⟩,
          ⟨some "g", 0x1020, 0x1030⟩] := by
  have hname : sampleScope.lookups.Named (listed 0x68 1 (.index .addresses 2))
      (some (Utf8.lossy [0x68])) := .named rfl rfl
  rw [show Utf8.lossy [0x68] = "h" by decide +kernel] at hname
  refine ⟨sample_wellFormed, ⟨_, by decide +kernel, rfl, ⟨_, rfl, .indexed rfl⟩,
    ⟨_, rfl, .indexed rfl⟩, hname⟩, ⟨"m", [], _, []⟩, ⟨?_, rfl⟩, rfl⟩
  decide +kernel

end CompilationUnit

end SourceDebugger
