/-
  Commands are read back from the words that say them.

  * `Place.Prints`, `Command.keyword` and `Command.Arguments`: the words of a
    command, with numbers in any form in which they are printed;
  * `Abbreviates`: the beginnings of a word of a list that stand for it, and
    `resolveWord?_of_abbreviates`: that word is taken for them;
  * `Place.ofText_of_prints`: a place is read back, if it is not taken for one of
    another kind (`Place.Clear`);
  * `Command.ofWords_words`: a command is read from its words, also with a shorter
    first word and with more words behind them.
-/
import Mathlib.Data.List.TakeWhile
import SourceDebugger.Proofs.Numeral

namespace SourceDebugger

/-! ## The words of a command -/

/-- A text for a place. -/
inductive Place.Prints : Place → String → Prop
  | address (a : Addr) (width : Nat) :
      Prints (.address a) ("0x" ++ Numeral.paddedHex width a.toNat)
  | line {n : UInt64} {digits : String} (file : String) (h : Numeral.Prints n.toNat digits) :
      Prints (.line file n) (file ++ ":" ++ digits)
  | function (name : String) : Prints (.function name) name

/-- A text for the place is not taken for one of a place of another kind. -/
def Place.Clear : Place → String → Prop
  | .address _, _ => True
  | .line _ _, text => ¬ Numeral.Marked text.toList
  | .function _, text => ':' ∉ text.toList ∧ ¬ Numeral.Marked text.toList

/-- A text for a word of memory: its two's complement in hexadecimal. -/
def Word.Prints (w : Word) (text : String) : Prop :=
  ∃ width, text = "0x" ++ Numeral.paddedHex width (w.toInt % UInt64.size).toNat

namespace Command

/-- The first word. -/
def keyword : Command → String
  | .continue => "continue"
  | setBreakpoint _ => "break"
  | deleteBreakpoint _ => "delete"
  | dumpRegisters | readRegister _ | writeRegister _ _ => "register"
  | readMemory _ _ | writeMemory _ _ => "memory"
  | stepIn => "step"
  | stepInstruction => "stepi"
  | stepOver => "next"
  | stepOut => "finish"
  | findSymbols _ => "symbol"
  | info => "info"
  | maps => "maps"
  | kill => "kill"
  | quit => "quit"

/-- The words behind the first one. -/
def Arguments : Command → List String → Prop
  | setBreakpoint place, args => ∃ t, place.Prints t ∧ args = [t]
  | deleteBreakpoint a, args => ∃ t, Numeral.Prints a.toNat t ∧ args = [t]
  | dumpRegisters, args => args = ["dump"]
  | readRegister r, args => args = ["read", r.name]
  | writeRegister r v, args => ∃ t, Numeral.Prints v.toNat t ∧ args = ["write", r.name, t]
  | readMemory a none, args => ∃ t, Numeral.Prints a.toNat t ∧ args = ["read", t]
  | readMemory a (some n), args =>
    ∃ t u, Numeral.Prints a.toNat t ∧ Numeral.Prints n.toNat u ∧ args = ["read", t, u]
  | writeMemory a v, args =>
    ∃ t u, Numeral.Prints a.toNat t ∧ Word.Prints v u ∧ args = ["write", t, u]
  | findSymbols name, args => args = [name]
  | _, args => args = []

/-- A further word would be read as a part of the command. -/
def TakesMore : Command → Prop
  | readMemory _ none => True
  | _ => False

end Command

/-! ## Abbreviations -/

section
variable {candidates : List String} {p w : String}

/-- `p` begins the word `w` and stands for it: no earlier word begins with `p`, and
    `p` is no other word. -/
structure Abbreviates (candidates : List String) (p w : String) : Prop where
  ne_empty : p ≠ ""
  begins : p.toList <+: w.toList
  first : ∀ c ∈ candidates.takeWhile (· ≠ w), ¬ p.toList <+: c.toList
  own : p ∈ candidates → p = w

theorem eq_takeWhile_append (hw : w ∈ candidates) :
    ∃ later, candidates = candidates.takeWhile (· ≠ w) ++ w :: later := by
  induction candidates with
  | nil => cases hw
  | cons c cs ih =>
    by_cases hc : c = w
    · exact ⟨cs, by simp [hc]⟩
    · obtain ⟨later, h⟩ := ih ((List.mem_cons.1 hw).resolve_left (Ne.symm hc))
      refine ⟨later, ?_⟩
      rw [List.takeWhile_cons_of_pos (by simpa using hc), List.cons_append, ← h]

/-- The word that is abbreviated is taken. -/
theorem resolveWord?_of_abbreviates (h : Abbreviates candidates p w) (hw : w ∈ candidates) :
    resolveWord? p candidates = some w := by
  have hp : p.isEmpty = false := by simpa using h.ne_empty
  rw [resolveWord?, hp, if_neg Bool.false_ne_true]
  by_cases hmem : p ∈ candidates
  · obtain rfl := h.own hmem
    have hfind : candidates.find? (· == p) = some p := by
      obtain ⟨later, hl⟩ := eq_takeWhile_append hw
      exact List.find?_eq_some_iff_append.2 ⟨beq_self_eq_true p, _, later, hl, fun c hc => by
        simpa using List.mem_takeWhile_imp hc⟩
    rw [hfind]
    rfl
  · have hnone : candidates.find? (· == p) = none :=
      List.find?_eq_none.2 fun c hc he => hmem (beq_iff_eq.1 he ▸ hc)
    rw [hnone, Option.none_or, List.find?_eq_some_iff_append]
    obtain ⟨later, hl⟩ := eq_takeWhile_append hw
    exact ⟨List.isPrefixOf_iff_prefix.2 h.begins, _, later, hl, fun c hc => by
      simpa [← List.isPrefixOf_iff_prefix] using h.first c hc⟩

end

/-! ## Places -/

section
variable {sep : Char} {front back cs : List Char}

theorem splitLast?_append (h : sep ∉ back) :
    splitLast? sep (front ++ sep :: back) = some (front, back) := by
  have hback : ∀ c ∈ back.reverse, (c != sep) = true := fun c hc => by
    simpa using fun he : c = sep => h (he ▸ List.mem_reverse.1 hc)
  simp [splitLast?, List.dropWhile_append_of_pos hback, List.takeWhile_append_of_pos hback]

theorem splitLast?_of_not_mem (h : sep ∉ cs) : splitLast? sep cs = none := by
  have hcs : cs.reverse.dropWhile (· != sep) = [] :=
    List.dropWhile_eq_nil_iff.2 fun c hc => by
      simpa using fun he : c = sep => h (he ▸ List.mem_reverse.1 hc)
  rw [splitLast?, hcs]

end

theorem Numeral.Prints.not_colon {n : Nat} {text : String} (h : Numeral.Prints n text) :
    ':' ∉ text.toList := fun hc => by
  rcases h.isDigit hc with hx | ⟨d, hd⟩
  · exact absurd hx (by decide)
  · rw [← Numeral.digit?_eq_some_iff (by decide)] at hd
    exact absurd hd (by simp [Numeral.digit?])

/-- A place is read from its text. -/
theorem Place.ofText_of_prints {place : Place} {text : String} (h : place.Prints text)
    (hc : place.Clear text) : Place.ofText text = .ok place := by
  have hdecimal {cs : List Char} (hcs : ¬ Numeral.Marked cs) :
      ¬ (Numeral.splitBase cs).1 = 16 := by
    have hsplit : Numeral.splitBase ([] ++ cs) = _ := Numeral.splitBase_of_mark .none fun _ => hcs
    rw [← List.nil_append cs, hsplit]
    exact of_decide_eq_false rfl
  cases h with
  | address a width =>
    have haddress : SourceDebugger.address ("0x" ++ Numeral.paddedHex width a.toNat) = .ok a :=
      address_of_prints (.hex width)
    have hmark : (Numeral.splitBase ("0x" ++ Numeral.paddedHex width a.toNat).toList).1 = 16 := by
      rw [String.toList_append]
      rfl
    simp only [Place.ofText]
    rw [if_pos hmark, haddress]
    rfl
  | @line n digits file hn =>
    have hsplit : splitLast? ':' (file ++ ":" ++ digits).toList =
        some (file.toList, digits.toList) := by
      simpa using splitLast?_append hn.not_colon
    simp only [Place.ofText]
    rw [if_neg (hdecimal hc), hsplit]
    simp only [String.ofList_toList, number_of_prints hn]
    rfl
  | function name =>
    simp only [Place.ofText]
    rw [if_neg (hdecimal hc.2), splitLast?_of_not_mem hc.1]
    rfl

/-! ## Commands -/

theorem register_name (r : Register) : register r.name = .ok r := by
  cases r <;> rfl

theorem Word.toInt_emod (w : Word) : (w.toInt % UInt64.size).toNat = w.toNat := by
  have h : w.toInt = w.toBitVec.toInt := rfl
  have hlt := w.toNat_lt
  have hsize : UInt64.size = 2 ^ 64 := rfl
  rw [h, BitVec.toInt_eq_toNat_cond, UInt64.toNat_toBitVec, hsize]
  split_ifs <;> omega

theorem Word.Prints.number_eq {w : Word} {text : String} (h : w.Prints text) :
    number text = .ok w := by
  obtain ⟨width, rfl⟩ := h
  rw [Word.toInt_emod]
  exact number_of_prints (.hex width)

namespace Command

variable {c : Command} {p : String} {args extra : List String}

theorem keyword_mem (c : Command) : c.keyword ∈ commandWords := by
  cases c <;> simp [keyword, commandWords]

theorem ok_bind {ε α β : Type} (a : α) (next : α → Except ε β) :
    (Except.ok a >>= next) = next a := rfl

theorem word_zero (w : String) (ws : List String) (what : String) :
    word (w :: ws) 0 what = .ok w := rfl

theorem word_succ (w : String) (ws : List String) (i : Nat) (what : String) :
    word (w :: ws) (i + 1) what = word ws i what := rfl

theorem resolve_registerWord :
    ∀ w ∈ ["dump", "read", "write"], resolveWord? w ["dump", "read", "write"] = some w := by
  decide

theorem resolve_memoryWord :
    ∀ w ∈ ["read", "write"], resolveWord? w ["read", "write"] = some w := by
  decide

/-- The commands on registers are read. -/
theorem ofRegisterWords_of_arguments (hargs : c.Arguments args) (hc : c.keyword = "register") :
    ofRegisterWords (p :: (args ++ extra)) = .ok c := by
  cases c with
  | dumpRegisters =>
    obtain rfl := hargs
    simp only [ofRegisterWords, List.cons_append, word_succ, word_zero, ok_bind,
      resolve_registerWord "dump" (by simp)]
    rfl
  | readRegister r =>
    obtain rfl := hargs
    simp only [ofRegisterWords, List.cons_append, word_succ, word_zero, ok_bind,
      resolve_registerWord "read" (by simp), register_name]
    rfl
  | writeRegister r v =>
    obtain ⟨t, ht, rfl⟩ := hargs
    simp only [ofRegisterWords, List.cons_append, word_succ, word_zero, ok_bind,
      resolve_registerWord "write" (by simp), register_name, number_of_prints ht]
    rfl
  | _ => simp [keyword] at hc

/-- The commands on memory are read. -/
theorem ofMemoryWords_of_arguments (hargs : c.Arguments args) (hc : c.keyword = "memory")
    (hextra : c.TakesMore → extra = []) : ofMemoryWords (p :: (args ++ extra)) = .ok c := by
  cases c with
  | readMemory a size =>
    cases size with
    | none =>
      obtain ⟨t, ht, rfl⟩ := hargs
      obtain rfl := hextra trivial
      simp only [ofMemoryWords, List.cons_append, word_succ, word_zero, ok_bind,
        resolve_memoryWord "read" (by simp), address_of_prints ht]
      rfl
    | some n =>
      obtain ⟨t, u, ht, hu, rfl⟩ := hargs
      simp only [ofMemoryWords, List.cons_append, word_succ, word_zero, ok_bind,
        resolve_memoryWord "read" (by simp), address_of_prints ht, List.getElem?_cons_succ,
        List.getElem?_cons_zero, number_of_prints hu]
      rfl
  | writeMemory a v =>
    obtain ⟨t, u, ht, hu, rfl⟩ := hargs
    simp only [ofMemoryWords, List.cons_append, word_succ, word_zero, ok_bind,
      resolve_memoryWord "write" (by simp), address_of_prints ht, hu.number_eq]
    rfl
  | _ => simp [keyword] at hc

/-- A command is read from a word that stands for its first one, and the words
    behind it. -/
theorem ofWords_of_keyword (hp : resolveWord? p commandWords = some c.keyword)
    (hargs : c.Arguments args)
    (hclear : ∀ place t, c = setBreakpoint place → args = [t] → place.Clear t)
    (hextra : c.TakesMore → extra = []) : ofWords (p :: (args ++ extra)) = .ok c := by
  cases c with
  | setBreakpoint place =>
    obtain ⟨t, ht, rfl⟩ := hargs
    simp only [ofWords, List.cons_append, word_succ, word_zero, ok_bind, hp, keyword,
      Place.ofText_of_prints ht (hclear _ _ rfl rfl)]
    rfl
  | deleteBreakpoint a =>
    obtain ⟨t, ht, rfl⟩ := hargs
    simp only [ofWords, List.cons_append, word_succ, word_zero, ok_bind, hp, keyword,
      address_of_prints ht]
    rfl
  | dumpRegisters | readRegister | writeRegister =>
    simp only [ofWords, word_zero, ok_bind, hp, keyword]
    exact ofRegisterWords_of_arguments hargs rfl
  | readMemory | writeMemory =>
    simp only [ofWords, word_zero, ok_bind, hp, keyword]
    exact ofMemoryWords_of_arguments hargs rfl hextra
  | findSymbols name =>
    obtain rfl := hargs
    simp only [ofWords, List.cons_append, word_succ, word_zero, ok_bind, hp, keyword]
    rfl
  | «continue» | stepIn | stepInstruction | stepOver | stepOut | info | maps | kill | quit =>
    simp only [ofWords, word_zero, ok_bind, hp, keyword]
    rfl

/-- A command word stands for itself: no earlier one begins with it. -/
theorem abbreviates_keyword (c : Command) : Abbreviates commandWords c.keyword c.keyword where
  ne_empty := by cases c <;> simp [keyword]
  begins := List.prefix_rfl
  first := by
    have h : ∀ w ∈ commandWords, ∀ d ∈ commandWords.takeWhile (· ≠ w), ¬ w.toList <+: d.toList := by
      decide
    exact h _ c.keyword_mem
  own _ := rfl

/-- A command is read from its words. -/
theorem ofWords_of_arguments (hargs : c.Arguments args)
    (hclear : ∀ place t, c = setBreakpoint place → args = [t] → place.Clear t) :
    ofWords (c.keyword :: args) = .ok c := by
  have hp := resolveWord?_of_abbreviates c.abbreviates_keyword c.keyword_mem
  have h : ofWords (c.keyword :: (args ++ [])) = .ok c :=
    ofWords_of_keyword hp hargs hclear fun _ => rfl
  rwa [List.append_nil] at h

/-- **Reading a command undoes saying it.**  A command is read from its words, numbers
    and addresses being written in hexadecimal or in decimal, unless the place of a
    breakpoint is taken for another kind.  The first word may be abbreviated, and words
    behind the last one are ignored where the command does not take them. -/
theorem ofWords_words (hargs : c.Arguments args)
    (hclear : ∀ place t, c = setBreakpoint place → args = [t] → place.Clear t) :
    ofWords (c.keyword :: args) = .ok c ∧
      ∀ p extra, Abbreviates commandWords p c.keyword → (c.TakesMore → extra = []) →
        ofWords (p :: (args ++ extra)) = .ok c := by
  refine ⟨ofWords_of_arguments hargs hclear, fun p extra hp hextra => ?_⟩
  exact ofWords_of_keyword (resolveWord?_of_abbreviates hp c.keyword_mem) hargs hclear hextra

/-- The name of the file holds a colon, the line is in hexadecimal. -/
theorem ofWords_words_break :
    (setBreakpoint (.line "a:b.c" 12)).Arguments ["a:b.c:0x0c"] ∧
      (Place.line "a:b.c" 12).Clear "a:b.c:0x0c" ∧ Abbreviates commandWords "b" "break" ∧
      ofWords ["break", "a:b.c:0x0c"] = .ok (setBreakpoint (.line "a:b.c" 12)) ∧
      ofWords ["b", "a:b.c:0x0c", "again"] = .ok (setBreakpoint (.line "a:b.c" 12)) := by
  have hargs : (setBreakpoint (.line "a:b.c" 12)).Arguments ["a:b.c:0x0c"] :=
    ⟨_, .line "a:b.c" (.hex 2), rfl⟩
  have hclear : (Place.line "a:b.c" 12).Clear "a:b.c:0x0c" :=
    show ¬ Numeral.Marked "a:b.c:0x0c".toList by decide
  have hb : Abbreviates commandWords "b" "break" :=
    ⟨by decide, by decide, by decide, by decide⟩
  obtain ⟨hfull, hshort⟩ := ofWords_words hargs fun place t hplace ht => by
    cases hplace
    cases ht
    exact hclear
  exact ⟨hargs, hclear, hb, hfull, hshort "b" ["again"] hb nofun⟩

end Command

end SourceDebugger
