/-
  Lines and words of texts that are put together from pieces.

  * `Text.IsLine`: the text does not go over the end of a line, as all
    `Text.lines` do (`isLine_of_mem_lines`);
  * `Text.lines_append`: behind a line feed a text is read on by itself, so that
    lines which are joined are found again (`lines_intercalate`, `lines_join`);
  * `Text.words_append`: the same for a blank and words; `Text.IsWord` is one word.
-/
import Mathlib.Data.List.Basic
import SourceDebugger.Text.Lines

namespace SourceDebugger.Text

variable {a : String} {cs l line w word : List Char}

/-! ## Lines -/

/-- The text does not go over the end of a line. -/
def IsLine (text : String) : Prop := '\n' ∉ text.toList

/-- A line without the carriage return that belongs to its end. -/
def withoutReturn (line : String) : String := String.ofList (dropReturn line.toList)

theorem linesFrom_of_not_mem (h : '\n' ∉ l) :
    linesFrom line (l ++ cs) = linesFrom (l.reverse ++ line) cs := by
  induction l generalizing line with
  | nil => rfl
  | cons c l ih =>
    rw [List.mem_cons, not_or] at h
    rw [List.cons_append, linesFrom.eq_3 _ _ _ (Ne.symm h.1), ih h.2, List.reverse_cons,
      List.append_assoc]
    rfl

theorem mem_of_mem_dropReturn {c : Char} (h : c ∈ dropReturn l) : c ∈ l := by
  unfold dropReturn at h
  split at h
  · exact List.dropLast_subset l h
  · exact h

theorem not_mem_linesFrom (hline : '\n' ∉ line) (h : l ∈ linesFrom line cs) : '\n' ∉ l := by
  induction cs generalizing line with
  | nil =>
    rw [linesFrom] at h
    split at h
    · cases h
    · rw [List.mem_singleton.1 h]
      simpa using hline
  | cons c cs ih =>
    by_cases hc : c = '\n'
    · subst hc
      rcases List.mem_cons.1 h with rfl | h
      · exact fun h => hline (by simpa using mem_of_mem_dropReturn h)
      · exact ih List.not_mem_nil h
    · rw [linesFrom.eq_3 _ _ _ hc] at h
      exact ih (by simp [hline, Ne.symm hc]) h

/-- The lines of a text are lines. -/
theorem isLine_of_mem_lines {text : String} (h : a ∈ lines text) : IsLine a := by
  obtain ⟨l, hl, rfl⟩ := List.mem_map.1 h
  rw [IsLine, String.toList_ofList]
  exact not_mem_linesFrom List.not_mem_nil hl

/-- A line feed ends a line, and the next one begins. -/
theorem lines_append (h : IsLine a) (b : String) :
    lines (a ++ "\n" ++ b) = withoutReturn a :: lines b := by
  have hlist : (a ++ "\n" ++ b).toList = a.toList ++ '\n' :: b.toList := by simp
  rw [lines, hlist, linesFrom_of_not_mem h, linesFrom.eq_2, List.append_nil, List.reverse_reverse]
  rfl

theorem lines_of_isLine (h : IsLine a) (hne : a ≠ "") : lines a = [a] := by
  have hlist : a.toList ≠ [] := fun h => hne (String.toList_eq_nil_iff.1 h)
  rw [lines, ← List.append_nil a.toList, linesFrom_of_not_mem h, linesFrom]
  simp [hlist]

theorem withoutReturn_eq_self (h : '\r' ∉ a.toList) : withoutReturn a = a := by
  have hlast : a.toList.getLast? ≠ some '\r' := fun hl => h (List.mem_of_getLast? hl)
  rw [withoutReturn, dropReturn, if_neg hlast, String.ofList_toList]

/-- Lines that are put one below the other are found again. -/
theorem lines_intercalate : ∀ {ls : List String},
    (∀ l ∈ ls, IsLine l ∧ l ≠ "" ∧ withoutReturn l = l) → lines ("\n".intercalate ls) = ls
  | [], _ => rfl
  | [l], h => by
    obtain ⟨hl, hne, -⟩ := h l (by simp)
    rw [String.intercalate_singleton, lines_of_isLine hl hne]
  | l :: m :: ls, h => by
    obtain ⟨hl, -, hr⟩ := h l (by simp)
    rw [String.intercalate_cons_cons, lines_append hl, hr,
      lines_intercalate fun k hk => h k (List.mem_cons_of_mem _ hk)]

/-- Each line that is ended by a line feed is found again, but for a carriage return
    at its end. -/
theorem lines_join {ls : List String} (h : ∀ l ∈ ls, IsLine l) :
    lines (String.join (ls.map (· ++ "\n"))) = ls.map withoutReturn := by
  induction ls with
  | nil => rfl
  | cons l ls ih =>
    rw [List.map_cons, String.join_cons, lines_append (h l (by simp)),
      ih fun k hk => h k (List.mem_cons_of_mem _ hk)]
    rfl

/-! ## Words -/

/-- The text is one word. -/
def IsWord (text : String) : Prop := text ≠ "" ∧ ∀ c ∈ text.toList, isBlank c = false

instance (text : String) : Decidable (IsWord text) :=
  decidable_of_iff (text ≠ "" ∧ text.toList.all (!isBlank ·)) (by simp [IsWord])

theorem wordsFrom_append {c : Char} (hc : isBlank c) (word cs rest : List Char) :
    wordsFrom word (cs ++ c :: rest) = wordsFrom word cs ++ wordsFrom [] rest := by
  induction cs generalizing word with
  | nil => simp [wordsFrom, hc]
  | cons d cs ih =>
    by_cases hd : isBlank d
    · simp only [List.cons_append, wordsFrom, hd, if_true, ih, List.append_assoc]
    · simp only [List.cons_append, wordsFrom, hd, ih]
      rfl

/-- A blank stands between words. -/
theorem words_append (a b : String) : words (a ++ " " ++ b) = words a ++ words b := by
  have hlist : (a ++ " " ++ b).toList = a.toList ++ ' ' :: b.toList := by simp
  rw [words, hlist, wordsFrom_append rfl, List.map_append]
  rfl

theorem wordsFrom_of_not_blank (h : ∀ c ∈ w, isBlank c = false) :
    wordsFrom word w = wordsFrom (w.reverse ++ word) [] := by
  induction w generalizing word with
  | nil => rfl
  | cons c w ih =>
    rw [wordsFrom.eq_2, if_neg (by simp [h c]), ih fun d hd => h d (List.mem_cons_of_mem _ hd),
      List.reverse_cons, List.append_assoc]
    rfl

theorem IsWord.words_eq (h : IsWord a) : words a = [a] := by
  have hlist : a.toList ≠ [] := fun he => h.1 (String.toList_eq_nil_iff.1 he)
  rw [words, wordsFrom_of_not_blank h.2, wordsFrom]
  simp [hlist]

end SourceDebugger.Text
