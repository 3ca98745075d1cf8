/-
  A source window is a slice of the file, with the current line marked.

  * `SourceWindow.Consecutive`: lines that are numbered without gap or repetition;
    of such lines the scan for the window takes a slice (`Consecutive.dropWhile_eq`,
    `Consecutive.takeWhile_eq`);
  * `SourceWindow.lines_render`: the rendering has one line for each line of the
    window; the current one is marked (`marks_current`);
  * `SourceWindow.ofText_slices`: which lines the window has, when the current line
    is among them and when the window is full, and what is marked.
-/
import Mathlib.Data.List.Forall2
import Mathlib.Data.List.Nodup
import SourceDebugger.Proofs.Lines
import SourceDebugger.SourceWindow

namespace SourceDebugger.SourceWindow

variable {ps : List (Nat × String)} {k : Nat} {text : String} {line context current : UInt64}

/-! ## Slices of numbered lines -/

/-- The lines are numbered from `k` on. -/
def Consecutive (k : Nat) (ps : List (Nat × String)) : Prop :=
  ps.map Prod.fst = List.range' k ps.length

theorem consecutive_cons {p : Nat × String} :
    Consecutive k (p :: ps) ↔ p.1 = k ∧ Consecutive (k + 1) ps := by
  simp [Consecutive, List.range'_succ]

theorem Consecutive.drop (h : Consecutive k ps) (m : Nat) : Consecutive (k + m) (ps.drop m) := by
  rw [Consecutive, List.map_drop, h, List.drop_range', List.length_drop, Nat.mul_one]

theorem Consecutive.dropWhile_eq (h : Consecutive k ps) (s : Nat) :
    ps.dropWhile (fun p => p.1 < s) = ps.drop (s - k) := by
  induction ps generalizing k with
  | nil => simp
  | cons p ps ih =>
    obtain ⟨hp, hps⟩ := consecutive_cons.1 h
    by_cases hlt : k < s
    · have hs : s - k = (s - (k + 1)) + 1 := by omega
      rw [List.dropWhile_cons_of_pos (by simpa [hp] using hlt), ih hps, hs, List.drop_succ_cons]
    · have hs : s - k = 0 := by omega
      rw [List.dropWhile_cons_of_neg (by simpa [hp] using hlt), hs, List.drop_zero]

theorem Consecutive.takeWhile_eq (h : Consecutive k ps) (e : Nat) :
    ps.takeWhile (fun p => p.1 ≤ e) = ps.take (e + 1 - k) := by
  induction ps generalizing k with
  | nil => simp
  | cons p ps ih =>
    obtain ⟨hp, hps⟩ := consecutive_cons.1 h
    by_cases hle : k ≤ e
    · have he : e + 1 - k = (e + 1 - (k + 1)) + 1 := by omega
      rw [List.takeWhile_cons_of_pos (by simpa [hp] using hle), ih hps, he, List.take_succ_cons]
    · have he : e + 1 - k = 0 := by omega
      rw [List.takeWhile_cons_of_neg (by simpa [hp] using hle), he, List.take_zero]

theorem length_numbered (text : String) : (numbered text).length = (Text.lines text).length :=
  List.length_mapIdx

theorem consecutive_numbered (text : String) : Consecutive 1 (numbered text) := by
  refine List.ext_getElem (by simp) fun i hi hi' => ?_
  simp [numbered, Nat.add_comm]

theorem getElem?_of_mem_numbered {p : Nat × String} (h : p ∈ numbered text) :
    (Text.lines text)[p.1 - 1]? = some p.2 := by
  obtain ⟨i, hi, rfl⟩ := List.mem_mapIdx.1 h
  simp

/-! ## The lines of a window -/

theorem one_le_firstLine (line context : UInt64) : 1 ≤ firstLine line context :=
  Nat.le_max_right _ _

/-- The lines from the first one of a window on. -/
theorem consecutive_from_firstLine (text : String) (line context : UInt64) :
    Consecutive (firstLine line context)
      ((numbered text).drop (firstLine line context - 1)) := by
  have h := (consecutive_numbered text).drop (firstLine line context - 1)
  rwa [Nat.add_sub_cancel' (one_le_firstLine line context)] at h

theorem lines_ofText (text : String) (line context : UInt64) :
    (ofText text line context).lines =
      ((numbered text).drop (firstLine line context - 1)).take
        (lastLine line context + 1 - firstLine line context) := by
  rw [ofText, (consecutive_numbered text).dropWhile_eq,
    (consecutive_from_firstLine text line context).takeWhile_eq]

theorem take_range' (m s n : Nat) : (List.range' s n).take m = List.range' s (min m n) := by
  rcases Nat.le_total m n with h | h
  · rw [List.take_range'_of_length_ge h, Nat.min_eq_left h]
  · rw [List.take_range'_of_length_le h, Nat.min_eq_right h]

/-- The numbers of the lines in the window. -/
theorem numbers_ofText (text : String) (line context : UInt64) :
    (ofText text line context).lines.map Prod.fst =
      List.range' (firstLine line context)
        (min (lastLine line context) (Text.lines text).length + 1 - firstLine line context) := by
  have hpos := one_le_firstLine line context
  rw [lines_ofText, List.map_take, consecutive_from_firstLine text line context, take_range',
    List.length_drop, length_numbered]
  congr 1
  omega

theorem mem_numbers_ofText {n : Nat} : n ∈ (ofText text line context).lines.map Prod.fst ↔
    firstLine line context ≤ n ∧ n ≤ lastLine line context ∧ n ≤ (Text.lines text).length := by
  rw [numbers_ofText, List.mem_range'_1]
  omega

/-- The current line is near itself. -/
theorem current_mem_iff : line.toNat ∈ (ofText text line context).lines.map Prod.fst ↔
    1 ≤ line.toNat ∧ line.toNat ≤ (Text.lines text).length := by
  have hlt := line.toNat_lt
  have hsize : lastNumber = 2 ^ 64 - 1 := rfl
  rw [mem_numbers_ofText, lastLine, firstLine, hsize]
  omega

/-! ## The rendering -/

/-- A line of the rendering, without its end. -/
def body (current : UInt64) (p : Nat × String) : String :=
  (if p.1 = current.toNat then ">" else " ") ++ " " ++ Numeral.paddedDecimal 4 p.1 ++ " " ++ p.2

/-- The line is marked as the current one. -/
def IsMarked (shown : String) : Prop := shown.toList.head? = some '>'

instance (shown : String) : Decidable (IsMarked shown) :=
  inferInstanceAs (Decidable (_ = _))

theorem paddedDecimal_isLine (width n : Nat) : Text.IsLine (Numeral.paddedDecimal width n) := by
  rw [Text.IsLine, Numeral.paddedDecimal, String.toList_ofList, Numeral.padLeft, List.mem_append]
  rintro (h | h)
  · exact absurd (List.eq_of_mem_replicate h) (by decide)
  · exact absurd (Nat.isDigit_of_mem_toDigits (by decide) (by decide) h) (by decide)

theorem body_isLine {p : Nat × String} (h : Text.IsLine p.2) : Text.IsLine (body current p) := by
  have hnum : '\n' ∉ _ := paddedDecimal_isLine 4 p.1
  have hmark : '\n' ∉ (if p.1 = current.toNat then ">" else " ").toList := by
    split <;> decide
  have htext : '\n' ∉ _ := h
  simp [Text.IsLine, body, hmark, hnum, htext]

theorem head?_dropReturn (c d : Char) (cs : List Char) :
    (Text.dropReturn (c :: d :: cs)).head? = some c := by
  unfold Text.dropReturn
  split <;> rfl

/-- The current line has a mark, and no other one. -/
theorem isMarked_body {p : Nat × String} :
    IsMarked (Text.withoutReturn (body current p)) ↔ p.1 = current.toNat := by
  rw [IsMarked, Text.withoutReturn, String.toList_ofList, body]
  split_ifs with h
  · simp [head?_dropReturn, h]
  · simp [head?_dropReturn, h]

/-- The rendering has the lines of the window. -/
theorem lines_render {w : SourceWindow} (h : ∀ p ∈ w.lines, Text.IsLine p.2) :
    Text.lines w.render = w.lines.map fun p => Text.withoutReturn (body w.current p) := by
  have hmap : w.lines.map (renderLine w.current) =
      (w.lines.map (body w.current)).map (· ++ "\n") := by
    rw [List.map_map]
    rfl
  rw [render, hmap, Text.lines_join, List.map_map]
  · rfl
  · rintro _ hl
    obtain ⟨p, hp, rfl⟩ := List.mem_map.1 hl
    exact body_isLine (h p hp)

theorem mem_numbered_of_mem {p : Nat × String} (h : p ∈ (ofText text line context).lines) :
    p ∈ numbered text := by
  rw [lines_ofText] at h
  exact List.mem_of_mem_drop (List.mem_of_mem_take h)

theorem isLine_of_mem_ofText {p : Nat × String} (hp : p ∈ (ofText text line context).lines) :
    Text.IsLine p.2 := by
  have htext := getElem?_of_mem_numbered (mem_numbered_of_mem hp)
  exact Text.isLine_of_mem_lines (List.mem_of_getElem? htext)

/-- One line is shown for each line of the window, and the current one is marked. -/
theorem marks_current (text : String) (line context : UInt64) :
    List.Forall₂ (fun shown p => IsMarked shown ↔ p.1 = line.toNat)
      (Text.lines (ofText text line context).render) (ofText text line context).lines := by
  rw [lines_render fun _ => isLine_of_mem_ofText, List.forall₂_map_left_iff, List.forall₂_same]
  exact fun p _ => isMarked_body

/-- The current line is marked once, if the text has that line. -/
theorem countP_marked :
    (Text.lines (ofText text line context).render).countP (IsMarked ·) =
      if 1 ≤ line.toNat ∧ line.toNat ≤ (Text.lines text).length then 1 else 0 := by
  have hnodup : ((ofText text line context).lines.map Prod.fst).Nodup := by
    rw [numbers_ofText]
    exact List.nodup_range'
  calc (Text.lines (ofText text line context).render).countP (IsMarked ·)
      = (ofText text line context).lines.countP fun p => p.1 == line.toNat := by
        rw [lines_render fun _ => isLine_of_mem_ofText, List.countP_map]
        refine List.countP_congr fun p _ => ?_
        simp [isMarked_body, ofText]
    _ = ((ofText text line context).lines.map Prod.fst).count line.toNat := by
        rw [List.count, List.countP_map]
        rfl
    _ = _ := by simp only [hnodup.count, current_mem_iff]

/-- **A window is the slice of the text around the current line.**  With the bounds
    kept within 64 bits, it has the lines from `start` to `stop` or to the end of the
    text, each once and with its text.  So it has the current line if the text does,
    and it is full if the text does not end before it; and the current line is the one
    that is marked. -/
theorem ofText_slices (text : String) (line context : UInt64)
    (h : (Text.lines text).length < 2 ^ 64) :
    let w := ofText text line context
    let n := (Text.lines text).length
    let start := max (line.toNat - context.toNat) 1
    let stop := min (start + min (2 * context.toNat) (2 ^ 64 - 1)) (2 ^ 64 - 1)
    w.lines.map Prod.fst = List.range' start (min stop n + 1 - start) ∧
      (∀ p ∈ w.lines, (Text.lines text)[p.1 - 1]? = some p.2) ∧
      (1 ≤ line.toNat ∧ line.toNat ≤ n → line.toNat ∈ w.lines.map Prod.fst) ∧
      (start + 2 * context.toNat ≤ n → w.lines.length = 2 * context.toNat + 1) ∧
      List.Forall₂ (fun shown p => IsMarked shown ↔ p.1 = line.toNat)
        (Text.lines w.render) w.lines ∧
      (Text.lines w.render).countP (IsMarked ·) =
        if 1 ≤ line.toNat ∧ line.toNat ≤ n then 1 else 0 := by
  intro w n start stop
  have hn : n < 2 ^ 64 := h
  have hstop : lastLine line context = stop := by
    have hsize : lastNumber = 2 ^ 64 - 1 := rfl
    have hstart : firstLine line context = start := rfl
    rw [lastLine, hsize, hstart]
    omega
  have hnumbers : w.lines.map Prod.fst = List.range' start (min stop n + 1 - start) :=
    hstop ▸ numbers_ofText text line context
  have hmem (p) (hp : p ∈ w.lines) : (Text.lines text)[p.1 - 1]? = some p.2 :=
    getElem?_of_mem_numbered (mem_numbered_of_mem hp)
  refine ⟨hnumbers, hmem, current_mem_iff.2, fun hfull => ?_, marks_current text line context,
    countP_marked⟩
  have hlast : min stop n = start + 2 * context.toNat := by omega
  rw [← List.length_map Prod.fst, hnumbers, List.length_range', hlast]
  omega

/-- The largest context shows all lines, however they end. -/
theorem ofText_slices_whole :
    (Text.lines "a\r\n\nb\r").length < 2 ^ 64 ∧
      (ofText "a\r\n\nb\r" 2 18446744073709551615).lines.map Prod.fst = [1, 2, 3] ∧
      (Text.lines (ofText "a\r\n\nb\r" 2 18446744073709551615).render).countP (IsMarked ·) = 1 := by
  have hn : (Text.lines "a\r\n\nb\r").length < 2 ^ 64 := by decide
  obtain ⟨hnumbers, -, -, -, -, hmarked⟩ :=
    ofText_slices "a\r\n\nb\r" 2 18446744073709551615 hn
  exact ⟨hn, hnumbers.trans (by decide), hmarked.trans (by decide)⟩

end SourceDebugger.SourceWindow
