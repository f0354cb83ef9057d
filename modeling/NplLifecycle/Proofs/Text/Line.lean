import Mathlib.Data.List.TakeWhile
import NplLifecycle.Text.Blank

/-!
# Lines and blanks

What stands behind the last line feed of a text is its last line; text without a line feed that is
put behind the text lengthens that line and leaves the others as they are.  A line is recognized by
its first character that is not blank.
-/

namespace NplLifecycle.Text

section Pieces

variable {mark : Char} {front back line : List Char}

theorem pieces_of_not_mem (h : mark ∉ front) : pieces mark front = [front] := by
  induction front with
  | nil => rfl
  | cons c front ih =>
      rw [List.mem_cons, not_or] at h
      rw [pieces, if_neg (Ne.symm h.1), ih h.2]

/-- What stands in front of a mark and what stands behind it is cut separately. -/
theorem pieces_append_cons (front back : List Char) :
    pieces mark (front ++ mark :: back) = pieces mark front ++ pieces mark back := by
  induction front with
  | nil => exact if_pos rfl
  | cons c front ih =>
      rw [List.cons_append, pieces, pieces, ih]
      by_cases hmark : c = mark
      · rw [if_pos hmark, if_pos hmark, List.cons_append]
      · rw [if_neg hmark, if_neg hmark]
        cases hpieces : pieces mark front with
        | nil => exact absurd hpieces (pieces_ne_nil mark front)
        | cons first others => rfl

/-- Text without a mark that is put in front lengthens the first piece. -/
theorem exists_pieces_append (h : mark ∉ front) (back : List Char) :
    ∃ first others, pieces mark back = first :: others ∧
      pieces mark (front ++ back) = (front ++ first) :: others := by
  induction front with
  | nil =>
      cases hback : pieces mark back with
      | nil => exact absurd hback (pieces_ne_nil mark back)
      | cons first others => exact ⟨first, others, rfl, hback⟩
  | cons c front ih =>
      rw [List.mem_cons, not_or] at h
      obtain ⟨first, others, hback, hpieces⟩ := ih h.2
      refine ⟨first, others, hback, ?_⟩
      rw [List.cons_append, pieces, if_neg (Ne.symm h.1), hpieces]
      rfl

def lastPiece (mark : Char) (text : List Char) : List Char :=
  (pieces mark text).getLastD []

theorem getLast?_pieces (mark : Char) (text : List Char) :
    (pieces mark text).getLast? = some (lastPiece mark text) := by
  rw [lastPiece, List.getLastD_eq_getLast?,
    List.getLast?_eq_some_getLast (pieces_ne_nil mark text)]
  rfl

theorem lastPiece_mem (mark : Char) (text : List Char) :
    lastPiece mark text ∈ pieces mark text :=
  List.mem_of_getLast? (getLast?_pieces mark text)

theorem lastPiece_append_cons (front back : List Char) :
    lastPiece mark (front ++ mark :: back) = lastPiece mark back := by
  apply Option.some.inj
  rw [← getLast?_pieces, pieces_append_cons, List.getLast?_append, getLast?_pieces]
  rfl

/-- Text without a mark that is put behind lengthens the last piece. -/
theorem pieces_append_of_not_mem (front : List Char) (h : mark ∉ back) :
    pieces mark (front ++ back) =
      (pieces mark front).dropLast ++ [lastPiece mark front ++ back] := by
  induction front with
  | nil => exact pieces_of_not_mem h
  | cons c front ih =>
      simp only [lastPiece, List.cons_append, pieces, ih]
      cases hpieces : pieces mark front with
      | nil => exact absurd hpieces (pieces_ne_nil mark front)
      | cons first others =>
          by_cases hmark : c = mark
          · simp only [if_pos hmark]
            rfl
          · simp only [if_neg hmark]
            cases others with
            | nil => rfl
            | cons second others => rfl

theorem lastPiece_append_of_not_mem (front : List Char) (h : mark ∉ back) :
    lastPiece mark (front ++ back) = lastPiece mark front ++ back := by
  apply Option.some.inj
  rw [← getLast?_pieces, pieces_append_of_not_mem front h, List.getLast?_concat]

theorem cutAt?_append_cons (h : mark ∉ front) (back : List Char) :
    cutAt? mark (front ++ mark :: back) = some (front, back) := by
  induction front with
  | nil => exact if_pos rfl
  | cons c front ih =>
      rw [List.mem_cons, not_or] at h
      rw [List.cons_append, cutAt?, if_neg (Ne.symm h.1), ih h.2]
      rfl

theorem eq_append_of_cutAt? (h : cutAt? mark line = some (front, back)) :
    line = front ++ mark :: back := by
  induction line generalizing front with
  | nil => exact absurd h (by simp [cutAt?])
  | cons c line ih =>
      rw [cutAt?] at h
      split at h
      · rename_i hmark
        obtain ⟨rfl, rfl⟩ := Prod.mk.inj (Option.some.inj h)
        rw [hmark]
        rfl
      · obtain ⟨⟨before, after⟩, hcut, heq⟩ := Option.map_eq_some_iff.mp h
        obtain ⟨rfl, rfl⟩ := Prod.mk.inj heq
        rw [ih hcut]
        rfl

end Pieces

section Lines

variable {text front back line : List Char}

/-- A line without the carriage return that belongs to its ending. -/
def dropReturn (line : List Char) : List Char :=
  if line.getLast? = some '\r' then line.dropLast else line

theorem front_dropReturn (line : List Char) : dropReturn line <+: line := by
  unfold dropReturn
  split
  · exact List.dropLast_prefix line
  · exact List.prefix_refl line

theorem lines_eq (text : List Char) :
    lines text = (pieces '\n' text).dropLast.map dropReturn ++
      if lastPiece '\n' text = [] then [] else [lastPiece '\n' text] := by
  simp only [lines, getLast?_pieces]
  cases lastPiece '\n' text with
  | nil =>
      rw [if_pos rfl, List.append_nil]
      rfl
  | cons c last =>
      rw [if_neg (List.cons_ne_nil c last)]
      rfl

/-- A line is what stands between two line feeds, or the front of it. -/
theorem exists_front_of_mem_lines (h : line ∈ lines text) :
    ∃ piece ∈ pieces '\n' text, line <+: piece := by
  rw [lines_eq, List.mem_append] at h
  cases h with
  | inl hended =>
      obtain ⟨piece, hpiece, rfl⟩ := List.mem_map.mp hended
      exact ⟨piece, List.dropLast_subset _ hpiece, front_dropReturn piece⟩
  | inr hlast =>
      split at hlast
      · exact absurd hlast List.not_mem_nil
      · rw [List.mem_singleton.mp hlast]
        exact ⟨_, lastPiece_mem '\n' text, List.prefix_refl _⟩

/-- Text without a line feed that is put behind lengthens the last line. -/
theorem lines_append_of_not_mem (front : List Char) (h : '\n' ∉ back) (hne : back ≠ []) :
    lines (front ++ back) = (pieces '\n' front).dropLast.map dropReturn ++
      [lastPiece '\n' front ++ back] := by
  rw [lines_eq, lastPiece_append_of_not_mem front h, pieces_append_of_not_mem front h,
    List.dropLast_concat, if_neg (List.append_ne_nil_of_right_ne_nil _ hne)]

end Lines

/-- The first character of a line that is not blank, in lower case. -/
def initial? (line : List Char) : Option Char :=
  (trimStart line).head?.map lowerAscii

section Initials

variable {line more : List Char} {c : Char}

theorem initial?_eq_none_iff : initial? line = none ↔ ∀ c ∈ line, isBlank c := by
  rw [initial?, Option.map_eq_none_iff, List.head?_eq_none_iff, trimStart,
    List.dropWhile_eq_nil_iff]

theorem initial?_cons (c : Char) (line : List Char) :
    initial? (c :: line) = if isBlank c then initial? line else some (lowerAscii c) := by
  rw [initial?, trimStart, List.dropWhile_cons]
  split
  · rfl
  · rfl

theorem initial?_append (line more : List Char) :
    initial? (line ++ more) = (initial? line).or (initial? more) := by
  induction line with
  | nil => rfl
  | cons c line ih =>
      rw [List.cons_append, initial?_cons, initial?_cons, ih]
      split
      · rfl
      · rfl

/-- The front of a line has no other initial than the line. -/
theorem initial?_of_front (hfront : line <+: more) (h : initial? line = some c) :
    initial? more = some c := by
  obtain ⟨rest, rfl⟩ := hfront
  rw [initial?_append, h]
  rfl

theorem trim_of_not_blank (h : ∀ c ∈ line, isBlank c = false) : trim line = line := by
  have hstart : ∀ {text : List Char}, (∀ c ∈ text, isBlank c = false) →
      text.dropWhile isBlank = text := by
    intro text htext
    rw [List.dropWhile_eq_self_iff]
    intro hpos
    rw [htext _ (List.getElem_mem hpos)]
    exact Bool.false_ne_true
  have hreverse : ∀ c ∈ line.reverse, isBlank c = false := by
    intro c hc
    exact h c (List.mem_reverse.mp hc)
  rw [trim, trimEnd, trimStart, hstart h, hstart hreverse, List.reverse_reverse]

/-- Blanks in front are trimmed. -/
theorem trim_append_of_blank (h : initial? line = none) (more : List Char) :
    trim (line ++ more) = trim more := by
  rw [trim, trimStart, List.dropWhile_append_of_pos (initial?_eq_none_iff.mp h)]
  rfl

theorem front_trimEnd (line : List Char) : trimEnd line <+: line := by
  have hsuffix := List.reverse_prefix.mpr (List.dropWhile_suffix isBlank (l := line.reverse))
  rw [List.reverse_reverse] at hsuffix
  exact hsuffix

/-- A line that is trimmed to a word, in whatever case, begins with the word's first letter. -/
theorem initial?_of_sameIgnoringCase {word : List Char}
    (h : sameIgnoringCase (trim line) (c :: word)) : initial? line = some (lowerAscii c) := by
  have hword : (trim line).map lowerAscii = lowerAscii c :: word.map lowerAscii :=
    beq_iff_eq.mp h
  obtain ⟨rest, hrest⟩ := front_trimEnd (trimStart line)
  rw [initial?, ← hrest, ← trim]
  cases htrim : trim line with
  | nil => exact absurd (htrim ▸ hword) (by simp)
  | cons d more =>
      rw [htrim, List.map_cons] at hword
      exact congrArg some (List.cons.inj hword).1

end Initials

/-- No line of a text begins with a letter. -/
def Avoids (letter : Char) (text : List Char) : Prop :=
  ∀ line ∈ pieces '\n' text, initial? line ≠ some letter

section Avoiding

variable {letter : Char} {front text : List Char}

theorem avoids_nil (letter : Char) : Avoids letter [] := by
  intro line hline
  rw [List.mem_singleton.mp hline]
  exact (Option.some_ne_none letter).symm

/-- A line feed ends an empty line. -/
theorem Avoids.lineFeed (h : Avoids letter text) : Avoids letter ('\n' :: text) := by
  intro line hline
  rw [pieces, if_pos rfl, List.mem_cons] at hline
  cases hline with
  | inl hempty =>
      rw [hempty]
      exact (Option.some_ne_none letter).symm
  | inr hrest => exact h line hrest

/-- What is put in front of a line decides on its first character, if it has one. -/
theorem Avoids.append (h : Avoids letter text) (front : List Char) (hline : '\n' ∉ front)
    (hfront : initial? front ≠ some letter) : Avoids letter (front ++ text) := by
  obtain ⟨first, others, hpieces, hlonger⟩ := exists_pieces_append hline text
  unfold Avoids at h ⊢
  rw [hpieces, List.forall_mem_cons] at h
  rw [hlonger, List.forall_mem_cons]
  refine ⟨?_, h.2⟩
  rw [initial?_append]
  cases hinitial : initial? front with
  | none => exact h.1
  | some c =>
      rw [hinitial] at hfront
      exact hfront

/-- The text behind a line feed has no lines of its own. -/
theorem Avoids.of_append_cons (h : Avoids letter (front ++ '\n' :: text)) :
    Avoids letter front ∧ Avoids letter text := by
  unfold Avoids at h
  rw [pieces_append_cons, List.forall_mem_append] at h
  exact h

/-- A text without the end of its last line has no other beginnings of lines. -/
theorem Avoids.of_append {more : List Char} (h : Avoids letter (front ++ more))
    (hline : '\n' ∉ more) : Avoids letter front := by
  have hsplit : pieces '\n' (front ++ []) = _ := pieces_append_of_not_mem front List.not_mem_nil
  unfold Avoids at h ⊢
  rw [pieces_append_of_not_mem front hline, List.forall_mem_append, List.forall_mem_singleton] at h
  rw [List.append_nil, List.append_nil] at hsplit
  rw [hsplit, List.forall_mem_append, List.forall_mem_singleton]
  refine ⟨h.1, ?_⟩
  intro hinitial
  exact h.2 (initial?_of_front (List.prefix_append _ more) hinitial)

end Avoiding

end NplLifecycle.Text
