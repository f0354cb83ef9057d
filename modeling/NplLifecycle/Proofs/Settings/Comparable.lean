import NplLifecycle.Proofs.Text.Line
import NplLifecycle.Settings.Change

/-!
# Comparable keys

A dotted key names a place in a tree of sections, and a change of one place touches another if one
of the two is on the way to the other.  A change is compared with a setting by text: a key is inside
another if it goes on behind it with a dot.  Here that is said by segments: texts are cut at every
dot, so empty segments count, and a key that only begins with the same letters is no key inside.
-/

namespace NplLifecycle

namespace Text

variable {mark : Char}

theorem pieces_cons_mark (rest : List Char) :
    pieces mark (mark :: rest) = [] :: pieces mark rest :=
  if_pos rfl

theorem exists_pieces_cons {c : Char} (hc : c ≠ mark) (rest : List Char) :
    ∃ first others, pieces mark rest = first :: others ∧
      pieces mark (c :: rest) = (c :: first) :: others := by
  have hsingle : mark ∉ [c] := by
    rw [List.mem_singleton]
    exact Ne.symm hc
  exact exists_pieces_append hsingle rest

/-- Only the empty text has no more than one empty piece. -/
theorem not_pieces_prefix_nil (c : Char) (front : List Char) :
    ¬pieces mark (c :: front) <+: [[]] := by
  by_cases hc : c = mark
  · rw [hc, pieces_cons_mark, List.cons_prefix_cons, List.prefix_nil]
    exact fun h => pieces_ne_nil mark front h.2
  · obtain ⟨first, others, -, hpieces⟩ := exists_pieces_cons hc front
    rw [hpieces, List.cons_prefix_cons]
    exact fun h => absurd h.1 (List.cons_ne_nil _ _)

/-- The pieces of one text are the first pieces of another exactly if the texts are the same or the
other goes on behind the one with a mark. -/
theorem pieces_prefix_iff (front text : List Char) :
    pieces mark front <+: pieces mark text ↔ front = text ∨ front ++ [mark] <+: text := by
  induction front generalizing text with
  | nil =>
      cases text with
      | nil => simp
      | cons c text =>
          by_cases hc : c = mark
          · rw [hc, pieces_cons_mark]
            simp [pieces]
          · obtain ⟨first, others, -, hpieces⟩ := exists_pieces_cons hc text
            rw [hpieces]
            simp [pieces, Ne.symm hc]
  | cons c front ih =>
      cases text with
      | nil =>
          have hlonger : ¬pieces mark (c :: front) <+: [[]] := not_pieces_prefix_nil c front
          simpa [pieces] using hlonger
      | cons d text =>
          rw [List.cons_append, List.cons_prefix_cons, List.cons.injEq, ← and_or_left, ← ih text]
          by_cases hc : c = mark
          · rw [hc, pieces_cons_mark]
            by_cases hd : d = mark
            · rw [hd, pieces_cons_mark, List.cons_prefix_cons]
              simp
            · obtain ⟨first, others, -, hpieces⟩ := exists_pieces_cons hd text
              rw [hpieces, List.cons_prefix_cons]
              simp [Ne.symm hd]
          · obtain ⟨first, others, hfront, hpieces⟩ := exists_pieces_cons hc front
            rw [hpieces]
            by_cases hd : d = mark
            · rw [hd, pieces_cons_mark, List.cons_prefix_cons]
              simp [hc]
            · obtain ⟨other, more, htext, hpieces'⟩ := exists_pieces_cons hd text
              rw [hpieces', hfront, htext, List.cons_prefix_cons, List.cons_prefix_cons,
                List.cons.injEq, and_assoc]

end Text

namespace SettingsChange

def segments (key : String) : List (List Char) :=
  Text.pieces '.' key.toList

/-- One of two keys is on the way to the other, or they are the same. -/
def Comparable (first second : String) : Prop :=
  segments first <+: segments second ∨ segments second <+: segments first

instance (first second : String) : Decidable (Comparable first second) :=
  inferInstanceAs (Decidable (_ ∨ _))

/-- A change names a key that is comparable with one whose change rebuilds the client. -/
def Concerns (change : SettingsChange) : Prop :=
  ∃ changed ∈ change.keys, ∃ name ∈ ["NPL.sources", "NPL.testSources", "NPL.contribLibraries"],
    Comparable changed name

/-- A key that is comparable with another is the same, or one of them is inside the other. -/
theorem comparable_iff (first second : String) : Comparable first second ↔
    first = second ∨ isInside second first = true ∨ isInside first second = true := by
  have hsame : first.toList = second.toList ↔ first = second := String.toList_inj
  rw [Comparable, segments, segments, Text.pieces_prefix_iff, Text.pieces_prefix_iff,
    eq_comm (a := second.toList), hsame, isInside, isInside, List.isPrefixOf_iff_prefix,
    List.isPrefixOf_iff_prefix]
  exact or_or_distrib_left.symm

variable (change : SettingsChange)

theorem affects_iff (key : SettingKey) : change.affects key = true ↔
    ∃ changed ∈ change.keys, Comparable changed key.qualified := by
  rw [affects, List.any_eq_true]
  apply exists_congr
  intro changed
  apply and_congr_right
  intro _
  rw [comparable_iff, Bool.or_eq_true, Bool.or_eq_true, beq_iff_eq, or_assoc]

example : Comparable "NPL" "NPL.sources" ∧ Comparable "NPL.sources..a" "NPL.sources" := by decide

example : ¬Comparable "" "NPL.sources" ∧ ¬Comparable "NPL." "NPL.sources" ∧
    ¬Comparable "NPL.sourcesExtra" "NPL.sources" := by
  decide

end SettingsChange

end NplLifecycle
