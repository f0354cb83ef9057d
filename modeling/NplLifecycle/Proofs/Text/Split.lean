import Mathlib.Data.String.Basic

/-!
# Texts without a separator

A text is split where a separator stands in it.  One that does not even have the separator's first
character is not split.
-/

namespace NplLifecycle.Text

open String (ofList utf8Len utf8Len_append splitOnAux atEnd_of_valid get_of_valid next_of_valid
  extract_of_valid)
open String.Pos (Raw)

theorem splitOnAux_of_not_mem {c : Char} (sep : List Char) {behind : List Char} (front : List Char)
    (h : c ∉ behind) :
    (ofList (front ++ behind)).splitOnAux (ofList (c :: sep)) 0 ⟨utf8Len front⟩ 0 [] =
      [ofList (front ++ behind)] := by
  induction behind generalizing front with
  | nil =>
      have hwhole := extract_of_valid [] front []
      rw [splitOnAux, if_pos ((atEnd_of_valid front []).mpr rfl)]
      simpa using! hwhole
  | cons head behind ih =>
      rw [List.mem_cons, not_or] at h
      have hend : ¬Raw.atEnd (ofList (front ++ head :: behind)) ⟨utf8Len front⟩ = true := by
        rw [atEnd_of_valid]
        exact List.cons_ne_nil _ _
      have hsep : Raw.get (ofList (c :: sep)) 0 = c := get_of_valid [] (c :: sep)
      have hget : ¬(Raw.get (ofList (front ++ head :: behind)) ⟨utf8Len front⟩ ==
          Raw.get (ofList (c :: sep)) 0) = true := by
        rw [get_of_valid, hsep, beq_iff_eq]
        exact Ne.symm h.1
      have hnext : Raw.next (ofList (front ++ head :: behind))
          (Raw.unoffsetBy ⟨utf8Len front⟩ 0) = ⟨utf8Len (front ++ [head])⟩ := by
        have hstep := next_of_valid front head behind
        rw [utf8Len_append]
        simpa using! hstep
      rw [splitOnAux, if_neg hend, if_neg hget, hnext, ← List.singleton_append,
        ← List.append_assoc]
      exact ih (front ++ [head]) h.2

/-- A text without the first character of a separator is not split. -/
theorem splitOn_of_not_mem {c : Char} (sep : List Char) {text : String} (h : c ∉ text.toList) :
    text.splitOn (ofList (c :: sep)) = [text] := by
  have hne : ¬(ofList (c :: sep) == "") = true := by simp [-String.ofList_cons]
  have haux := splitOnAux_of_not_mem sep [] h
  rw [List.nil_append, String.ofList_toList] at haux
  rw [String.splitOn, if_neg hne]
  exact haux

end NplLifecycle.Text
