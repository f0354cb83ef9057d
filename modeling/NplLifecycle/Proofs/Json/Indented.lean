import NplLifecycle.Proofs.Json.Parsed

/-!
# Reading an indented value back

The indented text of a value differs from its compact text by line breaks and blanks between the
tokens only, so it falls into the same tokens.
-/

namespace NplLifecycle.Json

section Gaps

variable {text : List Char} {tokens : List Token} {level : Nat}

theorem tokens?_blank (rest : List Char) : tokens? (' ' :: rest) = tokens? rest := by
  rw [tokens?]
  all_goals simp [isGap]

theorem tokens?_replicate_blank (count : Nat) (rest : List Char) :
    tokens? (List.replicate count ' ' ++ rest) = tokens? rest := by
  induction count with
  | zero => rfl
  | succ count ih => rw [List.replicate_succ, List.cons_append, tokens?_blank, ih]

theorem tokens?_newLine (level : Nat) (rest : List Char) :
    tokens? (newLine level ++ rest) = tokens? rest := by
  rw [newLine, List.cons_append, tokens?]
  · simp [isGap, tokens?_replicate_blank]
  all_goals simp

theorem parted_newLine (level : Nat) (rest : List Char) : Parted (newLine level ++ rest) := by
  intro c hc
  rw [← Option.some.inj hc]
  decide

theorem Reads.behind_newLine (h : Reads text tokens) : Reads (newLine level ++ text) tokens := by
  intro rest hrest
  rw [List.append_assoc, tokens?_newLine, h rest hrest]

theorem Reads.before_newLine (h : Reads text tokens) : Reads (text ++ newLine level) tokens := by
  intro rest _
  rw [List.append_assoc, h _ (parted_newLine level rest), tokens?_newLine]

theorem Reads.behind_blank (h : Reads text tokens) : Reads (' ' :: text) tokens := by
  intro rest hrest
  rw [List.cons_append, tokens?_blank, h rest hrest]

end Gaps

mutual

/-- An indented value falls into the tokens that it is written with. -/
theorem reads_prettyChars (level : Nat) (value : Json) :
    Reads (prettyChars level value) (tokensOf value) := by
  match value with
  | .null => exact reads_null
  | .bool true => exact reads_true
  | .bool false => exact reads_false
  | .int n => exact reads_numeral (numeric_integerText n)
  | .float x => exact reads_numeral (numeric_jsonText x)
  | .str s => exact reads_quoted s
  | .arr [] => exact Reads.cons mark_openList (reads_nil.join mark_closeList reads_nil)
  | .obj [] => exact Reads.cons mark_openRecord (reads_nil.join mark_closeRecord reads_nil)
  | .arr (item :: rest) =>
      rw [prettyChars, tokensOf]
      · exact Reads.cons mark_openList
          ((reads_prettyItems (level + 1) (item :: rest)).before_newLine.join mark_closeList
            reads_nil)
      · simp
  | .obj (member :: rest) =>
      rw [prettyChars, tokensOf]
      · exact Reads.cons mark_openRecord
          ((reads_prettyMembers (level + 1) (member :: rest)).before_newLine.join mark_closeRecord
            reads_nil)
      · simp

theorem reads_prettyItems (level : Nat) (items : List Json) :
    Reads (prettyItems level items) (itemTokens items) := by
  match items with
  | [] => exact reads_nil
  | [item] =>
      rw [prettyItems, itemTokens]
      exact (reads_prettyChars level item).behind_newLine
  | item :: next :: rest =>
      rw [prettyItems, itemTokens]
      · exact (reads_prettyChars level item).behind_newLine.join mark_comma
          (reads_prettyItems level (next :: rest))
      · simp
      · simp

theorem reads_prettyMembers (level : Nat) (members : List (String × Json)) :
    Reads (prettyMembers level members) (memberTokens members) := by
  match members with
  | [] => exact reads_nil
  | [(name, value)] =>
      rw [prettyMembers, memberTokens]
      exact (reads_quoted name).behind_newLine.join mark_colon
        (reads_prettyChars level value).behind_blank
  | (name, value) :: next :: rest =>
      rw [prettyMembers, memberTokens]
      · exact (reads_quoted name).behind_newLine.join mark_colon
          (((reads_prettyChars level value).join mark_comma
            (reads_prettyMembers level (next :: rest))).behind_blank)
      · simp
      · simp

end

theorem tokens?_prettyChars (level : Nat) (value : Json) :
    tokens? (prettyChars level value) = some (tokensOf value) := by
  have hread := reads_prettyChars level value [] (by simp [Parted])
  rw [List.append_nil, tokens?, Option.map_some, List.append_nil] at hread
  exact hread

/-- An ordered value is read back from its indented text as it is. -/
theorem parse?_pretty {value : Json} (hlegible : value.Every Legible) (hordered : value.Ordered)
    (hdepth : value.depth ≤ nestingLimit) : parse? value.pretty = some value := by
  have htokens : tokens? value.pretty.toList = some (tokensOf value) := by
    rw [pretty, String.toList_ofList, tokens?_prettyChars]
  rw [parse?_of_tokens htokens hlegible hdepth, arrange_of_ordered value hordered]

end NplLifecycle.Json
