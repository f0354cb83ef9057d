import NplLifecycle.Proofs.Json.Line

/-!
# Tokens of a written value

A value that is written compactly falls into exactly the tokens that it was written with, whatever
mark follows it: strings come back with their characters, and numerals end where they should.
-/

namespace NplLifecycle.Json

section Strings

variable {c : Char} {chars rest : List Char}

theorem hex4?_of_control : ∀ n < 0x20,
    hex4? '0' '0' (Number.lowerHexDigit (n / 16)) (Number.lowerHexDigit (n % 16)) = some n := by
  decide

/-- A character is read back from the way it is written. -/
theorem scanText_escape : scanText (escape c ++ rest) = (scanText rest).map (putFront c) := by
  unfold escape
  split_ifs with hquote hslash hback hform hfeed hreturn htab hcontrol
  iterate 7 case pos =>
    subst c
    rw [List.cons_append, List.cons_append, List.nil_append, scanText]
    · rfl
    · intro _ _ _ _ _ hletter
      exact absurd hletter (by decide)
  case pos =>
    have hhex := hex4?_of_control c.toNat hcontrol
    have hhigh : ¬(0xD800 ≤ c.toNat ∧ c.toNat < 0xDC00) := by omega
    have hlow : ¬(0xDC00 ≤ c.toNat ∧ c.toNat < 0xE000) := by omega
    simp only [List.cons_append, List.nil_append]
    rw [scanText, hhex]
    dsimp only
    rw [if_neg hhigh, if_neg hlow, Char.ofNat_toNat]
  case neg =>
    rw [List.cons_append, List.nil_append, scanText, if_neg hcontrol]
    · exact hquote
    · exact fun _ _ _ _ _ heq => absurd heq hslash
    · exact fun _ _ heq => absurd heq hslash

/-- A string is read back up to its closing quote. -/
theorem scanText_flatMap_escape :
    scanText (chars.flatMap escape ++ '"' :: rest) = some (some chars, rest) := by
  induction chars with
  | nil => rfl
  | cons c chars ih =>
      rw [List.flatMap_cons, List.append_assoc, scanText_escape, ih]
      rfl

end Strings

/-- No numeral goes on with the text. -/
def Parted (text : List Char) : Prop :=
  ∀ c ∈ text.head?, isNumeralChar c = false

/-- A text falls into tokens whenever no numeral goes on behind it. -/
def Reads (text : List Char) (tokens : List Token) : Prop :=
  ∀ rest, Parted rest → tokens? (text ++ rest) = (tokens? rest).map (tokens ++ ·)

/-- A character is a token by itself. -/
structure Mark (c : Char) (token : Token) : Prop where
  parts : isNumeralChar c = false
  reads : ∀ rest, tokens? (c :: rest) = (tokens? rest).map (token :: ·)

def fixedTokens : List (List Char × Token) :=
  [(['['], .openList), ([']'], .closeList), (['\x7b'], .openRecord), (['\x7d'], .closeRecord),
    ([':'], .colon), ([','], .comma), (['n', 'u', 'l', 'l'], .null),
    (['t', 'r', 'u', 'e'], .bool true), (['f', 'a', 'l', 's', 'e'], .bool false)]

section Marks

variable {c : Char} {text : List Char} {token : Token}

theorem tokens?_fixed (hmem : (text, token) ∈ fixedTokens) (rest : List Char) :
    tokens? (text ++ rest) = (tokens? rest).map (token :: ·) := by
  simp only [fixedTokens, List.mem_cons, Prod.mk.injEq, List.not_mem_nil, or_false] at hmem
  rcases hmem with ⟨rfl, rfl⟩ | ⟨rfl, rfl⟩ | ⟨rfl, rfl⟩ | ⟨rfl, rfl⟩ | ⟨rfl, rfl⟩ | ⟨rfl, rfl⟩ |
    ⟨rfl, rfl⟩ | ⟨rfl, rfl⟩ | ⟨rfl, rfl⟩ <;>
  simp only [List.cons_append, List.nil_append, tokens?]

theorem mark_of_mem (hmem : ([c], token) ∈ fixedTokens) (hparts : isNumeralChar c = false) :
    Mark c token :=
  ⟨hparts, tokens?_fixed hmem⟩

theorem mark_openList : Mark '[' .openList :=
  mark_of_mem (by simp [fixedTokens]) (by decide)

theorem mark_closeList : Mark ']' .closeList :=
  mark_of_mem (by simp [fixedTokens]) (by decide)

theorem mark_openRecord : Mark '\x7b' .openRecord :=
  mark_of_mem (by simp [fixedTokens]) (by decide)

theorem mark_closeRecord : Mark '\x7d' .closeRecord :=
  mark_of_mem (by simp [fixedTokens]) (by decide)

theorem mark_colon : Mark ':' .colon :=
  mark_of_mem (by simp [fixedTokens]) (by decide)

theorem mark_comma : Mark ',' .comma :=
  mark_of_mem (by simp [fixedTokens]) (by decide)

end Marks

section Reading

variable {text before behind : List Char} {c : Char} {token : Token} {first second : List Token}

theorem reads_nil : Reads [] [] := by
  intro rest _
  rw [List.nil_append]
  exact Option.map_id'.symm

/-- Two texts with a mark between them. -/
theorem Reads.join (hbefore : Reads before first) (hmark : Mark c token)
    (hbehind : Reads behind second) : Reads (before ++ c :: behind) (first ++ token :: second) := by
  intro rest hrest
  have hparted : Parted (c :: (behind ++ rest)) := by
    intro head hhead
    rw [← Option.some.inj hhead]
    exact hmark.parts
  rw [List.append_assoc, List.cons_append, hbefore _ hparted, hmark.reads, hbehind rest hrest,
    Option.map_map, Option.map_map]
  congr 1
  funext tokens
  exact (List.append_assoc first (token :: second) tokens).symm

theorem Reads.cons (hmark : Mark c token) (hbehind : Reads behind second) :
    Reads (c :: behind) (token :: second) :=
  reads_nil.join hmark hbehind

theorem reads_fixed (hmem : (text, token) ∈ fixedTokens) : Reads text [token] :=
  fun rest _ => tokens?_fixed hmem rest

theorem reads_null : Reads ['n', 'u', 'l', 'l'] [.null] :=
  reads_fixed (by simp [fixedTokens])

theorem reads_true : Reads ['t', 'r', 'u', 'e'] [.bool true] :=
  reads_fixed (by simp [fixedTokens])

theorem reads_false : Reads ['f', 'a', 'l', 's', 'e'] [.bool false] :=
  reads_fixed (by simp [fixedTokens])

theorem reads_quoted (s : String) : Reads (quoted s) [.text (some s.toList)] := by
  intro rest _
  have hscan : scanText (s.toList.flatMap escape ++ '"' :: rest) = some (some s.toList, rest) :=
    scanText_flatMap_escape
  rw [quoted, List.cons_append, List.append_assoc, List.singleton_append, tokens?]
  split
  · rename_i hnone
    rw [hscan] at hnone
    exact absurd hnone (by simp)
  · rename_i chars after hsome
    rw [hscan, Option.some.injEq, Prod.mk.injEq] at hsome
    rw [← hsome.1, ← hsome.2]
    rfl

/-- A numeral ends where no numeral goes on. -/
theorem reads_numeral (h : Numeric text) : Reads text [.numeral text] := by
  intro rest hrest
  obtain ⟨hne, hchars⟩ := h
  cases text with
  | nil => exact absurd rfl hne
  | cons c text =>
      obtain ⟨hc, htext⟩ := List.forall_mem_cons.mp hchars
      have hnot : ∀ other, isNumeralChar other = false → c ≠ other := by
        rintro other hother rfl
        exact absurd hc (by simp [hother])
      have hgap : isGap c = false := by
        simp only [isGap, Bool.or_eq_false_iff, beq_eq_false_iff_ne]
        exact ⟨⟨⟨hnot _ (by decide), hnot _ (by decide)⟩, hnot _ (by decide)⟩,
          hnot _ (by decide)⟩
      have htake : rest.takeWhile isNumeralChar = [] := by
        cases rest with
        | nil => rfl
        | cons head rest => exact List.takeWhile_cons_of_neg (by simp [hrest head rfl])
      have hdrop : rest.dropWhile isNumeralChar = rest := by
        cases rest with
        | nil => rfl
        | cons head rest => exact List.dropWhile_cons_of_neg (by simp [hrest head rfl])
      rw [List.cons_append, tokens?, if_neg (by simp [hgap]), if_pos hc,
        List.takeWhile_append_of_pos htext, List.dropWhile_append_of_pos htext, htake, hdrop,
        List.append_nil]
      · rfl
      all_goals first
        | exact hnot _ (by decide)
        | exact fun _ heq => absurd heq (hnot _ (by decide))

end Reading

/-- No text begins with a character outside ASCII. -/
theorem tokens?_of_wide {c : Char} (rest : List Char) (h : 128 ≤ c.toNat) :
    tokens? (c :: rest) = none := by
  have hne : ∀ other : Char, other.toNat < 128 → c ≠ other := by
    rintro other hother rfl
    omega
  have hdigit : ¬c ≤ '9' := fun hle => absurd (Nat.le_trans h hle) (by decide)
  have hnumeral : isNumeralChar c = false := by
    simp only [isNumeralChar, decide_eq_false hdigit, Bool.and_false, Bool.false_or,
      Bool.or_eq_false_iff, beq_eq_false_iff_ne]
    exact ⟨⟨⟨⟨hne _ (by decide), hne _ (by decide)⟩, hne _ (by decide)⟩, hne _ (by decide)⟩,
      hne _ (by decide)⟩
  have hgap : isGap c = false := by
    simp only [isGap, Bool.or_eq_false_iff, beq_eq_false_iff_ne]
    exact ⟨⟨⟨hne _ (by decide), hne _ (by decide)⟩, hne _ (by decide)⟩, hne _ (by decide)⟩
  rw [tokens?, if_neg (by simp [hgap]), if_neg (by simp [hnumeral])]
  all_goals first
    | exact hne _ (by decide)
    | exact fun _ heq => absurd heq (hne _ (by decide))

mutual

def tokensOf : Json → List Token
  | .null => [.null]
  | .bool b => [.bool b]
  | .int n => [.numeral (Number.integerText n).toList]
  | .float x => [.numeral x.jsonText.toList]
  | .str s => [.text (some s.toList)]
  | .arr items => .openList :: (itemTokens items ++ [.closeList])
  | .obj members => .openRecord :: (memberTokens members ++ [.closeRecord])

def itemTokens : List Json → List Token
  | [] => []
  | [item] => tokensOf item
  | item :: rest => tokensOf item ++ .comma :: itemTokens rest

def memberTokens : List (String × Json) → List Token
  | [] => []
  | [(name, value)] => .text (some name.toList) :: .colon :: tokensOf value
  | (name, value) :: rest =>
    .text (some name.toList) :: .colon :: (tokensOf value ++ .comma :: memberTokens rest)

end

mutual

/-- A value falls into the tokens that it is written with. -/
theorem reads_chars (value : Json) : Reads (chars value) (tokensOf value) := by
  match value with
  | .null => exact reads_null
  | .bool true => exact reads_true
  | .bool false => exact reads_false
  | .int n => exact reads_numeral (numeric_integerText n)
  | .float x => exact reads_numeral (numeric_jsonText x)
  | .str s => exact reads_quoted s
  | .arr items =>
      rw [chars, tokensOf]
      exact Reads.cons mark_openList ((reads_itemChars items).join mark_closeList reads_nil)
  | .obj members =>
      rw [chars, tokensOf]
      exact Reads.cons mark_openRecord ((reads_memberChars members).join mark_closeRecord reads_nil)

theorem reads_itemChars (items : List Json) : Reads (itemChars items) (itemTokens items) := by
  match items with
  | [] => exact reads_nil
  | [item] =>
      rw [itemChars, itemTokens]
      exact reads_chars item
  | item :: next :: rest =>
      rw [itemChars, itemTokens]
      · exact (reads_chars item).join mark_comma (reads_itemChars (next :: rest))
      · simp
      · simp

theorem reads_memberChars (members : List (String × Json)) :
    Reads (memberChars members) (memberTokens members) := by
  match members with
  | [] => exact reads_nil
  | [(name, value)] =>
      rw [memberChars, memberTokens]
      exact (reads_quoted name).join mark_colon (reads_chars value)
  | (name, value) :: next :: rest =>
      rw [memberChars, memberTokens]
      · exact (reads_quoted name).join mark_colon
          ((reads_chars value).join mark_comma (reads_memberChars (next :: rest)))
      · simp
      · simp

end

theorem tokens?_chars (value : Json) : tokens? (chars value) = some (tokensOf value) := by
  have hread := reads_chars value [] (by simp [Parted])
  rw [List.append_nil, tokens?, Option.map_some, List.append_nil] at hread
  exact hread

end NplLifecycle.Json
