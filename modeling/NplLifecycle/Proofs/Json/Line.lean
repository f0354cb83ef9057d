import NplLifecycle.Json.Printer
import NplLifecycle.Json.Token
import NplLifecycle.Proofs.Number.Decimal
import NplLifecycle.Proofs.Text.Line

/-!
# Lines of JSON texts

A JSON text can be broken into lines between its tokens only, so each of its lines begins with a
mark, a quote, a numeral or one of three words: never with most letters.  A text that is written
compactly is one line and begins at once.
-/

namespace NplLifecycle.Json

/-- What is left of a text when some characters of its first line are taken off. -/
def SameLine (text after : List Char) : Prop :=
  ∃ read, text = read ++ after ∧ '\n' ∉ read

section Strings

variable {text after rest : List Char} {c : Char}

theorem SameLine.refl (text : List Char) : SameLine text text :=
  ⟨[], rfl, List.not_mem_nil⟩

theorem SameLine.cons (h : SameLine text after) (hc : c ≠ '\n') : SameLine (c :: text) after := by
  obtain ⟨read, rfl, hread⟩ := h
  refine ⟨c :: read, rfl, ?_⟩
  rw [List.mem_cons, not_or]
  exact ⟨hc.symm, hread⟩

theorem SameLine.escape (h : SameLine text after) (hc : c ≠ '\n') :
    SameLine ('\\' :: c :: text) after :=
  (h.cons hc).cons (by decide)

/-- The digits of an escape are no line feeds. -/
theorem ne_lineFeed_of_hex4? {a b c d : Char} {unit : Nat} (h : hex4? a b c d = some unit) :
    a ≠ '\n' ∧ b ≠ '\n' ∧ c ≠ '\n' ∧ d ≠ '\n' := by
  have hfeed : Number.hexDigit? '\n' = none := by decide
  refine ⟨?_, ?_, ?_, ?_⟩
  all_goals
    rintro rfl
    simp [hex4?, Number.readHex?, Number.readInBase?, hfeed] at h

theorem SameLine.unicode {a b c d : Char} {unit : Nat} (h : SameLine text after)
    (hunit : hex4? a b c d = some unit) :
    SameLine ('\\' :: 'u' :: a :: b :: c :: d :: text) after := by
  obtain ⟨ha, hb, hc, hd⟩ := ne_lineFeed_of_hex4? hunit
  exact ((((h.cons hd).cons hc).cons hb).cons ha).escape (by decide)

theorem exists_of_map_scanText {chars : Option (List Char)}
    {change : Option (List Char) × List Char → Option (List Char) × List Char}
    (h : (scanText text).map change = some (chars, after))
    (hchange : ∀ read, (change read).2 = read.2) :
    ∃ inner, scanText text = some (inner, after) := by
  obtain ⟨⟨inner, rest⟩, hscan, heq⟩ := Option.map_eq_some_iff.mp h
  have hrest := hchange (inner, rest)
  rw [heq] at hrest
  exact ⟨inner, hscan.trans (congrArg (fun rest => some (inner, rest)) hrest.symm)⟩

/-- A string stands on one line. -/
theorem sameLine_of_scanText {chars : Option (List Char)}
    (h : scanText text = some (chars, after)) : SameLine text after := by
  fun_induction scanText text generalizing chars after with
  | case1 => exact absurd h (by simp)
  | case2 rest =>
      rw [← (Prod.mk.inj (Option.some.inj h)).2]
      exact (SameLine.refl rest).cons (by decide)
  | case3 => exact absurd h (by simp)
  | case4 => exact absurd h (by simp)
  | case5 a b c d high hhigh hrange e f g i behind low hlow hpair ih =>
      obtain ⟨inner, hscan⟩ := exists_of_map_scanText h fun _ => rfl
      exact ((ih hscan).unicode hlow).unicode hhigh
  | case6 a b c d high hhigh hrange e f g i behind low hlow hpair ih =>
      obtain ⟨inner, hscan⟩ := exists_of_map_scanText h fun _ => rfl
      exact (ih hscan).unicode hhigh
  | case7 a b c d high hhigh hrange rest hend ih =>
      obtain ⟨inner, hscan⟩ := exists_of_map_scanText h fun _ => rfl
      exact (ih hscan).unicode hhigh
  | case8 a b c d rest unit hunit hhigh hlow ih =>
      obtain ⟨inner, hscan⟩ := exists_of_map_scanText h fun _ => rfl
      exact (ih hscan).unicode hunit
  | case9 a b c d rest unit hunit hhigh hlow ih =>
      obtain ⟨inner, hscan⟩ := exists_of_map_scanText h fun _ => rfl
      exact (ih hscan).unicode hunit
  | case10 c rest hother ih =>
      obtain ⟨meant, hmeant, hread⟩ := Option.bind_eq_some_iff.mp h
      obtain ⟨inner, hscan⟩ := exists_of_map_scanText hread fun _ => rfl
      refine (ih hscan).escape ?_
      rintro rfl
      exact absurd hmeant (by simp [escape?])
  | case11 => exact absurd h (by simp)
  | case12 c rest hquote hunicode hescape hplain ih =>
      obtain ⟨inner, hscan⟩ := exists_of_map_scanText h fun _ => rfl
      refine (ih hscan).cons ?_
      rintro rfl
      exact hplain (by decide)

end Strings

section Tokens

variable {text rest : List Char} {c : Char}

/-- A character of a numeral ends no line, and a line that begins with it does not begin with the
first letter of the field that gives the length. -/
theorem of_isNumeralChar (rest : List Char) (h : isNumeralChar c) :
    c ≠ '\n' ∧ ∃ first, Text.initial? (c :: rest) = some first ∧ first ≠ 'c' := by
  simp only [isNumeralChar, Bool.or_eq_true, Bool.and_eq_true, decide_eq_true_eq,
    beq_iff_eq] at h
  obtain ((((hdigit | rfl) | rfl) | rfl) | rfl) | rfl := h
  · have hdigit : c.isDigit := by
      rw [Char.isDigit, Bool.and_eq_true, decide_eq_true_eq, decide_eq_true_eq]
      exact hdigit
    have hbounds := Number.bounds_of_isDigit hdigit
    have hlower : Text.lowerAscii c = c := by
      apply if_neg
      intro hletter
      have hle : 65 ≤ c.toNat := hletter.1
      omega
    refine ⟨?_, c, ?_, ?_⟩
    · rintro rfl
      exact absurd hbounds.1 (by decide)
    · rw [Text.initial?_cons, Number.isBlank_of_isDigit hdigit, hlower]
      rfl
    · rintro rfl
      exact absurd hbounds.2 (by decide)
  all_goals exact ⟨by decide, _, rfl, by decide⟩

/-- No line of a JSON text begins with the first letter of the field that gives the length. -/
theorem avoids_of_tokens? {tokens : List Token} (h : tokens? text = some tokens) :
    Text.Avoids 'c' text := by
  fun_induction tokens? text generalizing tokens with
  | case1 => exact Text.avoids_nil 'c'
  | case2 rest ih | case3 rest ih | case4 rest ih | case5 rest ih | case6 rest ih
  | case7 rest ih =>
      obtain ⟨inner, hinner, _⟩ := Option.map_eq_some_iff.mp h
      exact (ih hinner).append [_] (by decide) (by decide)
  | case8 rest ih =>
      obtain ⟨inner, hinner, _⟩ := Option.map_eq_some_iff.mp h
      exact (ih hinner).append ['n', 'u', 'l', 'l'] (by decide) (by decide)
  | case9 rest ih =>
      obtain ⟨inner, hinner, _⟩ := Option.map_eq_some_iff.mp h
      exact (ih hinner).append ['t', 'r', 'u', 'e'] (by decide) (by decide)
  | case10 rest ih =>
      obtain ⟨inner, hinner, _⟩ := Option.map_eq_some_iff.mp h
      exact (ih hinner).append ['f', 'a', 'l', 's', 'e'] (by decide) (by decide)
  | case11 rest hscan => exact absurd h (by simp)
  | case12 rest chars after hscan ih =>
      obtain ⟨inner, hinner, _⟩ := Option.map_eq_some_iff.mp h
      obtain ⟨read, rfl, hread⟩ := sameLine_of_scanText hscan
      have hfirst : Text.initial? ('"' :: read) = some '"' := rfl
      refine (ih hinner).append ('"' :: read) ?_ ?_
      · rw [List.mem_cons, not_or]
        exact ⟨by decide, hread⟩
      · rw [hfirst]
        decide
  | case13 c rest _ _ _ _ _ _ _ _ _ _ hgap ih =>
      simp only [isGap, Bool.or_eq_true, beq_iff_eq] at hgap
      obtain ((rfl | rfl) | rfl) | rfl := hgap
      · exact (ih h).append [' '] (by decide) (by decide)
      · exact (ih h).lineFeed
      · exact (ih h).append ['\r'] (by decide) (by decide)
      · exact (ih h).append ['\t'] (by decide) (by decide)
  | case14 c rest _ _ _ _ _ _ _ _ _ _ hgap hnumeral ih =>
      obtain ⟨inner, hinner, _⟩ := Option.map_eq_some_iff.mp h
      obtain ⟨hfeed, first, hfirst, hletter⟩ :=
        of_isNumeralChar (rest.takeWhile isNumeralChar) hnumeral
      have hline : '\n' ∉ c :: rest.takeWhile isNumeralChar := by
        rw [List.mem_cons, not_or]
        refine ⟨hfeed.symm, ?_⟩
        intro hmem
        exact absurd (List.mem_takeWhile_imp hmem) (by decide)
      have hrest : rest.takeWhile isNumeralChar ++ rest.dropWhile isNumeralChar = rest :=
        List.takeWhile_append_dropWhile
      rw [← hrest, ← List.cons_append]
      refine (ih hinner).append _ hline ?_
      rw [hfirst]
      exact fun heq => hletter (Option.some.inj heq)
  | case15 => exact absurd h (by simp)

end Tokens

section Numerals

open Number (digits digits_ne_nil)

variable {text whole : List Char}

/-- A text that consists of characters of numerals, and of one at least. -/
def Numeric (text : List Char) : Prop :=
  text ≠ [] ∧ ∀ c ∈ text, isNumeralChar c

theorem numeric_digits (n : Nat) : Numeric (digits n) := by
  refine ⟨digits_ne_nil, ?_⟩
  intro c hc
  have hdigit := Number.isDigit_of_mem_digits hc
  rw [Char.isDigit, Bool.and_eq_true, decide_eq_true_eq, decide_eq_true_eq] at hdigit
  have hrange : ('0' ≤ c && c ≤ '9') = true := by
    rw [Bool.and_eq_true, decide_eq_true_eq, decide_eq_true_eq]
    exact hdigit
  simp only [isNumeralChar, hrange, Bool.true_or]

theorem Numeric.append (htext : Numeric text) {more : List Char}
    (hmore : ∀ c ∈ more, isNumeralChar c) : Numeric (text ++ more) :=
  ⟨List.append_ne_nil_of_left_ne_nil htext.1 more, List.forall_mem_append.mpr ⟨htext.2, hmore⟩⟩

theorem numeric_cons {c : Char} (hc : isNumeralChar c) (htext : ∀ c ∈ text, isNumeralChar c) :
    Numeric (c :: text) :=
  ⟨List.cons_ne_nil c text, List.forall_mem_cons.mpr ⟨hc, htext⟩⟩

theorem numeric_integerText (n : Int) : Numeric (Number.integerText n).toList := by
  unfold Number.integerText
  split
  · rw [String.toList_append, String.toList_ofList, String.toList_ofList]
    exact numeric_cons (by decide) (numeric_digits _).2
  · rw [String.toList_ofList]
    exact numeric_digits _

theorem isNumeralChar_of_mem_zeros {n : Nat} {c : Char} (hc : c ∈ Number.Binary64.zeros n) :
    isNumeralChar c := by
  rw [List.eq_of_mem_replicate hc]
  decide

theorem numeric_positional (n : Nat) (e : Int) (hwhole : ∀ c ∈ whole, isNumeralChar c) :
    Numeric (Number.Binary64.positional n e whole) := by
  unfold Number.Binary64.positional
  dsimp only
  split
  · exact ((numeric_digits n).append fun _ => isNumeralChar_of_mem_zeros).append hwhole
  · have hdigits := (numeric_digits n).2
    split
    · rename_i hplaces
      have hfront : (digits n).take ((digits n).length - (-e).toNat) ≠ [] := by
        rw [← List.length_pos_iff, List.length_take]
        omega
      refine Numeric.append ⟨hfront, ?_⟩ (List.forall_mem_cons.mpr ⟨by decide, ?_⟩)
      · exact fun c hc => hdigits c (List.mem_of_mem_take hc)
      · exact fun c hc => hdigits c (List.mem_of_mem_drop hc)
    · exact numeric_cons (by decide) (List.forall_mem_cons.mpr ⟨by decide,
        List.forall_mem_append.mpr ⟨fun _ => isNumeralChar_of_mem_zeros, hdigits⟩⟩)

theorem numeric_jsonText (x : Number.Binary64) : Numeric x.jsonText.toList := by
  have hzero : ∀ c ∈ ['.', '0'], isNumeralChar c := List.all_eq_true.mp (by decide)
  unfold Number.Binary64.jsonText
  dsimp only
  rw [String.toList_ofList]
  generalize hmagnitude : (if x.shortest.1 = 0 then ['0', '.', '0'] else _) = magnitude
  have hnumeric : Numeric magnitude := by
    rw [← hmagnitude]
    split
    · exact numeric_cons (by decide) hzero
    · split
      · exact numeric_positional _ _ hzero
      · refine Numeric.append ?_ (List.forall_mem_cons.mpr ⟨by decide,
          List.forall_mem_cons.mpr ⟨?_, (numeric_digits _).2⟩⟩)
        · have hdigits := numeric_digits x.shortest.1
          split
          · rename_i lead hlead
            rw [hlead] at hdigits
            exact hdigits
          · rename_i lead more hmore hlead
            rw [hlead] at hdigits
            have hchars := List.forall_mem_cons.mp hdigits.2
            exact numeric_cons hchars.1 (List.forall_mem_cons.mpr ⟨by decide, hchars.2⟩)
          · rename_i hnil
            exact absurd hnil hdigits.1
        · split
          · decide
          · decide
  split
  · exact numeric_cons (by decide) hnumeric.2
  · exact hnumeric

end Numerals

section Printing

variable {value : Json}

/-- A character of a string is written on one line. -/
theorem lineFeed_not_mem_escape (c : Char) : '\n' ∉ escape c := by
  have hhex : ∀ n < 16, Number.lowerHexDigit n ≠ '\n' := by decide
  unfold escape
  split_ifs with hquote hslash hback hform hfeed hreturn htab hcontrol
  iterate 7 case pos => decide
  case pos =>
    have hhigh := hhex (c.toNat / 16) (by omega)
    have hlow := hhex (c.toNat % 16) (by omega)
    simp only [List.mem_cons, List.not_mem_nil, or_false, not_or]
    exact ⟨by decide, by decide, by decide, by decide, hhigh.symm, hlow.symm⟩
  case neg =>
    rw [List.mem_singleton]
    exact fun heq => hfeed heq.symm

theorem lineFeed_not_mem_quoted (s : String) : '\n' ∉ quoted s := by
  rw [quoted, List.mem_cons, List.mem_append, List.mem_flatMap, not_or, not_or]
  refine ⟨by decide, ?_, by decide⟩
  rintro ⟨c, _, hc⟩
  exact lineFeed_not_mem_escape c hc

theorem Numeric.lineFeed_not_mem {text : List Char} (h : Numeric text) : '\n' ∉ text := by
  intro hmem
  exact absurd (h.2 '\n' hmem) (by decide)

theorem lineFeed_not_mem_scalar (value : Json) : '\n' ∉ scalar value := by
  cases value with
  | null => decide
  | bool b => cases b <;> decide
  | int n => exact (numeric_integerText n).lineFeed_not_mem
  | float x => exact (numeric_jsonText x).lineFeed_not_mem
  | str s => exact lineFeed_not_mem_quoted s
  | arr items => exact List.not_mem_nil
  | obj members => exact List.not_mem_nil

mutual

/-- A value that is written compactly is one line. -/
theorem lineFeed_not_mem_chars (value : Json) : '\n' ∉ chars value := by
  cases value with
  | null => exact lineFeed_not_mem_scalar .null
  | bool b => exact lineFeed_not_mem_scalar (.bool b)
  | int n => exact lineFeed_not_mem_scalar (.int n)
  | float x => exact lineFeed_not_mem_scalar (.float x)
  | str s => exact lineFeed_not_mem_scalar (.str s)
  | arr items =>
      have hitems := lineFeed_not_mem_itemChars items
      simp [chars, hitems]
  | obj members =>
      have hmembers := lineFeed_not_mem_memberChars members
      simp [chars, hmembers]

theorem lineFeed_not_mem_itemChars (items : List Json) : '\n' ∉ itemChars items := by
  match items with
  | [] => simp [itemChars]
  | [item] =>
      have hitem := lineFeed_not_mem_chars item
      simp [itemChars, hitem]
  | item :: next :: rest =>
      have hitem := lineFeed_not_mem_chars item
      have hrest := lineFeed_not_mem_itemChars (next :: rest)
      simp [itemChars, hitem, hrest]

theorem lineFeed_not_mem_memberChars (members : List (String × Json)) :
    '\n' ∉ memberChars members := by
  match members with
  | [] => simp [memberChars]
  | [(name, value)] =>
      have hname := lineFeed_not_mem_quoted name
      have hvalue := lineFeed_not_mem_chars value
      simp [memberChars, hname, hvalue]
  | (name, value) :: next :: rest =>
      have hname := lineFeed_not_mem_quoted name
      have hvalue := lineFeed_not_mem_chars value
      have hrest := lineFeed_not_mem_memberChars (next :: rest)
      simp [memberChars, hname, hvalue, hrest]

end

theorem Numeric.initial? {text : List Char} (h : Numeric text) :
    ∃ first, Text.initial? text = some first ∧ first ≠ 'c' := by
  cases text with
  | nil => exact absurd rfl h.1
  | cons c rest => exact (of_isNumeralChar rest (h.2 c List.mem_cons_self)).2

/-- A value that is written compactly begins at once, and not with the first letter of the field
that gives the length. -/
theorem initial?_chars (value : Json) :
    ∃ first, Text.initial? (chars value) = some first ∧ first ≠ 'c' := by
  cases value with
  | null => exact ⟨_, rfl, by decide⟩
  | bool b =>
      cases b with
      | false => exact ⟨_, rfl, by decide⟩
      | true => exact ⟨_, rfl, by decide⟩
  | int n => exact (numeric_integerText n).initial?
  | float x => exact (numeric_jsonText x).initial?
  | str s => exact ⟨_, rfl, by decide⟩
  | arr items => exact ⟨_, rfl, by decide⟩
  | obj members => exact ⟨_, rfl, by decide⟩

end Printing

end NplLifecycle.Json
