import NplLifecycle.Json.Numeral
import NplLifecycle.Proofs.Number.Decimal
import Mathlib.Algebra.Group.Nat.Defs
import Mathlib.Data.List.Basic
import Mathlib.Data.List.TakeDrop
import Mathlib.Data.List.TakeWhile

/-!
# Numerals and their texts

A numeral is read from its text part by part: every part is a run of digits, and what parts them is
no digit.  The digits that fit are taken, and the number that they stand for is not above the whole
one.
-/

namespace NplLifecycle.Json

open Number (digits digits_ne_nil)

section Digits

variable {text rest : List Char} {n bound soFar : Nat}

theorem head?_digits_ne_zero (h : 0 < n) : (digits n).head? ≠ some '0' := by
  induction n using Nat.strongRecOn with
  | ind n ih =>
      by_cases hone : n < 10
      · have hdigit : ∀ d < 10, 0 < d → d.digitChar ≠ '0' := by decide
        rw [digits, Nat.toDigits_of_lt_base hone]
        exact fun heq => hdigit n hone h (Option.some.inj heq)
      · have htenth : 0 < n / 10 := by omega
        rw [digits, Nat.toDigits_of_base_le (by decide) (by omega),
          List.head?_append_of_ne_nil _ Nat.toDigits_ne_nil]
        exact ih (n / 10) (by omega) htenth

/-- No zero stands in front of other digits. -/
theorem not_leadingZero (n : Nat) :
    ¬((digits n).head? = some '0' ∧ 1 < (digits n).length) := by
  rintro ⟨hhead, hlength⟩
  cases Nat.eq_zero_or_pos n with
  | inl hzero =>
      rw [hzero] at hlength
      exact absurd hlength (by decide)
  | inr hpos => exact head?_digits_ne_zero hpos hhead

theorem isDigit_eq_range (c : Char) : ('0' ≤ c && c ≤ '9') = c.isDigit := by
  rw [Char.isDigit]
  rfl

/-- Digits are taken up to what is no digit. -/
theorem spanDigits_append (h : ∀ c ∈ text, c.isDigit)
    (hrest : ∀ c ∈ rest.head?, c.isDigit = false) :
    spanDigits (text ++ rest) = (text, rest) := by
  have hrange : ∀ c ∈ text, ('0' ≤ c && c ≤ '9') = true := by
    intro c hc
    rw [isDigit_eq_range]
    exact h c hc
  have hstop : rest.takeWhile (fun c => '0' ≤ c && c ≤ '9') = [] ∧
      rest.dropWhile (fun c => '0' ≤ c && c ≤ '9') = rest := by
    cases rest with
    | nil => exact ⟨rfl, rfl⟩
    | cons c rest =>
        have hc : ¬('0' ≤ c && c ≤ '9') = true := by
          rw [isDigit_eq_range, hrest c rfl]
          exact Bool.false_ne_true
        exact ⟨List.takeWhile_cons_of_neg hc, List.dropWhile_cons_of_neg hc⟩
  rw [spanDigits, List.span_eq_takeWhile_dropWhile, List.takeWhile_append_of_pos hrange,
    List.dropWhile_append_of_pos hrange, hstop.1, hstop.2, List.append_nil]

theorem spanDigits_of_isDigit (h : ∀ c ∈ text, c.isDigit) : spanDigits text = (text, []) := by
  have hspan : spanDigits (text ++ []) = (text, []) := spanDigits_append h (by simp)
  rwa [List.append_nil] at hspan

/-- Every digit behind a number multiplies it by ten at least. -/
theorem mul_pow_le_ofDigitChars : soFar * 10 ^ text.length ≤ Nat.ofDigitChars 10 text soFar := by
  induction text generalizing soFar with
  | nil => exact Nat.le_of_eq (Nat.mul_one soFar)
  | cons c text ih =>
      rw [Nat.ofDigitChars_cons, List.length_cons, Nat.pow_succ', ← Nat.mul_assoc,
        Nat.mul_comm soFar]
      exact Nat.le_trans (Nat.mul_le_mul_right _ (Nat.le_add_right _ _)) ih

theorem le_ofDigitChars : soFar ≤ Nat.ofDigitChars 10 text soFar :=
  Nat.le_trans (Nat.le_mul_of_pos_right soFar (Nat.pow_pos (by decide))) mul_pow_le_ofDigitChars

theorem ofDigitChars_lt (h : ∀ c ∈ text, c.isDigit) :
    Nat.ofDigitChars 10 text soFar < (soFar + 1) * 10 ^ text.length := by
  induction text generalizing soFar with
  | nil => exact Nat.lt_of_lt_of_eq (Nat.lt_succ_self soFar) (Nat.mul_one _).symm
  | cons c text ih =>
      obtain ⟨hc, htext⟩ := List.forall_mem_cons.mp h
      have hbounds := Number.bounds_of_isDigit hc
      have hzero : '0'.toNat = 48 := rfl
      rw [Nat.ofDigitChars_cons, List.length_cons, Nat.pow_succ', ← Nat.mul_assoc]
      exact Nat.lt_of_lt_of_le (ih htext) (Nat.mul_le_mul_right _ (by omega))

/-- The digits left over continue the number taken to the whole one. -/
theorem ofDigitChars_takeBelow (bound soFar : Nat) (h : ∀ c ∈ text, c.isDigit) :
    Nat.ofDigitChars 10 (takeBelow bound soFar text).2 (takeBelow bound soFar text).1 =
      Nat.ofDigitChars 10 text soFar := by
  induction text generalizing soFar with
  | nil => rfl
  | cons c text ih =>
      obtain ⟨hc, htext⟩ := List.forall_mem_cons.mp h
      rw [takeBelow, Number.digit?_of_isDigit hc, Option.getD_some]
      split
      · rw [ih _ htext, Nat.ofDigitChars_cons, Nat.mul_comm]
      · rfl

theorem length_takeBelow_le (bound soFar : Nat) (text : List Char) :
    (takeBelow bound soFar text).2.length ≤ text.length := by
  induction text generalizing soFar with
  | nil => exact Nat.le_refl 0
  | cons c text ih =>
      rw [takeBelow]
      split
      · exact Nat.le_succ_of_le (ih _)
      · exact Nat.le_refl _

/-- All digits are taken where their number stays below the bound. -/
theorem takeBelow_of_isDigit (h : ∀ c ∈ text, c.isDigit)
    (hbound : Nat.ofDigitChars 10 text soFar < bound) :
    takeBelow bound soFar text = (Nat.ofDigitChars 10 text soFar, []) := by
  induction text generalizing soFar with
  | nil => rfl
  | cons c text ih =>
      obtain ⟨hc, htext⟩ := List.forall_mem_cons.mp h
      rw [Nat.ofDigitChars_cons, Nat.mul_comm] at hbound
      have hnext : soFar * 10 + (c.toNat - '0'.toNat) < bound :=
        Nat.lt_of_le_of_lt le_ofDigitChars hbound
      rw [takeBelow, Number.digit?_of_isDigit hc, Option.getD_some, if_pos hnext,
        ih htext hbound, Nat.ofDigitChars_cons, Nat.mul_comm]

theorem takeBelow_digits (h : n < bound) : takeBelow bound 0 (digits n) = (n, []) := by
  have hvalue : Nat.ofDigitChars 10 (digits n) 0 = n := Nat.ofDigitChars_ten_toDigits
  rw [takeBelow_of_isDigit (fun _ => Number.isDigit_of_mem_digits) (hvalue.symm ▸ h), hvalue]

end Digits

/-- A run of digits, and of one at least. -/
def IsDigits (text : List Char) : Prop :=
  text ≠ [] ∧ ∀ c ∈ text, c.isDigit

theorem isDigits_zero : IsDigits ['0'] :=
  ⟨List.cons_ne_nil _ _, List.forall_mem_singleton.mpr rfl⟩

theorem isDigits_digits (n : Nat) : IsDigits (digits n) :=
  ⟨digits_ne_nil, fun _ => Number.isDigit_of_mem_digits⟩

namespace Numeral

def fractionChars : Option (List Char) → List Char
  | some fraction => '.' :: fraction
  | none => []

def exponentChars : Option (Bool × List Char) → List Char
  | some (negative, digits) => 'e' :: (if negative then '-' else '+') :: digits
  | none => []

def chars (numeral : Numeral) : List Char :=
  (if numeral.negative then ['-'] else []) ++
    (numeral.whole ++ (fractionChars numeral.fraction ++ exponentChars numeral.exponent))

/-- All parts of a numeral are runs of digits, and no zero stands in front of other digits. -/
structure WellFormed (numeral : Numeral) : Prop where
  whole : IsDigits numeral.whole
  leading : ¬(numeral.whole.head? = some '0' ∧ 1 < numeral.whole.length)
  fraction : ∀ fraction ∈ numeral.fraction, IsDigits fraction
  exponent : ∀ exponent ∈ numeral.exponent, IsDigits exponent.2

theorem exponentOf?_exponentChars {exponent : Option (Bool × List Char)}
    (h : ∀ part ∈ exponent, IsDigits part.2) :
    exponentOf? (exponentChars exponent) = some exponent := by
  match exponent with
  | none => rfl
  | some (negative, digits) =>
      obtain ⟨hne, hdigits⟩ := h _ rfl
      have hspan := spanDigits_of_isDigit hdigits
      have hsome : digits.isEmpty = false := by simpa using hne
      cases negative <;> simp [exponentChars, exponentOf?, hspan, hsome]

theorem isDigit_head?_exponentChars (exponent : Option (Bool × List Char)) :
    ∀ c ∈ (exponentChars exponent).head?, c.isDigit = false := by
  match exponent with
  | none => exact fun _ h => absurd h (by simp [exponentChars])
  | some (negative, digits) =>
      intro c hc
      rw [← Option.some.inj hc]
      decide

theorem isDigit_head?_fractionChars (fraction : Option (List Char))
    (exponent : Option (Bool × List Char)) :
    ∀ c ∈ (fractionChars fraction ++ exponentChars exponent).head?, c.isDigit = false := by
  match fraction with
  | none => exact isDigit_head?_exponentChars exponent
  | some fraction =>
      intro c hc
      rw [← Option.some.inj hc]
      decide

def behindSign? (negative : Bool) (text : List Char) : Option Numeral :=
  let (whole, rest) := spanDigits text
  if whole.isEmpty then none
  else if whole.head? = some '0' ∧ 1 < whole.length then none
  else
    match rest with
    | '.' :: rest =>
      let (fraction, rest) := spanDigits rest
      if fraction.isEmpty then none
      else (exponentOf? rest).map fun exponent => ⟨negative, whole, some fraction, exponent⟩
    | rest => (exponentOf? rest).map fun exponent => ⟨negative, whole, none, exponent⟩

theorem ofChars?_minus (text : List Char) : ofChars? ('-' :: text) = behindSign? true text := rfl

theorem ofChars?_of_ne {text : List Char} (h : ∀ rest, text ≠ '-' :: rest) :
    ofChars? text = behindSign? false text := by
  unfold ofChars?
  split
  rename_i negative other hsign
  split at hsign
  · exact absurd rfl (h _)
  · obtain ⟨rfl, rfl⟩ := Prod.mk.inj hsign
    rfl

theorem behindSign?_chars {negative : Bool} {whole : List Char} {fraction : Option (List Char)}
    {exponent : Option (Bool × List Char)}
    (h : (Numeral.mk negative whole fraction exponent).WellFormed) :
    behindSign? negative (whole ++ (fractionChars fraction ++ exponentChars exponent)) =
      some ⟨negative, whole, fraction, exponent⟩ := by
  obtain ⟨⟨hne, hwhole⟩, hleading, hfraction, hexponent⟩ := h
  dsimp only at hne hwhole hleading hfraction hexponent
  have hspan := spanDigits_append hwhole (isDigit_head?_fractionChars fraction exponent)
  have hread := exponentOf?_exponentChars hexponent
  unfold behindSign?
  rw [hspan]
  dsimp only
  rw [if_neg (by simpa using hne), if_neg hleading]
  match fraction with
  | some fraction =>
      obtain ⟨hsome, hdigits⟩ := hfraction fraction rfl
      have hbehind := spanDigits_append hdigits (isDigit_head?_exponentChars exponent)
      simp only [fractionChars, List.cons_append, hbehind, hread]
      rw [if_neg (by simpa using hsome), Option.map_some]
  | none =>
      rw [fractionChars, List.nil_append]
      match exponent with
      | none => rfl
      | some (sign, digits) =>
          change (exponentOf? (exponentChars (some (sign, digits)))).map _ = _
          rw [hread]
          rfl

/-- A numeral is read from its text. -/
theorem ofChars?_chars {numeral : Numeral} (h : numeral.WellFormed) :
    ofChars? numeral.chars = some numeral := by
  obtain ⟨negative, whole, fraction, exponent⟩ := numeral
  have hread := behindSign?_chars h
  cases negative with
  | true =>
      rw [chars, if_pos rfl, List.singleton_append, ofChars?_minus]
      exact hread
  | false =>
      rw [chars, if_neg Bool.false_ne_true, List.nil_append, ofChars?_of_ne]
      · exact hread
      · intro rest hminus
        obtain ⟨hne, hdigits⟩ := h.whole
        obtain ⟨first, more, hwhole⟩ := List.exists_cons_of_ne_nil hne
        dsimp only at hwhole hdigits hminus
        rw [hwhole, List.cons_append] at hminus
        have hdigit := hdigits first (by rw [hwhole]; exact List.mem_cons_self)
        rw [(List.cons.inj hminus).1] at hdigit
        exact absurd hdigit (by decide)

end Numeral

end NplLifecycle.Json
