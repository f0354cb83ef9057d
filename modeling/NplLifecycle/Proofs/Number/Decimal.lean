import NplLifecycle.Number.Decimal
import NplLifecycle.Text.Blank

/-!
# Decimal round trip

A number that is written in decimal is read back as it was, by every reader whose bound is above
it.
-/

namespace NplLifecycle.Number

variable {text : List Char} {c : Char} {n bound : Nat}

theorem isDigit_of_mem_digits (h : c ∈ digits n) : c.isDigit :=
  Nat.isDigit_of_mem_toDigits (by decide) (by decide) h

theorem digits_ne_nil : digits n ≠ [] :=
  Nat.toDigits_ne_nil

theorem toList_toString (n : Nat) : (toString n).toList = digits n :=
  Nat.toList_repr

theorem bounds_of_isDigit (h : c.isDigit) : 48 ≤ c.toNat ∧ c.toNat ≤ 57 := by
  rw [Char.isDigit, Bool.and_eq_true, decide_eq_true_eq, decide_eq_true_eq] at h
  exact h

theorem isBlank_of_isDigit (h : c.isDigit) : Text.isBlank c = false := by
  have hbounds := bounds_of_isDigit h
  simp only [Text.isBlank, Bool.or_eq_false_iff, Bool.and_eq_false_iff, decide_eq_false_iff_not,
    beq_eq_false_iff_ne]
  omega

theorem digit?_of_isDigit (h : c.isDigit) : digit? c = some (c.toNat - '0'.toNat) :=
  if_pos (bounds_of_isDigit h)

/-- Reading digits is positional. -/
theorem readDigits_eq (h : ∀ c ∈ text, c.isDigit) (soFar : Nat) :
    readDigits soFar text = some (Nat.ofDigitChars 10 text soFar) := by
  induction text generalizing soFar with
  | nil => rfl
  | cons c text ih =>
      rw [List.forall_mem_cons] at h
      rw [readDigits, digit?_of_isDigit h.1, Option.bind_some, ih h.2, Nat.ofDigitChars,
        Nat.ofDigitChars, List.foldl_cons, Nat.mul_comm]

theorem readUnsigned?_digits (h : n < bound) : readUnsigned? bound (digits n) = some n := by
  have hplus : ∀ rest, digits n ≠ '+' :: rest := by
    intro rest hrest
    have hdigit := isDigit_of_mem_digits (c := '+') (n := n) (by rw [hrest]; simp)
    exact absurd hdigit (by decide)
  have hdigits : ∀ c ∈ digits n, c.isDigit := fun _ => isDigit_of_mem_digits
  have hread := readDigits_eq hdigits 0
  rw [digits, Nat.ofDigitChars_ten_toDigits] at hread
  unfold readUnsigned?
  split
  · rename_i rest hrest
    exact absurd hrest (hplus rest)
  · rw [if_neg (by simp [digits_ne_nil]), digits, hread]
    simp [h]

/-- The number that a text writes, however great it is. -/
def number? (text : List Char) : Option Nat :=
  let digits := match text with
    | '+' :: rest => rest
    | other => other
  if digits.isEmpty then none else readDigits 0 digits

/-- A reader takes the number that a text writes if it is below the bound. -/
theorem readUnsigned?_eq_filter (bound : Nat) (text : List Char) :
    readUnsigned? bound text = (number? text).filter (· < bound) :=
  (apply_ite (Option.filter (· < bound)) _ none _).symm

end NplLifecycle.Number
