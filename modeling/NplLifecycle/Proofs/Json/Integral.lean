import NplLifecycle.Json.Document
import NplLifecycle.Json.Printer
import NplLifecycle.Proofs.Json.Numeral

/-!
# Integers in JSON

An integer of 64 bits, signed or unsigned, is read back from its decimal text.  It is written
without leading zeros, so its text is a numeral, and all of its digits are counted, because the
number that they write stays below the bound.
-/

namespace NplLifecycle.Json

open Number (Binary64 digits digits_ne_nil integerText)

/-- The double that the numeral `-0` stands for. -/
def minusZero : Binary64 :=
  Binary64.negate ⟨0⟩

mutual

/-- Every number in the value is an integer of 64 bits, signed or unsigned.  The integer `-0` is
kept as a double, so that one counts too. -/
def Integral : Json → Prop
  | .int n => -Int.pow 2 63 ≤ n ∧ n < Int.pow 2 64
  | .float x => x = minusZero
  | .arr items => ItemsIntegral items
  | .obj members => MembersIntegral members
  | _ => True

def ItemsIntegral : List Json → Prop
  | [] => True
  | item :: rest => Integral item ∧ ItemsIntegral rest

def MembersIntegral : List (String × Json) → Prop
  | [] => True
  | (_, value) :: rest => Integral value ∧ MembersIntegral rest

end

section Numerals

variable {n : Int}

def Numeral.ofInt (n : Int) : Numeral :=
  ⟨n < 0, digits n.natAbs, none, none⟩

theorem wellFormed_ofInt (n : Int) : (Numeral.ofInt n).WellFormed where
  whole := isDigits_digits n.natAbs
  leading := not_leadingZero n.natAbs
  fraction _ h := absurd h (by simp [Numeral.ofInt])
  exponent _ h := absurd h (by simp [Numeral.ofInt])

theorem chars_ofInt (n : Int) : (Numeral.ofInt n).chars = (integerText n).toList := by
  have hparts : (Numeral.ofInt n).chars =
      (if decide (n < 0) = true then ['-'] else []) ++ digits n.natAbs := by
    simp [Numeral.ofInt, Numeral.chars, Numeral.fractionChars, Numeral.exponentChars]
  rw [hparts, integerText]
  by_cases hnegative : n < 0
  · have hminus : "-".toList = ['-'] := rfl
    rw [decide_eq_true hnegative, if_pos rfl, if_pos hnegative, String.toList_append, hminus,
      String.toList_ofList]
  · rw [decide_eq_false hnegative, if_neg Bool.false_ne_true, if_neg hnegative,
      String.toList_ofList]
    rfl

theorem ofChars?_integerText (n : Int) :
    Numeral.ofChars? (integerText n).toList = some (.ofInt n) := by
  rw [← chars_ofInt]
  exact Numeral.ofChars?_chars (wellFormed_ofInt n)

/-- An integer of 64 bits is the number of its numeral. -/
theorem value?_ofInt (h : Integral (.int n)) : (Numeral.ofInt n).value? = some (.int n) := by
  obtain ⟨hlow, hhigh⟩ := h
  have hlow' : -(9223372036854775808 : Int) ≤ n := hlow
  have hhigh' : n < (18446744073709551616 : Int) := hhigh
  have htake : takeBelow (Nat.pow 2 64) 0 (digits n.natAbs) = (n.natAbs, []) := by
    apply takeBelow_digits
    change n.natAbs < 18446744073709551616
    omega
  simp only [Numeral.ofInt, Numeral.value?, htake]
  rw [if_neg (by simp)]
  by_cases hnegative : n < 0
  · have hrange : 0 < n.natAbs ∧ n.natAbs ≤ Nat.pow 2 63 := by
      change 0 < n.natAbs ∧ n.natAbs ≤ 9223372036854775808
      omega
    rw [decide_eq_true hnegative, if_neg (by simp), if_pos hrange]
    congr 2
    omega
  · rw [decide_eq_false hnegative, if_pos (by simp)]
    congr 2
    omega

theorem ofChars?_minusZero :
    Numeral.ofChars? minusZero.jsonText.toList = some ⟨true, ['0'], some ['0'], none⟩ := by
  decide

theorem value?_minusZero :
    (Numeral.mk true ['0'] (some ['0']) none).value? = some (.float minusZero) := by
  have hzero : divideByPower (Binary64.ofNat 0) 1 = ⟨0⟩ := by
    rw [divideByPower, if_pos (by decide)]
    rfl
  have hread : (Numeral.mk true ['0'] (some ['0']) none).value? =
      some (.float (divideByPower (Binary64.ofNat 0) 1).negate) := rfl
  rw [hread, hzero]
  rfl

end Numerals

end NplLifecycle.Json
