import NplLifecycle.Number.Shortest
import NplLifecycle.Proofs.Number.Rounding

/-!
# The decimal that a double is written with

The digits of a double stand for a number of its rounding interval, so they are at most half a unit
above it.
-/

namespace NplLifecycle.Number.Binary64

def decimal (digits : Nat) (e : Int) : ℚ :=
  digits * 10 ^ e

def upperEnd (x : Binary64) : ℚ :=
  (x.mantissa + 1 / 2) * 2 ^ x.exponent

section Interval

variable {x : Binary64} {digits found : Nat} {e : Int}

theorem interval_pos (x : Binary64) : 0 < x.interval.2.2.2 :=
  Nat.mul_pos (by decide) (scale_pos 1 Nat.one_pos x.exponent)

theorem interval_ratio (x : Binary64) :
    (x.interval.2.2.1 : ℚ) / x.interval.2.2.2 = x.upperEnd := by
  have hratio := scale_ratio 1 1 x.exponent
  have hhigh : x.interval.2.2.1 =
      4 * x.mantissa * (scale 1 1 x.exponent).1 + 2 * (scale 1 1 x.exponent).1 := rfl
  have hden : x.interval.2.2.2 = 4 * (scale 1 1 x.exponent).2 := rfl
  rw [Nat.cast_one, div_one, one_mul] at hratio
  rw [hhigh, hden, upperEnd, ← hratio]
  push_cast
  ring

def decimalFraction (digits : Nat) (e : Int) : Nat × Nat :=
  if 0 ≤ e then (digits * Nat.pow 10 e.toNat, 1) else (digits, Nat.pow 10 (-e).toNat)

theorem decimalFraction_pos (digits : Nat) (e : Int) : 0 < (decimalFraction digits e).2 := by
  unfold decimalFraction
  split
  · exact Nat.one_pos
  · exact Nat.pow_pos (by decide)

theorem decimalFraction_ratio (digits : Nat) (e : Int) :
    ((decimalFraction digits e).1 : ℚ) / (decimalFraction digits e).2 = decimal digits e := by
  unfold decimalFraction decimal
  split
  · rename_i he
    obtain ⟨n, rfl⟩ := Int.eq_ofNat_of_zero_le he
    simp only [Int.toNat_natCast, Nat.pow_eq, zpow_natCast]
    push_cast
    ring
  · rename_i he
    obtain ⟨n, hn⟩ := Int.eq_ofNat_of_zero_le (a := -e) (by omega)
    obtain rfl : e = -n := by omega
    simp only [neg_neg, Int.toNat_natCast, Nat.pow_eq, zpow_neg, zpow_natCast]
    push_cast
    exact div_eq_mul_inv _ _

theorem le_of_readsBack (h : x.readsBack digits e = true) :
    (decimalFraction digits e).1 * x.interval.2.2.2 ≤
      x.interval.2.2.1 * (decimalFraction digits e).2 := by
  change (if x.mantissa % 2 = 0 then
      decide (x.interval.1 * (decimalFraction digits e).2 ≤
        (decimalFraction digits e).1 * x.interval.2.2.2) &&
      decide ((decimalFraction digits e).1 * x.interval.2.2.2 ≤
        x.interval.2.2.1 * (decimalFraction digits e).2)
    else decide (x.interval.1 * (decimalFraction digits e).2 <
        (decimalFraction digits e).1 * x.interval.2.2.2) &&
      decide ((decimalFraction digits e).1 * x.interval.2.2.2 <
        x.interval.2.2.1 * (decimalFraction digits e).2)) = true at h
  split at h
  · exact of_decide_eq_true (Bool.and_eq_true_iff.mp h).2
  · exact Nat.le_of_lt (of_decide_eq_true (Bool.and_eq_true_iff.mp h).2)

/-- What reads back is not above the rounding interval. -/
theorem decimal_le_of_readsBack (h : x.readsBack digits e = true) :
    decimal digits e ≤ x.upperEnd := by
  have hden : (0 : ℚ) < x.interval.2.2.2 := Nat.cast_pos.mpr x.interval_pos
  have hpart : (0 : ℚ) < (decimalFraction digits e).2 :=
    Nat.cast_pos.mpr (decimalFraction_pos digits e)
  have hle : ((decimalFraction digits e).1 : ℚ) * x.interval.2.2.2 ≤
      x.interval.2.2.1 * (decimalFraction digits e).2 := by
    exact_mod_cast le_of_readsBack h
  rw [← interval_ratio, ← decimalFraction_ratio, div_le_div_iff₀ hpart hden]
  exact hle

theorem readsBack_of_gridPoint? (h : x.gridPoint? e = some found) :
    x.readsBack found e = true := by
  have htried : ∀ nearer other, (if x.readsBack nearer e then some nearer
      else if x.readsBack other e then some other else none) = some found →
      x.readsBack found e = true := by
    intro nearer other hfound
    split at hfound
    · rename_i hnearer
      rwa [← Option.some.inj hfound]
    · split at hfound
      · rename_i hother
        rwa [← Option.some.inj hfound]
      · exact absurd hfound (by simp)
  exact htried _ _ h

end Interval

/-- Dropping zeros leaves the number as it is. -/
theorem decimal_dropZeros (fuel digits : Nat) (e : Int) :
    decimal (dropZeros fuel digits e).1 (dropZeros fuel digits e).2 = decimal digits e := by
  induction fuel generalizing digits e with
  | zero => rfl
  | succ fuel ih =>
      unfold dropZeros
      split
      · rename_i hzero
        have hdigits : digits = digits / 10 * 10 := by omega
        rw [ih, decimal, decimal, zpow_add_one₀ (by norm_num)]
        conv_rhs => rw [hdigits]
        push_cast
        ring
      · rfl

/-- The digits of a double stand for a number that is not above its rounding interval, or for its
mantissa. -/
theorem decimal_shortest_le (x : Binary64) :
    decimal x.shortest.1 x.shortest.2 ≤ max x.upperEnd x.mantissa := by
  unfold shortest
  split
  · rw [decimal, Nat.cast_zero, zero_mul]
    exact le_max_of_le_right (Nat.cast_nonneg _)
  · dsimp only
    rw [decimal_dropZeros]
    cases hfound : (List.range 17).findSome? fun (n : Nat) =>
        (x.gridPoint? (x.leadingExponent - n)).map fun digits =>
          (digits, x.leadingExponent - (n : Int)) with
    | none =>
        rw [Option.getD_none, decimal, zpow_zero, mul_one]
        exact le_max_right _ _
    | some found =>
        obtain ⟨n, -, hpoint⟩ := List.exists_of_findSome?_eq_some hfound
        obtain ⟨digits, hgrid, rfl⟩ := Option.map_eq_some_iff.mp hpoint
        exact le_max_of_le_left (decimal_le_of_readsBack (readsBack_of_gridPoint? hgrid))

end NplLifecycle.Number.Binary64
