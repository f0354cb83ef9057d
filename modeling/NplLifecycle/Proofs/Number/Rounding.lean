import NplLifecycle.Number.Binary64
import Mathlib.Algebra.Order.Field.Power
import Mathlib.Algebra.Order.Field.Rat
import Mathlib.Data.Nat.Log
import Mathlib.Tactic.FieldSimp
import Mathlib.Tactic.GCongr
import Mathlib.Tactic.Linarith
import Mathlib.Tactic.NormNum
import Mathlib.Tactic.Positivity
import Mathlib.Tactic.Ring

/-!
# Rounding to a double

A fraction is rounded to a number of units, and the unit is a power of two for which that number
fits the mantissa.  Rounding adds half a unit at most, so a fraction well below the end of the range
is rounded to a finite double, and a double is hardly greater than the fraction that it came from.
-/

namespace NplLifecycle.Number.Binary64

def magnitude (x : Binary64) : ℚ :=
  x.mantissa * 2 ^ x.exponent

/-- The double of so many units, infinity above the greatest one. -/
def assemble (exp : Int) (count : Nat) : Binary64 :=
  let bits := if count < Nat.pow 2 52 then count else (exp + 1074).toNat * Nat.pow 2 52 + count
  if 2047 * Nat.pow 2 52 ≤ bits then ⟨0x7FF0000000000000⟩ else ⟨bits.toUInt64⟩

def wholeUnits (num den : Nat) (exp : Int) : Nat :=
  (scale num den (-exp)).1 / (scale num den (-exp)).2

def guess (num den : Nat) : Int :=
  (Nat.log2 num : Int) - Nat.log2 den - 53

/-- The unit of an exponent, which is not below the least one. -/
def unitOf (exp : Int) : Int :=
  max exp (-1074)

def unitFor (num den : Nat) : Int :=
  if wholeUnits num den (unitOf (guess num den)) < Nat.pow 2 53 then unitOf (guess num den)
  else if wholeUnits num den (unitOf (guess num den + 1)) < Nat.pow 2 53 then
    unitOf (guess num den + 1)
  else unitOf (guess num den + 2)

def roundedUnits (num den : Nat) (exp : Int) : Nat :=
  divRound (scale num den (-exp)).1 (scale num den (-exp)).2

section Units

variable {num den : Nat} {exp : Int}

theorem ofFraction_eq (hnum : num ≠ 0) : ofFraction num den =
    assemble (unitFor num den) (roundedUnits num den (unitFor num den)) := by
  rw [ofFraction, if_neg hnum]
  rfl

theorem scale_pos (num : Nat) (hden : 0 < den) (exp : Int) : 0 < (scale num den exp).2 := by
  unfold scale
  split
  · exact hden
  · exact Nat.mul_pos hden (Nat.pow_pos (by decide))

theorem scale_ratio (num den : Nat) (exp : Int) :
    ((scale num den exp).1 : ℚ) / (scale num den exp).2 = num / den * 2 ^ exp := by
  unfold scale
  split
  · rename_i hexp
    obtain ⟨n, rfl⟩ := Int.eq_ofNat_of_zero_le hexp
    simp only [Int.toNat_natCast, Nat.pow_eq, zpow_natCast]
    push_cast
    ring
  · rename_i hexp
    obtain ⟨n, hn⟩ := Int.eq_ofNat_of_zero_le (a := -exp) (by omega)
    obtain rfl : exp = -n := by omega
    simp only [neg_neg, Int.toNat_natCast, Nat.pow_eq, zpow_neg, zpow_natCast]
    push_cast
    rw [div_mul_eq_mul_div, div_mul_eq_div_div]
    field_simp

theorem wholeUnits_lt_iff (hden : 0 < den) (bound : Nat) :
    wholeUnits num den exp < bound ↔ (num / den : ℚ) < bound * 2 ^ exp := by
  have hpos := scale_pos num hden (-exp)
  have hratio := scale_ratio num den (-exp)
  have hscaled : (0 : ℚ) < (scale num den (-exp)).2 := by exact_mod_cast hpos
  have htwo : (0 : ℚ) < 2 ^ exp := by positivity
  rw [wholeUnits, Nat.div_lt_iff_lt_mul hpos, ← Nat.cast_lt (α := ℚ), Nat.cast_mul,
    ← div_lt_iff₀ hscaled, hratio, zpow_neg, ← div_eq_mul_inv, div_lt_iff₀ htwo]

theorem lt_two_zpow_log (hnum : 0 < num) (hden : 0 < den) :
    (num / den : ℚ) < 2 ^ ((Nat.log2 num : Int) - Nat.log2 den + 1) := by
  have hlog : num < 2 ^ (Nat.log2 num + 1) := Nat.lt_log2_self
  have hleast : 2 ^ Nat.log2 den ≤ den := Nat.log2_self_le (Nat.ne_of_gt hden)
  have hnumerator : (num : ℚ) < 2 ^ (Nat.log2 num + 1) := by exact_mod_cast hlog
  have hdenominator : (2 : ℚ) ^ Nat.log2 den ≤ den := by exact_mod_cast hleast
  calc (num / den : ℚ) ≤ num / 2 ^ Nat.log2 den := by gcongr
    _ < 2 ^ (Nat.log2 num + 1) / 2 ^ Nat.log2 den := by gcongr
    _ = 2 ^ ((Nat.log2 num : Int) - Nat.log2 den + 1) := by
      rw [sub_add_eq_add_sub, zpow_sub₀ (by norm_num), zpow_natCast]
      norm_cast

theorem two_zpow_log_le (hnum : 0 < num) (hden : 0 < den) :
    2 ^ ((Nat.log2 num : Int) - Nat.log2 den - 1) ≤ (num / den : ℚ) := by
  have hlog : den < 2 ^ (Nat.log2 den + 1) := Nat.lt_log2_self
  have hleast : 2 ^ Nat.log2 num ≤ num := Nat.log2_self_le (Nat.ne_of_gt hnum)
  have hnumerator : (2 : ℚ) ^ Nat.log2 num ≤ num := by exact_mod_cast hleast
  have hdenominator : (den : ℚ) ≤ 2 ^ (Nat.log2 den + 1) := by exact_mod_cast hlog.le
  have hpos : (0 : ℚ) < den := by exact_mod_cast hden
  calc (2 : ℚ) ^ ((Nat.log2 num : Int) - Nat.log2 den - 1)
      = 2 ^ Nat.log2 num / 2 ^ (Nat.log2 den + 1) := by
        rw [sub_sub, zpow_sub₀ (by norm_num), zpow_natCast]
        norm_cast
    _ ≤ num / 2 ^ (Nat.log2 den + 1) := by gcongr
    _ ≤ num / den := by gcongr

/-- What is known of the unit that a fraction is rounded to: the mantissa holds the whole units, and
it is filled unless the unit is the least one. -/
structure Suits (num den : Nat) (exp : Int) : Prop where
  least : -1074 ≤ exp
  fits : (num / den : ℚ) < 2 ^ 53 * 2 ^ exp
  filled : exp = -1074 ∨ 2 ^ 52 * 2 ^ exp ≤ (num / den : ℚ)

theorem least_le_unitOf : -1074 ≤ unitOf exp := by
  unfold unitOf
  omega

/-- The next unit is twice the last one at most. -/
theorem filled_unitOf_succ (h : 2 ^ 53 * 2 ^ unitOf exp ≤ (num / den : ℚ)) :
    2 ^ 52 * 2 ^ unitOf (exp + 1) ≤ (num / den : ℚ) := by
  have hnext : unitOf (exp + 1) ≤ unitOf exp + 1 := by
    unfold unitOf
    omega
  calc (2 : ℚ) ^ 52 * 2 ^ unitOf (exp + 1) ≤ 2 ^ 52 * 2 ^ (unitOf exp + 1) := by
        gcongr
        norm_num
    _ = 2 ^ 53 * 2 ^ unitOf exp := by
        rw [zpow_add_one₀ (by norm_num)]
        ring
    _ ≤ num / den := h

/-- A first guess above the least unit leaves no leading place empty. -/
theorem filled_guess (hnum : 0 < num) (hden : 0 < den) (hleast : -1074 < guess num den) :
    2 ^ 52 * 2 ^ unitOf (guess num den) ≤ (num / den : ℚ) := by
  have hguess : unitOf (guess num den) = guess num den := by
    unfold unitOf
    omega
  rw [hguess, guess]
  calc (2 : ℚ) ^ 52 * 2 ^ ((Nat.log2 num : Int) - Nat.log2 den - 53)
      = 2 ^ ((Nat.log2 num : Int) - Nat.log2 den - 1) := by
        rw [← zpow_natCast, ← zpow_add₀ (by norm_num)]
        congr 1
        omega
    _ ≤ num / den := two_zpow_log_le hnum hden

/-- Two units above the first guess the whole units fit. -/
theorem fits_guess (hnum : 0 < num) (hden : 0 < den) :
    (num / den : ℚ) < 2 ^ 53 * 2 ^ unitOf (guess num den + 1 + 1) := by
  have hunit : (Nat.log2 num : Int) - Nat.log2 den + 1 ≤
      53 + unitOf (guess num den + 1 + 1) := by
    unfold unitOf guess
    omega
  calc (num / den : ℚ) < 2 ^ ((Nat.log2 num : Int) - Nat.log2 den + 1) :=
        lt_two_zpow_log hnum hden
    _ ≤ 2 ^ (53 + unitOf (guess num den + 1 + 1)) := by
        gcongr
        norm_num
    _ = 2 ^ 53 * 2 ^ unitOf (guess num den + 1 + 1) := by
        rw [zpow_add₀ (by norm_num)]
        norm_cast

theorem suits_unitFor (hnum : 0 < num) (hden : 0 < den) : Suits num den (unitFor num den) := by
  have hbound : ((Nat.pow 2 53 : Nat) : ℚ) = 2 ^ 53 := by norm_num
  have hfits {exp : Int} (h : wholeUnits num den exp < Nat.pow 2 53) :
      (num / den : ℚ) < 2 ^ 53 * 2 ^ exp := by
    rw [← hbound]
    exact (wholeUnits_lt_iff hden _).mp h
  have hgreat {exp : Int} (h : ¬wholeUnits num den exp < Nat.pow 2 53) :
      2 ^ 53 * 2 ^ exp ≤ (num / den : ℚ) := by
    rw [← hbound]
    exact not_lt.mp (mt (wholeUnits_lt_iff hden _).mpr h)
  unfold unitFor
  split
  · rename_i hfirst
    refine ⟨least_le_unitOf, hfits hfirst, ?_⟩
    by_cases hleast : -1074 < guess num den
    · exact Or.inr (filled_guess hnum hden hleast)
    · refine Or.inl ?_
      unfold unitOf
      omega
  · rename_i hfirst
    split
    · rename_i hsecond
      exact ⟨least_le_unitOf, hfits hsecond, Or.inr (filled_unitOf_succ (hgreat hfirst))⟩
    · rename_i hsecond
      have hnext : guess num den + 2 = guess num den + 1 + 1 := by omega
      rw [hnext]
      exact ⟨least_le_unitOf, fits_guess hnum hden, Or.inr (filled_unitOf_succ (hgreat hsecond))⟩

/-- Rounding adds a half at most. -/
theorem divRound_le (num : Nat) (hden : 0 < den) : (divRound num den : ℚ) ≤ num / den + 1 / 2 := by
  have hdivide := Nat.div_add_mod num den
  have hdouble : 2 * (divRound num den * den) ≤ 2 * num + den := by
    have hsum : 2 * (num / den * den) + 2 * (num % den) = 2 * num := by
      rw [← Nat.mul_add, Nat.mul_comm _ den, hdivide]
    unfold divRound
    dsimp only
    split
    · omega
    · split
      · rw [Nat.add_mul, Nat.mul_add]
        omega
      · rename_i hlow hhigh
        have hparity : num / den % 2 * den ≤ 1 * den :=
          Nat.mul_le_mul_right den (Nat.le_of_lt_succ (Nat.mod_lt _ (by decide)))
        rw [Nat.add_mul, Nat.mul_add]
        omega
  have hpos : (0 : ℚ) < den := by exact_mod_cast hden
  have hrational : 2 * ((divRound num den : ℚ) * den) ≤ 2 * num + den := by exact_mod_cast hdouble
  rw [← sub_le_iff_le_add, le_div_iff₀ hpos]
  linarith

theorem roundedUnits_le (num : Nat) (exp : Int) (hden : 0 < den) :
    (roundedUnits num den exp : ℚ) ≤ num / den / 2 ^ exp + 1 / 2 := by
  have hround := divRound_le (scale num den (-exp)).1 (scale_pos num hden (-exp))
  rw [scale_ratio, zpow_neg, ← div_eq_mul_inv] at hround
  exact hround

/-- The mantissa holds the rounded units, or they are those of the next power of two. -/
theorem roundedUnits_le_of_suits (hden : 0 < den) (h : Suits num den exp) :
    roundedUnits num den exp ≤ 2 ^ 53 := by
  have hpos : (0 : ℚ) < 2 ^ exp := by positivity
  have hfits : (num / den / 2 ^ exp : ℚ) < 2 ^ 53 := (div_lt_iff₀ hpos).mpr h.fits
  have hround : (roundedUnits num den exp : ℚ) < (2 ^ 53 + 1 : Nat) := by
    push_cast
    linarith [roundedUnits_le num exp hden]
  exact Nat.le_of_lt_succ (Nat.cast_lt.mp hround)

end Units

section Assembling

variable {exp : Int} {count bits num den : Nat}

theorem pow_fraction : Nat.pow 2 52 = 4503599627370496 := rfl

theorem exponentBits_ofNat (h : bits < 2047 * Nat.pow 2 52) :
    (Binary64.mk bits.toUInt64).exponentBits = bits / Nat.pow 2 52 := by
  rw [pow_fraction] at h
  have hword : bits.toUInt64.toNat = bits % 2 ^ 64 := UInt64.toNat_ofNat'
  have hexponent : Nat.pow 2 11 = 2048 := rfl
  rw [exponentBits, hword, pow_fraction, hexponent]
  omega

theorem fractionBits_ofNat (bits : Nat) :
    (Binary64.mk bits.toUInt64).fractionBits = bits % Nat.pow 2 52 := by
  have hword : bits.toUInt64.toNat = bits % 2 ^ 64 := UInt64.toNat_ofNat'
  rw [fractionBits, hword, pow_fraction]
  omega

theorem magnitude_infinity :
    (Binary64.mk 0x7FF0000000000000).magnitude = (Nat.pow 2 52 : Nat) * 2 ^ (972 : Int) := by
  have hmantissa : (Binary64.mk 0x7FF0000000000000).mantissa = Nat.pow 2 52 := by decide
  have hexponent : (Binary64.mk 0x7FF0000000000000).exponent = 972 := by decide
  rw [magnitude, hmantissa, hexponent]

/-- A full mantissa is half as many units of the next power of two. -/
theorem full_units (exp : Int) :
    ((Nat.pow 2 53 : Nat) : ℚ) * 2 ^ exp = (Nat.pow 2 52 : Nat) * 2 ^ (exp + 1) := by
  rw [zpow_add_one₀ (by norm_num)]
  simp only [Nat.pow_eq]
  push_cast
  ring

/-- A number below the mantissa's leading bit is its own bits. -/
theorem magnitude_ofNat_of_lt (h : bits < Nat.pow 2 52) :
    (Binary64.mk bits.toUInt64).magnitude = bits * 2 ^ (-1074 : Int) := by
  have hbits : bits < 2047 * Nat.pow 2 52 := by
    rw [pow_fraction] at h ⊢
    omega
  have hzero : (Binary64.mk bits.toUInt64).exponentBits = 0 := by
    rw [exponentBits_ofNat hbits, Nat.div_eq_of_lt h]
  rw [magnitude, mantissa, if_pos hzero, exponent, hzero, fractionBits_ofNat,
    Nat.mod_eq_of_lt h]
  rfl

/-- The bits of a number with the mantissa's leading bit say how many units it has, and of which
power of two. -/
theorem magnitude_ofNat_of_le (h : bits < 2047 * Nat.pow 2 52) (hleading : Nat.pow 2 52 ≤ bits) :
    (Binary64.mk bits.toUInt64).magnitude =
      (bits % Nat.pow 2 52 + Nat.pow 2 52 : Nat) *
        2 ^ ((bits / Nat.pow 2 52 : Nat) - 1075 : Int) := by
  have hpos : 0 < bits / Nat.pow 2 52 := Nat.div_pos hleading (by decide)
  rw [magnitude, mantissa, exponentBits_ofNat h, if_neg (Nat.ne_of_gt hpos), exponent,
    exponentBits_ofNat h, fractionBits_ofNat, Nat.max_eq_left hpos]

/-- Where the bits overflow, so do the units. -/
theorem infinity_le (hleading : Nat.pow 2 52 ≤ count) (hfits : count ≤ Nat.pow 2 53)
    (h : 2047 * Nat.pow 2 52 ≤ (exp + 1074).toNat * Nat.pow 2 52 + count) :
    ((Nat.pow 2 52 : Nat) * 2 ^ (972 : Int) : ℚ) ≤ count * 2 ^ exp := by
  rw [pow_fraction] at h
  have hdouble : Nat.pow 2 53 = 2 * 4503599627370496 := rfl
  by_cases hlast : exp = 971
  · have hfull : count = Nat.pow 2 53 := by
      rw [hlast] at h
      omega
    rw [hfull, hlast]
    exact le_of_eq (full_units 971).symm
  · have hhigh : 972 ≤ exp := by omega
    have hcount : ((Nat.pow 2 52 : Nat) : ℚ) ≤ count := Nat.cast_le.mpr hleading
    have htwo : (1 : ℚ) ≤ 2 := by norm_num
    gcongr

/-- Units with a leading place, as bits that do not overflow, are the double of so many units: a
full count takes the next exponent. -/
theorem magnitude_units (hleast : -1074 ≤ exp) (hleading : Nat.pow 2 52 ≤ count)
    (hfits : count ≤ Nat.pow 2 53)
    (h : (exp + 1074).toNat * Nat.pow 2 52 + count < 2047 * Nat.pow 2 52) :
    (Binary64.mk ((exp + 1074).toNat * Nat.pow 2 52 + count).toUInt64).magnitude =
      count * 2 ^ exp := by
  rw [magnitude_ofNat_of_le h (Nat.le_add_left_of_le hleading)]
  have hdouble : Nat.pow 2 53 = 2 * Nat.pow 2 52 := rfl
  by_cases hfull : count = Nat.pow 2 53
  · have hcount : ((exp + 1074).toNat * Nat.pow 2 52 + count) % Nat.pow 2 52 = 0 := by
      rw [hfull, hdouble, ← Nat.add_mul, Nat.mul_mod_left]
    have hexp : ((exp + 1074).toNat * Nat.pow 2 52 + count) / Nat.pow 2 52 =
        (exp + 1074).toNat + 2 := by
      rw [hfull, hdouble, ← Nat.add_mul, Nat.mul_div_cancel _ (by decide)]
    rw [hcount, hexp, hfull, full_units, Nat.zero_add]
    congr 2
    omega
  · have hless : count < 2 * 4503599627370496 := Nat.lt_of_le_of_ne hfits hfull
    rw [pow_fraction] at hleading
    have hcount : ((exp + 1074).toNat * Nat.pow 2 52 + count) % Nat.pow 2 52 + Nat.pow 2 52 =
        count := by
      rw [pow_fraction]
      omega
    have hexp : ((exp + 1074).toNat * Nat.pow 2 52 + count) / Nat.pow 2 52 =
        (exp + 1074).toNat + 1 := by
      rw [pow_fraction]
      omega
    rw [hcount, hexp]
    congr 2
    omega

/-- The double of so many units is not greater than they are. -/
theorem magnitude_assemble_le (hleast : -1074 ≤ exp) (hfits : count ≤ Nat.pow 2 53) :
    (assemble exp count).magnitude ≤ count * 2 ^ exp := by
  unfold assemble
  dsimp only
  by_cases hsmall : count < Nat.pow 2 52
  · have hbits : ¬2047 * Nat.pow 2 52 ≤ count := by
      rw [pow_fraction] at hsmall ⊢
      omega
    have htwo : (1 : ℚ) ≤ 2 := by norm_num
    rw [if_pos hsmall, if_neg hbits, magnitude_ofNat_of_lt hsmall]
    gcongr
  · have hleading : Nat.pow 2 52 ≤ count := Nat.le_of_not_lt hsmall
    rw [if_neg hsmall]
    split
    · rename_i hlarge
      rw [magnitude_infinity]
      exact infinity_le hleading hfits hlarge
    · rename_i hlarge
      exact le_of_eq (magnitude_units hleast hleading hfits (Nat.lt_of_not_le hlarge))

/-- Units that fit the mantissa are a finite double, except those of too great a power of two. -/
theorem isFinite_assemble (hexp : exp ≤ 971) (hfits : count ≤ Nat.pow 2 53)
    (hlast : exp = 971 → count < Nat.pow 2 53) : (assemble exp count).isFinite := by
  have hdouble : Nat.pow 2 53 = 2 * 4503599627370496 := rfl
  have hbits : (if count < Nat.pow 2 52 then count
      else (exp + 1074).toNat * Nat.pow 2 52 + count) < 2047 * Nat.pow 2 52 := by
    rw [pow_fraction]
    split
    · omega
    · omega
  unfold assemble
  dsimp only
  rw [if_neg (Nat.not_le.mpr hbits), isFinite, exponentBits_ofNat hbits, decide_eq_true_eq]
  exact (Nat.div_lt_iff_lt_mul (by decide)).mpr hbits

end Assembling

section Rounding

variable {num den : Nat}

theorem ofFraction_zero (den : Nat) : ofFraction 0 den = ⟨0⟩ := rfl

theorem pos_of_one_le (h : (1 : ℚ) ≤ num / den) : 0 < num := by
  apply Nat.pos_of_ne_zero
  rintro rfl
  rw [Nat.cast_zero, zero_div] at h
  exact absurd h (by norm_num)

/-- The unit of a fraction of one or more is small beside it. -/
theorem Suits.filled_of_one_le {exp : Int} (h : Suits num den exp) (hone : (1 : ℚ) ≤ num / den) :
    2 ^ 52 * 2 ^ exp ≤ (num / den : ℚ) := by
  cases h.filled with
  | inl hleast =>
      have htwo : (1 : ℚ) ≤ 2 := by norm_num
      calc (2 : ℚ) ^ 52 * 2 ^ exp = 2 ^ (-1022 : Int) := by
            rw [hleast, ← zpow_natCast, ← zpow_add₀ (by norm_num)]
            rfl
        _ ≤ 2 ^ (0 : Int) := zpow_le_zpow_right₀ htwo (by decide)
        _ ≤ num / den := by rwa [zpow_zero]
  | inr hfilled => exact hfilled

/-- Rounding a fraction of one or more makes it hardly greater. -/
theorem magnitude_ofFraction_le (hden : 0 < den) (hone : (1 : ℚ) ≤ num / den) :
    (ofFraction num den).magnitude ≤ num / den * (1 + 1 / 2 ^ 53) := by
  have hnum := pos_of_one_le hone
  have hsuits := suits_unitFor hnum hden
  have hsmall := hsuits.filled_of_one_le hone
  have hround := roundedUnits_le num (unitFor num den) hden
  have hunit : (0 : ℚ) < 2 ^ unitFor num den := by positivity
  rw [ofFraction_eq (Nat.ne_of_gt hnum)]
  calc (assemble (unitFor num den) (roundedUnits num den (unitFor num den))).magnitude
      ≤ roundedUnits num den (unitFor num den) * 2 ^ unitFor num den :=
        magnitude_assemble_le hsuits.least (roundedUnits_le_of_suits hden hsuits)
    _ ≤ (num / den / 2 ^ unitFor num den + 1 / 2) * 2 ^ unitFor num den := by gcongr
    _ = num / den + 2 ^ unitFor num den / 2 := by field_simp
    _ ≤ num / den * (1 + 1 / 2 ^ 53) := by linarith

/-- A fraction that is nearer to the greatest double than to the next power of two is rounded to a
finite double. -/
theorem isFinite_ofFraction (hden : 0 < den)
    (h : (num / den : ℚ) < (2 ^ 53 - 1 / 2) * 2 ^ (971 : Int)) : (ofFraction num den).isFinite := by
  by_cases hzero : num = 0
  · rw [hzero, ofFraction_zero]
    decide
  · have hunit : (0 : ℚ) < 2 ^ (971 : Int) := by positivity
    have hsuits := suits_unitFor (Nat.pos_of_ne_zero hzero) hden
    have hexp : unitFor num den ≤ 971 := by
      by_contra hgreat
      have htwo : (1 : ℚ) ≤ 2 := by norm_num
      have hnext : (2 : ℚ) ^ (971 + 1 : Int) ≤ 2 ^ unitFor num den :=
        zpow_le_zpow_right₀ htwo (by omega)
      rw [zpow_add_one₀ (by norm_num)] at hnext
      cases hsuits.filled with
      | inl hleast => omega
      | inr hfilled =>
          generalize (2 : ℚ) ^ (971 : Int) = unit at h hunit hnext
          linarith
    rw [ofFraction_eq hzero]
    apply isFinite_assemble hexp (roundedUnits_le_of_suits hden hsuits)
    intro hlast
    have hround := roundedUnits_le num (unitFor num den) hden
    have hvalue : (num / den / 2 ^ (971 : Int) : ℚ) < 2 ^ 53 - 1 / 2 := (div_lt_iff₀ hunit).mpr h
    rw [hlast] at hround ⊢
    have hfits : (roundedUnits num den 971 : ℚ) < (2 ^ 53 : Nat) := by
      push_cast
      linarith
    exact Nat.cast_lt.mp hfits

/-- The fraction of a double is its magnitude. -/
theorem fraction_ratio (x : Binary64) : (x.fraction.1 / x.fraction.2 : ℚ) = x.magnitude := by
  rw [fraction, scale_ratio, Nat.cast_one, div_one]
  rfl

theorem fraction_pos (x : Binary64) : 0 < x.fraction.2 :=
  scale_pos x.mantissa Nat.one_pos x.exponent

theorem magnitude_nonneg (x : Binary64) : 0 ≤ x.magnitude := by
  unfold magnitude
  positivity

theorem magnitude_ofNat_le {n : Nat} (h : 0 < n) :
    (ofNat n).magnitude ≤ n * (1 + 1 / 2 ^ 53) := by
  have hone : (1 : ℚ) ≤ n / (1 : Nat) := by
    rw [Nat.cast_one, div_one]
    exact_mod_cast h
  have hbound := magnitude_ofFraction_le Nat.one_pos hone
  rw [Nat.cast_one, div_one] at hbound
  exact hbound

/-- A product in the range of doubles is finite. -/
theorem isFinite_mul {x y : Binary64}
    (h : x.magnitude * y.magnitude < (2 ^ 53 - 1 / 2) * 2 ^ (971 : Int)) : (x.mul y).isFinite := by
  have hmul : x.mul y =
      ofFraction (x.fraction.1 * y.fraction.1) (x.fraction.2 * y.fraction.2) := rfl
  rw [hmul]
  apply isFinite_ofFraction (Nat.mul_pos x.fraction_pos y.fraction_pos)
  rw [Nat.cast_mul, Nat.cast_mul, mul_div_mul_comm, fraction_ratio, fraction_ratio]
  exact h

end Rounding

end NplLifecycle.Number.Binary64
