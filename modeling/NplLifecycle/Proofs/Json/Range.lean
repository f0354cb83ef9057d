import NplLifecycle.Json.Printer
import NplLifecycle.Proofs.Json.Numeral
import NplLifecycle.Proofs.Number.Shortest

/-!
# Doubles in range

A reader rounds the digits of a numeral, rounds the power of ten, and rounds their product, so it
may refuse a numeral although a double is near it.  It does not refuse what a finite double is
written with: up to the third greatest double there is room for all three roundings, and the
greatest ones are read.
-/

namespace NplLifecycle.Json

open Number (Binary64 digits)
open Number.Binary64 (decimal isFinite_mul magnitude magnitude_ofNat_le magnitude_nonneg shortest)

/-- Up to here a number is read as a finite double, whatever its digits are. -/
def safeBound : ℚ :=
  (2 ^ 54 - 7) * 2 ^ (970 : Int)

section Doubles

variable {significand : Nat} {exponent : Int}

theorem cast_natPow (base n : Nat) : ((Nat.pow base n : Nat) : ℚ) = (base : ℚ) ^ (n : Int) := by
  rw [Nat.pow_eq, Nat.cast_pow, zpow_natCast]

theorem cast_powers_lt {m n k : Nat} (h : Nat.pow 2 m * Nat.pow 2 n < Nat.pow 10 k) :
    (2 : ℚ) ^ (m : Int) * 2 ^ (n : Int) < 10 ^ (k : Int) := by
  have hcast := (Nat.cast_lt (α := ℚ)).mpr h
  rw [Nat.cast_mul, cast_natPow, cast_natPow, cast_natPow] at hcast
  exact hcast

/-- The bound is below the power of ten that no double reaches. -/
theorem safeBound_lt : safeBound < 10 ^ (309 : Int) := by
  have hpowers : (2 : ℚ) ^ (54 : Int) * 2 ^ (970 : Int) < 10 ^ (309 : Int) :=
    cast_powers_lt (by decide +kernel)
  refine lt_of_le_of_lt (mul_le_mul_of_nonneg_right ?_ ?_) hpowers
  · norm_num
  · positivity

/-- A number below the bound has no greater power of ten than a double can hold. -/
theorem exponent_le_of_decimal_le (hpos : 0 < significand)
    (h : decimal significand exponent ≤ safeBound) : exponent ≤ 308 := by
  by_contra hgreat
  have hten : (1 : ℚ) ≤ 10 := by norm_num
  have hone : (1 : ℚ) ≤ significand := by exact_mod_cast hpos
  have hreach : (10 : ℚ) ^ (309 : Int) ≤ decimal significand exponent :=
    calc (10 : ℚ) ^ (309 : Int) ≤ 10 ^ exponent := zpow_le_zpow_right₀ hten (by omega)
      _ ≤ significand * 10 ^ exponent := le_mul_of_one_le_left (by positivity) hone
  exact absurd (hreach.trans h) (not_le.mpr safeBound_lt)

theorem isFinite_of_decimal_le {n : Nat} (h : decimal significand n ≤ safeBound) :
    ((Binary64.ofNat significand).mul (powerOfTen n)).isFinite := by
  have hunit : (0 : ℚ) < 2 ^ (970 : Int) := by positivity
  have hlast : (2 : ℚ) ^ (971 : Int) = 2 ^ (970 : Int) * 2 := zpow_add_one₀ (by norm_num) 970
  apply isFinite_mul
  rw [hlast]
  cases Nat.eq_zero_or_pos significand with
  | inl hzero =>
      have hnone : (Binary64.ofNat 0).magnitude = 0 := by
        have hmantissa : (Binary64.ofNat 0).mantissa = 0 := by decide
        rw [magnitude, hmantissa, Nat.cast_zero, zero_mul]
      rw [hzero, hnone, zero_mul]
      generalize (2 : ℚ) ^ (970 : Int) = unit at hunit
      linarith
  | inr hpos =>
      have hdigits := magnitude_ofNat_le hpos
      have hpower : (powerOfTen n).magnitude ≤ 10 ^ (n : Int) * (1 + 1 / 2 ^ 53) := by
        have hround := magnitude_ofNat_le (Nat.pow_pos (n := n) (show 0 < 10 by decide))
        rw [← Nat.pow_eq, cast_natPow] at hround
        exact hround
      calc (Binary64.ofNat significand).magnitude * (powerOfTen n).magnitude
          ≤ significand * (1 + 1 / 2 ^ 53) * (10 ^ (n : Int) * (1 + 1 / 2 ^ 53)) :=
            mul_le_mul hdigits hpower (magnitude_nonneg _) (by positivity)
        _ = decimal significand n * (1 + 1 / 2 ^ 53) ^ 2 := by
            unfold decimal
            ring
        _ ≤ safeBound * (1 + 1 / 2 ^ 53) ^ 2 := by gcongr
        _ < (2 ^ 53 - 1 / 2) * (2 ^ (970 : Int) * 2) := by
            unfold safeBound
            generalize (2 : ℚ) ^ (970 : Int) = unit at hunit
            linarith

/-- A number below the bound is read as a double. -/
theorem isSome_doubleOf? (h : decimal significand exponent ≤ safeBound) :
    (doubleOf? significand exponent).isSome := by
  unfold doubleOf?
  dsimp only
  split
  · rfl
  · rename_i hnonneg
    obtain ⟨n, rfl⟩ := Int.eq_ofNat_of_zero_le (Int.not_lt.mp hnonneg)
    split
    · rw [Int.toNat_natCast, if_pos (isFinite_of_decimal_le h)]
      rfl
    · rename_i hgreat
      cases Nat.eq_zero_or_pos significand with
      | inl hzero =>
          rw [hzero]
          rfl
      | inr hpos => exact absurd (exponent_le_of_decimal_le hpos h) hgreat

end Doubles

section Written

variable {x : Binary64}

/-- The three greatest doubles of each sign. -/
def greatest : List Binary64 :=
  [⟨0x7FEFFFFFFFFFFFFD⟩, ⟨0x7FEFFFFFFFFFFFFE⟩, ⟨0x7FEFFFFFFFFFFFFF⟩,
    ⟨0xFFEFFFFFFFFFFFFD⟩, ⟨0xFFEFFFFFFFFFFFFE⟩, ⟨0xFFEFFFFFFFFFFFFF⟩]

theorem mem_greatest (hexponent : x.exponentBits = 2046)
    (hfraction : Nat.pow 2 52 - 3 ≤ x.fractionBits) : x ∈ greatest := by
  have hword : x.bits.toNat < 18446744073709551616 := x.bits.toNat_lt
  have hten : Nat.pow 2 11 = 2048 := rfl
  rw [Binary64.exponentBits, Binary64.pow_fraction, hten] at hexponent
  rw [Binary64.fractionBits, Binary64.pow_fraction] at hfraction
  have hbits : x.bits.toNat ∈ greatest.map fun x => x.bits.toNat := by
    simp only [greatest, List.map_cons, List.map_nil, List.mem_cons, List.not_mem_nil, or_false,
      UInt64.toNat_ofNat]
    omega
  obtain ⟨other, hother, heq⟩ := List.mem_map.mp hbits
  have hsame : other = x := by
    cases other
    cases x
    exact congrArg Binary64.mk (UInt64.toNat_inj.mp heq)
  exact hsame ▸ hother

theorem mantissa_lt (x : Binary64) : x.mantissa < Nat.pow 2 53 := by
  have hfraction : x.fractionBits < Nat.pow 2 52 := Nat.mod_lt _ (by decide)
  have hdouble : Nat.pow 2 53 = 2 * Nat.pow 2 52 := rfl
  unfold Binary64.mantissa
  split
  · omega
  · omega

/-- What all other finite doubles are rounded from is below the bound. -/
theorem upperEnd_le (hfinite : x.isFinite) (hnot : x ∉ greatest) : x.upperEnd ≤ safeBound := by
  have hhalf : (0 : ℚ) ≤ x.mantissa + 1 / 2 := by positivity
  have hunit : (0 : ℚ) < 2 ^ (970 : Int) := by positivity
  have hbits : x.exponentBits < 2047 := of_decide_eq_true hfinite
  unfold Binary64.upperEnd safeBound
  by_cases hlast : x.exponentBits = 2046
  · have hfraction : x.fractionBits < Nat.pow 2 52 - 3 :=
      Nat.lt_of_not_le fun hgreat => hnot (mem_greatest hlast hgreat)
    have hmantissa : x.mantissa + 4 ≤ 2 ^ 53 := by
      rw [Binary64.mantissa, if_neg (by omega), Binary64.pow_fraction]
      rw [Binary64.pow_fraction] at hfraction
      omega
    have hexponent : x.exponent = 970 + 1 := by
      rw [Binary64.exponent, hlast]
      rfl
    have hcast : (x.mantissa : ℚ) + 4 ≤ 2 ^ 53 := by exact_mod_cast hmantissa
    rw [hexponent, zpow_add_one₀ (by norm_num)]
    generalize (2 : ℚ) ^ (970 : Int) = unit at hunit
    calc ((x.mantissa : ℚ) + 1 / 2) * (unit * 2) = (2 * x.mantissa + 1) * unit := by ring
      _ ≤ (2 ^ 54 - 7) * unit := mul_le_mul_of_nonneg_right (by linarith) hunit.le
  · have hexponent : x.exponent ≤ 970 := by
      unfold Binary64.exponent
      omega
    have hmantissa : x.mantissa + 1 ≤ 2 ^ 53 := mantissa_lt x
    have hcast : (x.mantissa : ℚ) + 1 ≤ 2 ^ 53 := by exact_mod_cast hmantissa
    have htwo : (1 : ℚ) ≤ 2 := by norm_num
    have hpower := zpow_le_zpow_right₀ htwo hexponent
    calc ((x.mantissa : ℚ) + 1 / 2) * 2 ^ x.exponent ≤ (x.mantissa + 1 / 2) * 2 ^ (970 : Int) :=
          mul_le_mul_of_nonneg_left hpower hhalf
      _ ≤ (2 ^ 54 - 7) * 2 ^ (970 : Int) :=
          mul_le_mul_of_nonneg_right (by linarith only [hcast]) hunit.le

/-- What a double is written with stands for a number below the bound, unless it is one of the
greatest. -/
theorem decimal_shortest_le_safeBound (hfinite : x.isFinite) (hnot : x ∉ greatest) :
    decimal x.shortest.1 x.shortest.2 ≤ safeBound := by
  have htwo : (1 : ℚ) ≤ 2 := by norm_num
  have hmantissa : x.mantissa + 1 ≤ 2 ^ 53 := mantissa_lt x
  have hcast : (x.mantissa : ℚ) + 1 ≤ 2 ^ 53 := by exact_mod_cast hmantissa
  have hone : (1 : ℚ) ≤ 2 ^ (970 : Int) := one_le_zpow₀ htwo (by decide)
  apply x.decimal_shortest_le.trans
  apply max_le (upperEnd_le hfinite hnot)
  calc (x.mantissa : ℚ) ≤ 2 ^ 54 - 7 := by linarith only [hcast]
    _ ≤ safeBound := le_mul_of_one_le_right (by norm_num) hone

end Written

section Values

variable {negative : Bool} {whole fraction more : List Char} {lead : Char} {significand : Nat}
  {shift exp : Int}

theorem isSome_doubleOf?_of_neg (h : exp < 0) : (doubleOf? significand exp).isSome := by
  unfold doubleOf?
  dsimp only
  rw [if_pos h]
  rfl

/-- A numeral with few digits in front of its point and no exponent is in range. -/
theorem isSome_value?_of_short (hwhole : IsDigits whole) (hshort : whole.length ≤ 16)
    (hfraction : IsDigits fraction) :
    (Numeral.mk negative whole (some fraction) none).value?.isSome := by
  have hlt : Nat.ofDigitChars 10 whole 0 < 10 ^ 16 :=
    Nat.lt_of_lt_of_le (ofDigitChars_lt hwhole.2)
      (by rw [Nat.zero_add, Nat.one_mul]; exact Nat.pow_le_pow_right (by decide) hshort)
  have hbound : 10 ^ 17 < Nat.pow 2 64 := by decide
  have htake : takeBelow (Nat.pow 2 64) 0 whole = (Nat.ofDigitChars 10 whole 0, []) :=
    takeBelow_of_isDigit hwhole.2 (by omega)
  obtain ⟨c, rest, rfl⟩ := List.exists_cons_of_ne_nil hfraction.1
  have hc := hfraction.2 c List.mem_cons_self
  have hdigit := Number.bounds_of_isDigit hc
  have hzero : '0'.toNat = 48 := rfl
  have hfirst : (takeBelow (Nat.pow 2 64) (Nat.ofDigitChars 10 whole 0) (c :: rest)).2.length ≤
      rest.length := by
    rw [takeBelow, Number.digit?_of_isDigit hc, Option.getD_some, if_pos (by omega)]
    exact length_takeBelow_le _ _ _
  simp only [Numeral.value?, htake, Option.isSome_map, Numeral.magnitude?]
  apply isSome_doubleOf?_of_neg
  rw [List.length_nil, List.length_cons]
  omega

/-- A numeral with one digit in front of the point and an exponent. -/
def scientific (negative : Bool) (lead : Char) (more : List Char) (exp : Int) : Numeral :=
  ⟨negative, [lead], if more = [] then none else some more,
    some (decide (exp < 0), digits exp.natAbs)⟩

theorem isSome_magnitude?_scientific (hexp : 0 ≤ exp → exp ≤ 308)
    (hread : (doubleOf? significand (shift + exp)).isSome) :
    ((scientific negative lead more exp).magnitude? significand shift).isSome := by
  have hspec := ofDigitChars_takeBelow (Nat.pow 2 31) 0
    (isDigits_digits exp.natAbs).2
  have hall : Nat.ofDigitChars 10 (digits exp.natAbs) 0 = exp.natAbs :=
    Nat.ofDigitChars_ten_toDigits
  rw [hall] at hspec
  unfold Numeral.magnitude?
  simp only [scientific]
  split
  · rename_i n htake
    rw [htake] at hspec
    obtain rfl : n = exp.natAbs := hspec
    have htotal : (if decide (exp < 0) = true then shift - exp.natAbs else shift + exp.natAbs) =
        shift + exp := by
      split
      · rename_i hnegative
        have hbelow : exp < 0 := of_decide_eq_true hnegative
        omega
      · rename_i hpositive
        have habove : ¬exp < 0 := fun h => hpositive (decide_eq_true h)
        omega
    rw [htotal]
    exact hread
  · -- The exponent has too many digits, so it is negative.
    rename_i hleft
    have hnegative : exp < 0 := by
      by_contra hpositive
      have hsmall : exp.natAbs ≤ 308 := by omega
      have hbound : 308 < Nat.pow 2 31 := by decide
      exact hleft _ (takeBelow_digits (Nat.lt_of_le_of_lt hsmall hbound))
    rw [decide_eq_true hnegative, if_neg (by simp)]
    rfl

theorem value?_scientific (hlead : lead.isDigit) (negative : Bool) (more : List Char) (exp : Int) :
    (scientific negative lead more exp).value? =
      ((scientific negative lead more exp).magnitude?
        (takeBelow (Nat.pow 2 64) (lead.toNat - 48) more).1
        (-(more.length - (takeBelow (Nat.pow 2 64) (lead.toNat - 48) more).2.length : Nat))).map
        fun x => .float (if negative then x.negate else x) := by
  have hbounds := Number.bounds_of_isDigit hlead
  have hzero : '0'.toNat = 48 := rfl
  have hbound : 57 < Nat.pow 2 64 := by decide
  have htake : takeBelow (Nat.pow 2 64) 0 [lead] = (lead.toNat - 48, []) := by
    rw [takeBelow, Number.digit?_of_isDigit hlead, Option.getD_some, if_pos (by omega), takeBelow,
      hzero, Nat.zero_mul, Nat.zero_add]
  cases more with
  | nil =>
      simp only [Numeral.value?, scientific, htake]
      rfl
  | cons c more =>
      simp only [Numeral.value?, scientific, htake, if_neg (List.cons_ne_nil c more)]
      congr 2
      rw [List.length_nil]
      omega

/-- Digits that are left out make a number no greater. -/
theorem decimal_add_le {n k : Nat} {e : Int} (h : significand * 10 ^ k ≤ n) :
    decimal significand (k + e) ≤ decimal n e := by
  have hcast : (significand : ℚ) * 10 ^ k ≤ n := by exact_mod_cast h
  unfold decimal
  rw [zpow_add₀ (by norm_num), zpow_natCast, ← mul_assoc]
  gcongr

theorem pos_of_head?_ne_zero (hlead : lead.isDigit) (hne : lead ≠ '0') : 0 < lead.toNat - 48 := by
  have hbounds := Number.bounds_of_isDigit hlead
  by_contra hzero
  have hnumber : lead.toNat = 48 := by omega
  exact hne (by rw [← Char.ofNat_toNat lead, hnumber])

/-- A numeral with an exponent is in range if it stands for a number below the bound. -/
theorem isSome_value?_scientific {n : Nat} {e : Int} (hdigits : digits n = lead :: more)
    (hpos : 0 < n) (h : decimal n e ≤ safeBound) :
    (scientific negative lead more (more.length + e)).value?.isSome := by
  have hall : ∀ c ∈ lead :: more, c.isDigit := by
    rw [← hdigits]
    exact (isDigits_digits n).2
  obtain ⟨hlead, hmore⟩ := List.forall_mem_cons.mp hall
  have hhead := head?_digits_ne_zero hpos
  rw [hdigits] at hhead
  have hfirst := pos_of_head?_ne_zero hlead fun hzero => hhead (congrArg some hzero)
  have hnumber : Nat.ofDigitChars 10 more (lead.toNat - 48) = n := by
    have hread : Nat.ofDigitChars 10 (digits n) 0 = n := Nat.ofDigitChars_ten_toDigits
    rw [hdigits, Nat.ofDigitChars_cons, Nat.mul_zero, Nat.zero_add] at hread
    exact hread
  have hspec := ofDigitChars_takeBelow (Nat.pow 2 64) (lead.toNat - 48) hmore
  have hlength := length_takeBelow_le (Nat.pow 2 64) (lead.toNat - 48) more
  rw [value?_scientific hlead, Option.isSome_map]
  generalize takeBelow (Nat.pow 2 64) (lead.toNat - 48) more = taken at hspec hlength
  apply isSome_magnitude?_scientific
  · intro _
    have hleast : 1 * 10 ^ more.length ≤ n := by
      rw [← hnumber]
      exact Nat.le_trans (Nat.mul_le_mul_right _ hfirst) mul_pow_le_ofDigitChars
    exact exponent_le_of_decimal_le Nat.one_pos ((decimal_add_le hleast).trans h)
  · have htaken : taken.1 * 10 ^ taken.2.length ≤ n := by
      rw [← hnumber, ← hspec]
      exact mul_pow_le_ofDigitChars
    have hshift : -((more.length - taken.2.length : Nat) : Int) + (more.length + e) =
        taken.2.length + e := by
      omega
    rw [hshift]
    exact isSome_doubleOf? ((decimal_add_le htaken).trans h)

end Values

section Texts

open Number.Binary64 (positional zeros)

variable {x : Binary64} {n : Nat} {e : Int}

/-- The text of a double behind its sign. -/
def magnitudeText (n : Nat) (e : Int) : List Char :=
  let point : Int := (digits n).length + e
  if n = 0 then ['0', '.', '0']
  else if -5 < point ∧ point ≤ 16 then positional n e ['.', '0']
  else
    let fraction := match digits n with
      | lead :: [] => [lead]
      | lead :: more => lead :: '.' :: more
      | [] => []
    let exp := point - 1
    fraction ++ 'e' :: (if exp < 0 then '-' else '+') :: digits exp.natAbs

theorem jsonText_eq (x : Binary64) : x.jsonText.toList =
    (if x.isNegative then ['-'] else []) ++ magnitudeText x.shortest.1 x.shortest.2 := by
  have htext : x.jsonText = String.ofList (if x.isNegative then
      '-' :: magnitudeText x.shortest.1 x.shortest.2
      else magnitudeText x.shortest.1 x.shortest.2) := rfl
  rw [htext, String.toList_ofList]
  split
  · rfl
  · rfl

/-- What is written with a point has digits on both sides of it, and few in front of it. -/
theorem exists_positional (hpos : 0 < n) (hpoint : (digits n).length + e ≤ 16) :
    ∃ whole fraction, positional n e ['.', '0'] = whole ++ '.' :: fraction ∧ IsDigits whole ∧
      ¬(whole.head? = some '0' ∧ 1 < whole.length) ∧ whole.length ≤ 16 ∧ IsDigits fraction := by
  have hdigits := isDigits_digits n
  have hhead := head?_digits_ne_zero hpos
  have hzeros : ∀ count, ∀ c ∈ zeros count, c.isDigit := by
    intro count c hc
    rw [List.eq_of_mem_replicate hc]
    decide
  unfold positional
  dsimp only
  split
  · refine ⟨digits n ++ zeros e.toNat, ['0'], rfl, ?_, ?_, ?_, ?_⟩
    · exact ⟨List.append_ne_nil_of_left_ne_nil hdigits.1 _,
        List.forall_mem_append.mpr ⟨hdigits.2, hzeros _⟩⟩
    · rw [List.head?_append_of_ne_nil _ hdigits.1]
      exact fun h => hhead h.1
    · rw [List.length_append, zeros, List.length_replicate]
      omega
    · exact isDigits_zero
  · split
    · rename_i hplaces
      refine ⟨_, _, rfl, ⟨?_, ?_⟩, ?_, ?_, ?_, ?_⟩
      · rw [← List.length_pos_iff, List.length_take]
        omega
      · exact fun c hc => hdigits.2 c (List.mem_of_mem_take hc)
      · rw [List.head?_take, if_neg (by omega)]
        exact fun h => hhead h.1
      · rw [List.length_take]
        omega
      · rw [← List.length_pos_iff, List.length_drop]
        omega
      · exact fun c hc => hdigits.2 c (List.mem_of_mem_drop hc)
    · refine ⟨['0'], _, rfl, ?_, ?_, ?_, ?_⟩
      · exact isDigits_zero
      · exact fun h => absurd h.2 (by decide)
      · decide
      · exact ⟨List.append_ne_nil_of_right_ne_nil _ hdigits.1,
          List.forall_mem_append.mpr ⟨hzeros _, hdigits.2⟩⟩

theorem wellFormed_pointed {whole fraction : List Char} (negative : Bool) (hwhole : IsDigits whole)
    (hleading : ¬(whole.head? = some '0' ∧ 1 < whole.length)) (hfraction : IsDigits fraction) :
    (Numeral.mk negative whole (some fraction) none).WellFormed where
  whole := hwhole
  leading := hleading
  fraction _ h := Option.some.inj h ▸ hfraction
  exponent _ h := absurd h (by simp)

theorem wellFormed_scientific {lead : Char} {more : List Char} (negative : Bool)
    (h : ∀ c ∈ lead :: more, c.isDigit) (exp : Int) :
    (scientific negative lead more exp).WellFormed where
  whole := ⟨List.cons_ne_nil _ _, fun c hc => h c (List.mem_singleton.mp hc ▸ List.mem_cons_self)⟩
  leading h := absurd h.2 (Nat.lt_irrefl 1)
  fraction part hpart := by
    unfold scientific at hpart
    dsimp only at hpart
    split at hpart
    · exact absurd hpart (by simp)
    · rename_i hne
      rw [← Option.some.inj hpart]
      exact ⟨hne, fun c hc => h c (List.mem_cons_of_mem lead hc)⟩
  exponent part hpart := by
    rw [← Option.some.inj hpart]
    exact isDigits_digits _

/-- What a double is written with behind its sign is a numeral, in range if it stands for a number
below the bound. -/
theorem exists_numeral (negative : Bool) (n : Nat) (e : Int) : ∃ numeral : Numeral,
    numeral.WellFormed ∧
    numeral.chars = (if negative then ['-'] else []) ++ magnitudeText n e ∧
    (decimal n e ≤ safeBound → numeral.value?.isSome) := by
  unfold magnitudeText
  dsimp only
  by_cases hnone : n = 0
  · rw [if_pos hnone]
    exact ⟨⟨negative, ['0'], some ['0'], none⟩,
      wellFormed_pointed negative isDigits_zero (by decide) isDigits_zero, rfl,
      fun _ => isSome_value?_of_short isDigits_zero (by decide) isDigits_zero⟩
  · have hpos := Nat.pos_of_ne_zero hnone
    rw [if_neg hnone]
    by_cases hpoint : -5 < ((digits n).length : Int) + e ∧ ((digits n).length : Int) + e ≤ 16
    · obtain ⟨whole, fraction, htext, hwhole, hleading, hshort, hfraction⟩ :=
        exists_positional hpos hpoint.2
      rw [if_pos hpoint, htext]
      refine ⟨⟨negative, whole, some fraction, none⟩,
        wellFormed_pointed negative hwhole hleading hfraction, ?_,
        fun _ => isSome_value?_of_short hwhole hshort hfraction⟩
      rw [Numeral.chars, Numeral.fractionChars, Numeral.exponentChars, List.append_nil]
    · obtain ⟨lead, more, hdigits⟩ := List.exists_cons_of_ne_nil (isDigits_digits n).1
      have hexp : ((digits n).length : Int) + e - 1 = more.length + e := by
        rw [hdigits, List.length_cons]
        omega
      rw [if_neg hpoint, hexp, hdigits]
      refine ⟨scientific negative lead more (more.length + e),
        wellFormed_scientific negative (hdigits ▸ (isDigits_digits n).2) _, ?_,
        isSome_value?_scientific hdigits hpos⟩
      rw [Numeral.chars, scientific]
      dsimp only
      cases more with
      | nil => simp [Numeral.fractionChars, Numeral.exponentChars]
      | cons c more => simp [Numeral.fractionChars, Numeral.exponentChars]

theorem isSome_value?_of_mem_greatest :
    ∀ x ∈ greatest, ((Numeral.ofChars? x.jsonText.toList).bind Numeral.value?).isSome := by
  decide +kernel

/-- A finite double is written as a numeral in range. -/
theorem exists_value?_of_isFinite (h : x.isFinite) :
    ∃ numeral, Numeral.ofChars? x.jsonText.toList = some numeral ∧ numeral.value?.isSome := by
  obtain ⟨numeral, hwell, htext, hrange⟩ :=
    exists_numeral x.isNegative x.shortest.1 x.shortest.2
  have hread := Numeral.ofChars?_chars hwell
  rw [htext, ← jsonText_eq] at hread
  refine ⟨numeral, hread, ?_⟩
  by_cases hgreat : x ∈ greatest
  · have hvalue := isSome_value?_of_mem_greatest x hgreat
    rw [hread] at hvalue
    exact hvalue
  · exact hrange (decimal_shortest_le_safeBound h hgreat)

end Texts

end NplLifecycle.Json
