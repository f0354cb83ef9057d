/-!
# Double-precision numbers

A JSON number that is no integer of 64 bits is a double.  A double is kept as its 64 bits and all
arithmetic on it is exact arithmetic on naturals followed by one rounding to nearest, ties to
even, so that equality is decidable and nothing depends on the machine.
-/

namespace NplLifecycle.Number

/-- A double, as the 64 bits of its binary interchange format. -/
structure Binary64 where
  bits : UInt64
  deriving DecidableEq, Repr, Inhabited

namespace Binary64

def isNegative (x : Binary64) : Bool :=
  0x8000000000000000 ≤ x.bits

def exponentBits (x : Binary64) : Nat :=
  x.bits.toNat / Nat.pow 2 52 % Nat.pow 2 11

def fractionBits (x : Binary64) : Nat :=
  x.bits.toNat % Nat.pow 2 52

/-- Neither an infinity nor a NaN. -/
def isFinite (x : Binary64) : Bool :=
  x.exponentBits < 2047

/-- The magnitude of a finite double is `mantissa * 2 ^ exponent`. -/
def mantissa (x : Binary64) : Nat :=
  if x.exponentBits = 0 then x.fractionBits else x.fractionBits + Nat.pow 2 52

/-- The power of two that the mantissa counts. -/
def exponent (x : Binary64) : Int :=
  (max x.exponentBits 1 : Nat) - 1075

/-- The quotient rounded to the nearest natural, a half going to the even one. -/
def divRound (num den : Nat) : Nat :=
  let quotient := num / den
  let rest := num % den
  if 2 * rest < den then quotient
  else if den < 2 * rest then quotient + 1
  else quotient + quotient % 2

/-- `num / den * 2 ^ e` as one fraction. -/
def scale (num den : Nat) (e : Int) : Nat × Nat :=
  if 0 ≤ e then (num * Nat.pow 2 e.toNat, den) else (num, den * Nat.pow 2 (-e).toNat)

/-- The double nearest to `num / den`, a tie going to the even mantissa, and infinity above the
greatest double. -/
def ofFraction (num den : Nat) : Binary64 :=
  if num = 0 then ⟨0⟩
  else
    let guess : Int := (Nat.log2 num : Int) - Nat.log2 den - 53
    let unit := fun e : Int => max e (-1074)
    let count := fun e : Int => let (n, d) := scale num den (-e); n / d
    let exp := if count (unit guess) < Nat.pow 2 53 then unit guess
      else if count (unit (guess + 1)) < Nat.pow 2 53 then unit (guess + 1)
      else unit (guess + 2)
    let (n, d) := scale num den (-exp)
    let m := divRound n d
    let bits := if m < Nat.pow 2 52 then m else (exp + 1074).toNat * Nat.pow 2 52 + m
    if 2047 * Nat.pow 2 52 ≤ bits then ⟨0x7FF0000000000000⟩ else ⟨bits.toUInt64⟩

def ofNat (n : Nat) : Binary64 :=
  ofFraction n 1

def negate (x : Binary64) : Binary64 :=
  ⟨x.bits ^^^ 0x8000000000000000⟩

def fraction (x : Binary64) : Nat × Nat :=
  scale x.mantissa 1 x.exponent

def mul (x y : Binary64) : Binary64 :=
  let (a, b) := x.fraction
  let (c, d) := y.fraction
  ofFraction (a * c) (b * d)

def div (x y : Binary64) : Binary64 :=
  let (a, b) := x.fraction
  let (c, d) := y.fraction
  ofFraction (a * d) (b * c)

/-- The magnitude rounded to the nearest natural, a half going up. -/
def roundHalfUp (x : Binary64) : Nat :=
  let (n, d) := x.fraction
  (2 * n + d) / (2 * d)

end Binary64

end NplLifecycle.Number
