import NplLifecycle.Json.Basic
import NplLifecycle.Number.Decimal

/-!
# Numerals

The number that a numeral stands for.  Without point and exponent it is an integer if it fits 64
bits; everything else is a double.  A double is computed in two roundings: the digits that fit 64
bits are rounded to a double, and that double is multiplied or divided by a rounded power of ten.
A magnitude beyond the greatest double is refused.
-/

namespace NplLifecycle.Json

open Number (Binary64 digit?)

structure Numeral where
  negative : Bool
  /-- The digits in front of the point: one at least, and no zero in front of others. -/
  whole : List Char
  /-- The digits behind the point, if there is one. -/
  fraction : Option (List Char)
  /-- The sign and the digits of the exponent, if there is one. -/
  exponent : Option (Bool × List Char)
  deriving DecidableEq, Repr

def spanDigits (text : List Char) : List Char × List Char :=
  text.span fun c => '0' ≤ c && c ≤ '9'

/-- Reads a numeral's exponent and the end of the text behind it. -/
def Numeral.exponentOf? (text : List Char) : Option (Option (Bool × List Char)) :=
  match text with
  | [] => some none
  | e :: rest =>
    if e ≠ 'e' ∧ e ≠ 'E' then none
    else
      let (negative, rest) := match rest with
        | '+' :: rest => (false, rest)
        | '-' :: rest => (true, rest)
        | rest => (false, rest)
      let (digits, after) := spanDigits rest
      if digits.isEmpty || ! after.isEmpty then none else some (some (negative, digits))

/-- The parts of a numeral; `none` for a text that is none. -/
def Numeral.ofChars? (text : List Char) : Option Numeral :=
  let (negative, text) := match text with
    | '-' :: rest => (true, rest)
    | text => (false, text)
  let (whole, rest) := spanDigits text
  if whole.isEmpty then none
  else if whole.head? = some '0' ∧ 1 < whole.length then none
  else
    match rest with
    | '.' :: rest =>
      let (fraction, rest) := spanDigits rest
      if fraction.isEmpty then none
      else (exponentOf? rest).map fun exponent => ⟨negative, whole, some fraction, exponent⟩
    | rest => (exponentOf? rest).map fun exponent => ⟨negative, whole, none, exponent⟩

/-- Appends digits to a number as long as it stays below `bound`; gives the number and the digits
left over. -/
def takeBelow (bound soFar : Nat) : List Char → Nat × List Char
  | [] => (soFar, [])
  | c :: rest =>
    let next := soFar * 10 + (digit? c).getD 0
    if next < bound then takeBelow bound next rest else (soFar, c :: rest)

/-- The greatest power of ten that a double holds is `10 ^ 308`. -/
def powerOfTen (n : Nat) : Binary64 :=
  Binary64.ofNat (Nat.pow 10 n)

/-- Divides by `10 ^ n`, by `10 ^ 308` first as long as `n` is greater. -/
def divideByPower (x : Binary64) (n : Nat) : Binary64 :=
  if x.mantissa = 0 then x
  else if n ≤ 308 then x.div (powerOfTen n)
  else divideByPower (x.div (powerOfTen 308)) (n - 308)
termination_by n

/-- The double nearest to `significand`, times `10 ^ exponent`; `none` beyond the greatest
double. -/
def doubleOf? (significand : Nat) (exponent : Int) : Option Binary64 :=
  let x := Binary64.ofNat significand
  if exponent < 0 then some (divideByPower x exponent.natAbs)
  else if exponent ≤ 308 then
    let scaled := x.mul (powerOfTen exponent.toNat)
    if scaled.isFinite then some scaled else none
  else if x.mantissa = 0 then some x
  else none

/-- The magnitude of a numeral that is no integer, from the digits read so far and the exponent
that they count from. -/
def Numeral.magnitude? (numeral : Numeral) (significand : Nat) (shift : Int) : Option Binary64 :=
  match numeral.exponent with
  | none => doubleOf? significand shift
  | some (negative, digits) =>
    match takeBelow (Nat.pow 2 31) 0 digits with
    | (n, []) => doubleOf? significand (if negative then shift - n else shift + n)
    | _ => if significand ≠ 0 ∧ ! negative then none else some ⟨0⟩

/-- The number that a numeral stands for; `none` if it is out of range. -/
def Numeral.value? (numeral : Numeral) : Option Json :=
  let (significand, unread) := takeBelow (Nat.pow 2 64) 0 numeral.whole
  let signed := fun x : Binary64 => Json.float (if numeral.negative then x.negate else x)
  match numeral.fraction with
  | some fraction =>
    let (significand, dropped) := takeBelow (Nat.pow 2 64) significand fraction
    let read := fraction.length - dropped.length
    (numeral.magnitude? significand (unread.length - read)).map signed
  | none =>
    if numeral.exponent.isSome ∨ unread ≠ [] then
      (numeral.magnitude? significand unread.length).map signed
    else if ! numeral.negative then some (.int significand)
    else if 0 < significand ∧ significand ≤ Nat.pow 2 63 then some (.int (-significand))
    else some (signed (Binary64.ofNat significand))

end NplLifecycle.Json
