import NplLifecycle.Number.Binary64
import NplLifecycle.Number.Decimal

/-!
# The shortest decimal that reads back

A double is written with the fewest digits that read back as the same double, and among decimals
of that length with the one nearest to it.  The reals that round to a double form an interval,
which holds its ends exactly when the mantissa is even; a decimal grid with a point in the
interval has one of the two neighbours of the double in it, so only those are tested.
-/

namespace NplLifecycle.Number.Binary64

/-- Twice the value and twice the two ends of its rounding interval, all over one denominator:
`(low, value, high, denominator)`. -/
def interval (x : Binary64) : Nat × Nat × Nat × Nat :=
  let narrow := x.fractionBits = 0 ∧ 1 < x.exponentBits
  let (unit, den) := scale 1 1 x.exponent
  let value := 4 * x.mantissa * unit
  (value - (if narrow then unit else 2 * unit), value, value + 2 * unit, 4 * den)

/-- Is `digits * 10 ^ e` inside the rounding interval? -/
def readsBack (x : Binary64) (digits : Nat) (e : Int) : Bool :=
  let (low, _, high, den) := x.interval
  let (n, d) := if 0 ≤ e then (digits * Nat.pow 10 e.toNat, 1) else (digits, Nat.pow 10 (-e).toNat)
  let lhs := n * den
  if x.mantissa % 2 = 0 then low * d ≤ lhs && lhs ≤ high * d else low * d < lhs && lhs < high * d

/-- The point of the grid `10 ^ e` nearest to the value that reads back, if there is one. -/
def gridPoint? (x : Binary64) (e : Int) : Option Nat :=
  let (_, value, _, den) := x.interval
  let (n, d) := if 0 ≤ e then (value, den * Nat.pow 10 e.toNat)
    else (value * Nat.pow 10 (-e).toNat, den)
  let below := n / d
  let nearer := divRound n d
  let other := if nearer = below then below + 1 else below
  if readsBack x nearer e then some nearer
  else if readsBack x other e then some other
  else none

/-- The decimal exponent of the leading digit: the `k` with `10 ^ k ≤ value < 10 ^ (k + 1)`. -/
def leadingExponent (x : Binary64) : Int :=
  let (n, d) := x.fraction
  let reach := fun k : Int => if 0 ≤ k then d * Nat.pow 10 k.toNat ≤ n
    else d ≤ n * Nat.pow 10 (-k).toNat
  let guess : Int := ((Nat.log2 n : Int) - Nat.log2 d) * 30103 / 100000
  if reach (guess + 1) then guess + 1
  else if reach guess then guess
  else if reach (guess - 1) then guess - 1
  else guess - 2

/-- Drops zeros at the end of a digit string, counting them into the exponent. -/
def dropZeros (fuel : Nat) (digits : Nat) (e : Int) : Nat × Int :=
  match fuel with
  | 0 => (digits, e)
  | fuel + 1 =>
    if digits ≠ 0 ∧ digits % 10 = 0 then dropZeros fuel (digits / 10) (e + 1) else (digits, e)

/-- The shortest digits and their exponent: the value reads back from `digits * 10 ^ exponent`. -/
def shortest (x : Binary64) : Nat × Int :=
  if x.mantissa = 0 then (0, 0)
  else
    let top := x.leadingExponent
    let found := (List.range 17).findSome? fun (n : Nat) =>
      (x.gridPoint? (top - n)).map fun digits => (digits, top - (n : Int))
    let (digits, e) := found.getD (x.mantissa, 0)
    dropZeros 20 digits e

def zeros (n : Nat) : List Char :=
  List.replicate n '0'

/-- Digits with a decimal point: `digits * 10 ^ e` without an exponent.  `whole` is appended to a
number without a fraction. -/
def positional (digits : Nat) (e : Int) (whole : List Char) : List Char :=
  let ds := Number.digits digits
  if 0 ≤ e then ds ++ zeros e.toNat ++ whole
  else
    let places := (-e).toNat
    if places < ds.length then
      ds.take (ds.length - places) ++ '.' :: ds.drop (ds.length - places)
    else '0' :: '.' :: (zeros (places - ds.length) ++ ds)

/-- The text of a finite double in a JSON document: positional with at least one digit behind the
point from `1e-5` to below `1e16`, and with a signed exponent elsewhere. -/
def jsonText (x : Binary64) : String :=
  let (digits, e) := x.shortest
  let ds := Number.digits digits
  let point : Int := ds.length + e
  let magnitude :=
    if digits = 0 then ['0', '.', '0']
    else if -5 < point ∧ point ≤ 16 then positional digits e ['.', '0']
    else
      let fraction := match ds with
        | lead :: [] => [lead]
        | lead :: more => lead :: '.' :: more
        | [] => []
      let exp := point - 1
      fraction ++ 'e' :: (if exp < 0 then '-' else '+') :: Number.digits exp.natAbs
  String.ofList (if x.isNegative then '-' :: magnitude else magnitude)

/-- The text of a finite double that becomes a string setting: positional, without a point when
there is no fraction. -/
def plainText (x : Binary64) : String :=
  let (digits, e) := x.shortest
  let magnitude := positional digits e []
  String.ofList (if x.isNegative then '-' :: magnitude else magnitude)

end NplLifecycle.Number.Binary64
