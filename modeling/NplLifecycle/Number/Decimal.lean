/-!
# Whole numbers in decimal

Frame lengths, debounce intervals and indices are read as unsigned decimal numbers: at least one
ASCII digit, leading zeros allowed, one `+` in front allowed, and nothing else.  A reader is told
the least number that no longer fits.
-/

namespace NplLifecycle.Number

def digit? (c : Char) : Option Nat :=
  if '0' ≤ c ∧ c ≤ '9' then some (c.toNat - '0'.toNat) else none

/-- The number written by a list of digits, the most significant first, behind a number already
read. -/
def readDigits (soFar : Nat) : List Char → Option Nat
  | [] => some soFar
  | c :: rest => (digit? c).bind fun d => readDigits (soFar * 10 + d) rest

/-- An unsigned number below `bound`. -/
def readUnsigned? (bound : Nat) (text : List Char) : Option Nat :=
  let digits := match text with
    | '+' :: rest => rest
    | other => other
  if digits.isEmpty then none
  else (readDigits 0 digits).filter (· < bound)

def digits (n : Nat) : List Char :=
  Nat.toDigits 10 n

def integerText (n : Int) : String :=
  if n < 0 then "-" ++ String.ofList (digits n.natAbs) else String.ofList (digits n.natAbs)

end NplLifecycle.Number
