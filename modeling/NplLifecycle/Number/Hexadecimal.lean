/-!
# Numbers in hexadecimal

Escapes, code points and address pieces are written in base sixteen.  Digits are read in either
case; what is written has no leading zeros, in the case that its place asks for.
-/

namespace NplLifecycle.Number

def hexDigit? (c : Char) : Option Nat :=
  if '0' ≤ c ∧ c ≤ '9' then some (c.toNat - '0'.toNat)
  else if 'a' ≤ c ∧ c ≤ 'f' then some (c.toNat - 'a'.toNat + 10)
  else if 'A' ≤ c ∧ c ≤ 'F' then some (c.toNat - 'A'.toNat + 10)
  else none

/-- The number written by digits below a base of at most sixteen, the most significant first;
nothing is written by no digits. -/
def readInBase? (base : Nat) (digits : List Char) : Option Nat :=
  if digits.isEmpty then none
  else
    (digits.mapM fun c => (hexDigit? c).filter (· < base)).map
      (·.foldl (fun soFar digit => soFar * base + digit) 0)

/-- The number written in base sixteen by digits alone, the most significant first; nothing is
written by no digits. -/
def readHex? (digits : List Char) : Option Nat :=
  readInBase? 16 digits

def lowerHexDigit (n : Nat) : Char :=
  if n < 10 then Char.ofNat ('0'.toNat + n) else Char.ofNat ('a'.toNat + (n - 10))

def upperHexDigit (n : Nat) : Char :=
  if n < 10 then Char.ofNat ('0'.toNat + n) else Char.ofNat ('A'.toNat + (n - 10))

def hexDigits (n : Nat) : List Char :=
  if _h : n < 16 then [lowerHexDigit n] else hexDigits (n / 16) ++ [lowerHexDigit (n % 16)]
termination_by n

end NplLifecycle.Number
