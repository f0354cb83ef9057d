import NplLifecycle.Number.Decimal
import NplLifecycle.Number.Hexadecimal
import NplLifecycle.Text.Blank

/-!
# Host numbers of four bytes

A host may be named by its number, in up to four parts with dots between them, each of them in
decimal, octal or hexadecimal.  Every part but the last is a byte, and the last stands for all
bytes that are left.  A number is written as four bytes in decimal.
-/

namespace NplLifecycle.Uri.Ipv4

/-- Reads a part: hexadecimal behind `0x`, octal behind `0`, decimal otherwise; `0x` alone is
zero. -/
def readPart? : List Char → Option Nat
  | '0' :: 'x' :: digits => if digits.isEmpty then some 0 else Number.readHex? digits
  | '0' :: 'X' :: digits => if digits.isEmpty then some 0 else Number.readHex? digits
  | '0' :: digit :: digits => Number.readInBase? 8 (digit :: digits)
  | digits => Number.readInBase? 10 digits

/-- The parts of a name; a dot at the end is none between parts. -/
def parts (name : List Char) : List (List Char) :=
  let all := Text.pieces '.' name
  if 1 < all.length ∧ all.getLast? = some [] then all.dropLast else all

/-- Is a name meant to be a number?  It is if its last part is one, even one in the wrong base. -/
def isMeant (name : List Char) : Bool :=
  (parts name).getLast?.any fun part =>
    (readPart? part).isSome || (Number.readInBase? 10 part).isSome

def combine? (parts : List Nat) : Option Nat :=
  let front := parts.dropLast
  parts.getLast?.bind fun last =>
    if parts.length ≤ 4 ∧ front.all (· < 256) ∧ last < Nat.pow 256 (4 - front.length) then
      some (front.foldl (fun soFar part => soFar * 256 + part) 0 *
        Nat.pow 256 (4 - front.length) + last)
    else none

def ofName? (name : List Char) : Option Nat :=
  ((parts name).mapM readPart?).bind combine?

def write (number : Nat) : List Char :=
  ['.'].intercalate ([3, 2, 1, 0].map fun place => Number.digits (number / Nat.pow 256 place % 256))

end NplLifecycle.Uri.Ipv4
