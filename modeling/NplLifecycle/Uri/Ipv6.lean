import NplLifecycle.Number.Decimal
import NplLifecycle.Number.Hexadecimal
import NplLifecycle.Text.Blank

/-!
# Host numbers of eight groups

In brackets a host is named by a number of eight groups of sixteen bits in hexadecimal, with
colons between them.  Two colons stand for groups of zeros, as many as are missing and at least
one, and the last two groups may be written as four bytes in decimal.  A number is written with
its longest row of zero groups left out, the first one of several, unless there is only one group
in it.
-/

namespace NplLifecycle.Uri.Ipv6

def groupCount : Nat := 8

def readByte? (digits : List Char) : Option Nat :=
  if digits.head? = some '0' ∧ 1 < digits.length then none
  else (Number.readInBase? 10 digits).filter (· < 256)

def readBytes? (piece : List Char) : Option (List Nat) :=
  match (Text.pieces '.' piece).mapM readByte? with
  | some [a, b, c, d] => some [a * 256 + b, c * 256 + d]
  | _ => none

/-- Reads a piece between colons: a group, or the last two as bytes. -/
def readPiece? (isLast : Bool) (piece : List Char) : Option (List Nat) :=
  if isLast && piece.contains '.' then readBytes? piece
  else if piece.length ≤ 4 then (Number.readHex? piece).map fun group => [group]
  else none

def readPieces? (isEnd : Bool) : List (List Char) → Option (List Nat)
  | [] => some []
  | piece :: rest =>
    (readPiece? (isEnd && rest.isEmpty) piece).bind fun groups =>
      (readPieces? isEnd rest).map (groups ++ ·)

/-- Drops the empty piece that two colons at an end leave beside the empty piece between them; one
colon at an end is a fault. -/
def dropEdge? : List (List Char) → Option (List (List Char))
  | [] :: [] :: rest => some ([] :: rest)
  | [] :: _ => none
  | pieces => some pieces

def ofText? (text : List Char) : Option (List Nat) :=
  (dropEdge? (Text.pieces ':' text)).bind fun pieces =>
    (dropEdge? pieces.reverse).bind fun reversed =>
      let pieces := reversed.reverse
      let front := pieces.takeWhile (! ·.isEmpty)
      match pieces.dropWhile (! ·.isEmpty) with
      | [] => (readPieces? true front).filter (·.length = groupCount)
      | _ :: back =>
        (readPieces? false front).bind fun front =>
          (readPieces? true back).bind fun back =>
            let given := front.length + back.length
            if given < groupCount then
              some (front ++ List.replicate (groupCount - given) 0 ++ back)
            else none

/-- Where the longest row of zeros begins and how long it is; the first one of several. -/
def longestZeros (groups : List Nat) : Nat × Nat :=
  let rows := (List.range groups.length).map fun start =>
    (start, ((groups.drop start).takeWhile (· = 0)).length)
  rows.foldl (fun best row => if best.2 < row.2 then row else best) (0, 0)

def writeGroups (groups : List Nat) : List Char :=
  [':'].intercalate (groups.map Number.hexDigits)

def write (groups : List Nat) : List Char :=
  let (start, count) := longestZeros groups
  if count < 2 then writeGroups groups
  else
    writeGroups (groups.take start) ++ [':', ':'] ++ writeGroups (groups.drop (start + count))

end NplLifecycle.Uri.Ipv6
