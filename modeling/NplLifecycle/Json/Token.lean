import NplLifecycle.Number.Hexadecimal
import NplLifecycle.Text.Blank

/-!
# The tokens of JSON

A JSON text is a sequence of marks, strings, numerals and three words, with blanks between them.
Strings are read here, escapes included; a numeral is kept as it is written, because what number
it stands for is asked only where the number is used.  A string with half of a surrogate pair is
well-formed but has no characters; that too matters only where the string is used.
-/

namespace NplLifecycle.Json

inductive Token where
  | openList
  | closeList
  | openRecord
  | closeRecord
  | colon
  | comma
  | null
  | bool (b : Bool)
  /-- A string; it has no characters if an escape in it is half of a surrogate pair. -/
  | text (chars : Option (List Char))
  | numeral (chars : List Char)
  deriving DecidableEq, Repr

/-- The four characters that may stand between tokens. -/
def isGap (c : Char) : Bool :=
  c == ' ' || c == '\n' || c == '\r' || c == '\t'

def hex4? (a b c d : Char) : Option Nat :=
  Number.readHex? [a, b, c, d]

def escape? (c : Char) : Option Char :=
  match c with
  | '"' => some '"'
  | '\\' => some '\\'
  | '/' => some '/'
  | 'b' => some '\x08'
  | 'f' => some '\x0c'
  | 'n' => some '\n'
  | 'r' => some '\r'
  | 't' => some '\t'
  | _ => none

/-- Puts a character in front of a string that may have none. -/
def putFront (c : Char) (read : Option (List Char) × List Char) :
    Option (List Char) × List Char :=
  (read.1.map (c :: ·), read.2)

def withoutChars (read : Option (List Char) × List Char) : Option (List Char) × List Char :=
  (none, read.2)

/-- Reads a string behind its opening quote; gives its characters and what follows the closing
quote.  A control character must be escaped.  Two escapes that are the halves of a surrogate pair
are one character; a half that stands alone is no character, and then the string has none. -/
def scanText : List Char → Option (Option (List Char) × List Char)
  | [] => none
  | '"' :: rest => some (some [], rest)
  | '\\' :: 'u' :: a :: b :: c :: d :: rest =>
    match hex4? a b c d with
    | none => none
    | some unit =>
      if 0xD800 ≤ unit ∧ unit < 0xDC00 then
        match rest with
        | '\\' :: 'u' :: e :: f :: g :: h :: behind =>
          match hex4? e f g h with
          | none => none
          | some low =>
            if 0xDC00 ≤ low ∧ low < 0xE000 then
              (scanText behind).map
                (putFront (Char.ofNat (0x10000 + (unit - 0xD800) * 0x400 + (low - 0xDC00))))
            else (scanText ('\\' :: 'u' :: e :: f :: g :: h :: behind)).map withoutChars
        | other => (scanText other).map withoutChars
      else if 0xDC00 ≤ unit ∧ unit < 0xE000 then (scanText rest).map withoutChars
      else (scanText rest).map (putFront (Char.ofNat unit))
  | '\\' :: c :: rest => (escape? c).bind fun meant => (scanText rest).map (putFront meant)
  | c :: rest => if c.toNat < 0x20 then none else (scanText rest).map (putFront c)

/-- What follows a string is shorter than the string with what follows it. -/
theorem scanText_length {text after : List Char} {chars : Option (List Char)}
    (h : scanText text = some (chars, after)) :
    after.length < text.length := by
  fun_induction scanText text generalizing chars after <;>
    simp_all [Option.map_eq_some_iff, Option.bind_eq_some_iff, putFront, withoutChars] <;> grind

def isNumeralChar (c : Char) : Bool :=
  ('0' ≤ c && c ≤ '9') || c == '-' || c == '+' || c == '.' || c == 'e' || c == 'E'

/-- The tokens of a text; `none` if some part of it is none. -/
def tokens? (text : List Char) : Option (List Token) :=
  match text with
  | [] => some []
  | '[' :: rest => (tokens? rest).map (.openList :: ·)
  | ']' :: rest => (tokens? rest).map (.closeList :: ·)
  | '\x7b' :: rest => (tokens? rest).map (.openRecord :: ·)
  | '\x7d' :: rest => (tokens? rest).map (.closeRecord :: ·)
  | ':' :: rest => (tokens? rest).map (.colon :: ·)
  | ',' :: rest => (tokens? rest).map (.comma :: ·)
  | 'n' :: 'u' :: 'l' :: 'l' :: rest => (tokens? rest).map (.null :: ·)
  | 't' :: 'r' :: 'u' :: 'e' :: rest => (tokens? rest).map (.bool true :: ·)
  | 'f' :: 'a' :: 'l' :: 's' :: 'e' :: rest => (tokens? rest).map (.bool false :: ·)
  | '"' :: rest =>
    match _h : scanText rest with
    | none => none
    | some (chars, after) => (tokens? after).map (.text chars :: ·)
  | c :: rest =>
    if isGap c then tokens? rest
    else if isNumeralChar c then
      (tokens? (rest.dropWhile isNumeralChar)).map
        (.numeral (c :: rest.takeWhile isNumeralChar) :: ·)
    else none
termination_by text.length
decreasing_by
  all_goals simp only [List.length_cons, Nat.lt_add_one]
  all_goals grind [→ scanText_length, Text.length_dropWhile_le]

end NplLifecycle.Json
