/-!
# White space

Header values, settings and command lines are trimmed and cut at white space, where white space
means the Unicode property of that name and not the four ASCII characters only.  Every function
here works on lists of characters, so that a proof can follow it by induction.
-/

namespace NplLifecycle.Text

/-- The Unicode property `White_Space`. -/
def isBlank (c : Char) : Bool :=
  let n := c.toNat
  (0x09 ≤ n && n ≤ 0x0D) || n == 0x20 || n == 0x85 || n == 0xA0 || n == 0x1680 ||
  (0x2000 ≤ n && n ≤ 0x200A) || n == 0x2028 || n == 0x2029 || n == 0x202F || n == 0x205F ||
  n == 0x3000

def trimStart (text : List Char) : List Char :=
  text.dropWhile isBlank

def trimEnd (text : List Char) : List Char :=
  (text.reverse.dropWhile isBlank).reverse

def trim (text : List Char) : List Char :=
  trimEnd (trimStart text)

/-- Cuts a text at its first white space, which is dropped; a text without any has an empty
second part. -/
def cutAtBlank (text : List Char) : List Char × List Char :=
  (text.takeWhile (! isBlank ·), (text.dropWhile (! isBlank ·)).drop 1)

/-- The pieces between white space, none of them empty. -/
def words (text : List Char) : List (List Char) :=
  (text.splitBy fun a b => isBlank a == isBlank b).filter fun piece =>
    match piece with
    | [] => false
    | c :: _ => ! isBlank c

/-- The lower-case form of an ASCII letter; any other character is its own. -/
def lowerAscii (c : Char) : Char :=
  if 'A' ≤ c ∧ c ≤ 'Z' then Char.ofNat (c.toNat + 32) else c

/-- Equality of texts that takes an ASCII letter and its other case for the same. -/
def sameIgnoringCase (a b : List Char) : Bool :=
  a.map lowerAscii == b.map lowerAscii

/-- Cuts a text at the first `mark`, which is dropped; `none` if there is no mark. -/
def cutAt? (mark : Char) : List Char → Option (List Char × List Char)
  | [] => none
  | c :: rest =>
    if c = mark then some ([], rest)
    else (cutAt? mark rest).map fun (before, after) => (c :: before, after)

/-- The pieces between the occurrences of `mark`, empty ones included: one more than there are
marks. -/
def pieces (mark : Char) : List Char → List (List Char)
  | [] => [[]]
  | c :: rest =>
    if c = mark then [] :: pieces mark rest
    else
      match pieces mark rest with
      | [] => [[c]]
      | first :: others => (c :: first) :: others

/-- The lines of a text.  A line ends at a line feed, a carriage return in front of it belongs to
the ending, and the text after the last line feed is a line only if there is some. -/
def lines (text : List Char) : List (List Char) :=
  let all := pieces '\n' text
  let ended := all.dropLast.map fun line =>
    if line.getLast? = some '\r' then line.dropLast else line
  match all.getLast? with
  | none | some [] => ended
  | some last => ended ++ [last]

/-- Dropping a front makes nothing longer. -/
theorem length_dropWhile_le {α : Type} (drops : α → Bool) (items : List α) :
    (items.dropWhile drops).length ≤ items.length :=
  (List.dropWhile_sublist drops).length_le

/-- No text has zero pieces. -/
theorem pieces_ne_nil (mark : Char) (text : List Char) : pieces mark text ≠ [] := by
  cases text with
  | nil => simp [pieces]
  | cons c rest =>
    simp only [pieces]
    split
    · simp
    · split <;> simp

end NplLifecycle.Text
