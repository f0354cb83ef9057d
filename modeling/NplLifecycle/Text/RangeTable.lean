import NplLifecycle.Number.Hexadecimal
import NplLifecycle.Text.Blank

/-!
# Tables over ranges of characters

The Unicode standard says the same about whole ranges of code points.  Such a table is written
down as a text of words with the ranges ascending, `41-5A AA B5`, each with its value behind a
mark if it has one, and a character is looked up by halving.  A character class is a union of up to
a thousand ranges, a table that says nothing more about them.
-/

namespace NplLifecycle.Text

/-- The code points between two ends, both included. -/
structure CharRange where
  first : Nat
  last : Nat
  deriving DecidableEq, Repr, Inhabited

/-- Reads a range, `300-36F`, or a single code point, `AD`. -/
def CharRange.ofChars? (written : List Char) : Option CharRange :=
  match (pieces '-' written).map Number.readHex? with
  | [some only] => some ⟨only, only⟩
  | [some first, some last] => some ⟨first, last⟩
  | _ => none

structure RangeTable (α : Type) where
  /-- The ranges, ascending and apart, with what is said about each. -/
  entries : Array (CharRange × α)

namespace RangeTable

variable {α : Type}

def ofText (readEntry : List Char → Option (CharRange × α)) (written : String) : RangeTable α :=
  ⟨((words written.toList).filterMap readEntry).toArray⟩

/-- Looks a code point up among the entries from place `low` up to place `high`. -/
def findBetween? (entries : Array (CharRange × α)) (code low high : Nat) :
    Option (CharRange × α) :=
  if low < high then
    let middle := (low + high) / 2
    match entries[middle]? with
    | none => none
    | some entry =>
      if code < entry.1.first then findBetween? entries code low middle
      else if entry.1.last < code then findBetween? entries code (middle + 1) high
      else some entry
  else none
termination_by high - low

def find? (table : RangeTable α) (c : Char) : Option (CharRange × α) :=
  findBetween? table.entries c.toNat 0 table.entries.size

/-- Reads `300-314=E6`: a range, and behind the mark what is said about all of it. -/
def markedEntry? (readValue : List Char → Option α) (written : List Char) :
    Option (CharRange × α) :=
  (cutAt? '=' written).bind fun (range, value) =>
    (CharRange.ofChars? range).bind fun range => (readValue value).map fun value => (range, value)

end RangeTable

/-- Reads characters written as their code points with a plus between them. -/
def codePoints? (written : List Char) : Option (List Char) :=
  (pieces '+' written).mapM fun code => (Number.readHex? code).map Char.ofNat

structure CharSet where
  /-- The ranges of the set. -/
  table : RangeTable Unit

namespace CharSet

/-- Reads a set written as its ranges with blanks between them. -/
def ofText (written : String) : CharSet :=
  ⟨.ofText (fun range => (CharRange.ofChars? range).map fun range => (range, ())) written⟩

def contains (set : CharSet) (c : Char) : Bool :=
  (set.table.find? c).isSome

end CharSet

end NplLifecycle.Text
