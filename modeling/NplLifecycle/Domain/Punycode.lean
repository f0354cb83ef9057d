/-!
# Labels in ASCII

A label with characters beyond ASCII is written in ASCII as its ASCII characters, a hyphen, and
digits that say where the others go: for each of them, in ascending order, how many steps lie
between it and the one before, counted over all places of the label and all code points.  A number
of steps is written in base thirty-six with the least digit first; a digit below a threshold ends
it, and the threshold follows the size of the numbers so far.
-/

namespace NplLifecycle.Domain.Punycode

def isAscii (c : Char) : Bool :=
  c.toNat < 0x80

def digitChar (n : Nat) : Char :=
  if n < 26 then Char.ofNat ('a'.toNat + n) else Char.ofNat ('0'.toNat + (n - 26))

/-- The value of a digit; letters in lower case. -/
def digit? (c : Char) : Option Nat :=
  if 'a' ≤ c ∧ c ≤ 'z' then some (c.toNat - 'a'.toNat)
  else if '0' ≤ c ∧ c ≤ '9' then some (c.toNat - '0'.toNat + 26)
  else none

/-- The threshold for a digit, whose place counts up by thirty-six. -/
def threshold (bias place : Nat) : Nat :=
  if place ≤ bias then 1 else min (place - bias) 26

/-- Every digit can be below its threshold or not. -/
theorem threshold_bounds (bias place : Nat) :
    1 ≤ threshold bias place ∧ threshold bias place ≤ 26 := by
  unfold threshold
  split <;> omega

/-- Scales a number of steps down to where thresholds begin; gives the bias for it. -/
def settleBias (steps place : Nat) : Nat :=
  if _h : 455 < steps then settleBias (steps / 35) (place + 36)
  else place + 36 * steps / (steps + 38)
termination_by steps
decreasing_by omega

/-- The bias after a number of steps, when `count` characters of the label are there. -/
def adapt (steps count : Nat) (isFirst : Bool) : Nat :=
  let damped := if isFirst then steps / 700 else steps / 2
  settleBias (damped + damped / count) 0

def writeSteps (bias place steps : Nat) : List Char :=
  let limit := threshold bias place
  if steps < limit then [digitChar steps]
  else
    digitChar (limit + (steps - limit) % (36 - limit)) ::
      writeSteps bias (place + 36) ((steps - limit) / (36 - limit))
termination_by steps
decreasing_by
  have hbounds := threshold_bounds bias place
  exact Nat.lt_of_le_of_lt (Nat.div_le_self _ _) (by omega)

/-- Reads a number of steps; gives it and the rest. -/
def readSteps (bias place weight soFar : Nat) : List Char → Option (Nat × List Char)
  | [] => none
  | c :: rest =>
    (digit? c).bind fun digit =>
      let limit := threshold bias place
      if digit < limit then some (soFar + digit * weight, rest)
      else readSteps bias (place + 36) (weight * (36 - limit)) (soFar + digit * weight) rest

structure Writer where
  /-- What was written. -/
  written : List Char
  /-- The steps since the last character that was written. -/
  steps : Nat
  bias : Nat
  /-- How many characters of the label were written. -/
  count : Nat
  /-- Was none beyond ASCII written yet? -/
  isFirst : Bool

/-- Passes a character of the label by in the round of a code point. -/
def Writer.pass (code : Nat) (writer : Writer) (c : Char) : Writer :=
  if c.toNat < code then { writer with steps := writer.steps + 1 }
  else if c.toNat = code then
    { written := writer.written ++ writeSteps writer.bias 36 writer.steps
      steps := 0
      bias := adapt writer.steps (writer.count + 1) writer.isFirst
      count := writer.count + 1
      isFirst := false }
  else writer

/-- Writes the characters of a label that have one of the code points, which ascend from `next`
on. -/
def writeRounds (label : List Char) (next : Nat) (writer : Writer) : List Nat → Writer
  | [] => writer
  | code :: rest =>
    let begun := { writer with steps := writer.steps + (code - next) * (writer.count + 1) }
    let done := label.foldl (Writer.pass code) begun
    writeRounds label (code + 1) { done with steps := done.steps + 1 } rest

def encode (label : List Char) : List Char :=
  let basic := label.filter isAscii
  let codes := ((label.filter (! isAscii ·)).map Char.toNat).eraseDups.mergeSort
  let writer : Writer := ⟨[], 0, 72, basic.length, true⟩
  basic ++ (if basic.isEmpty then [] else ['-']) ++ (writeRounds label 0x80 writer codes).written

def char? (code : Nat) : Option Char :=
  if code < 0xD800 ∨ (0xDFFF < code ∧ code < 0x110000) then some (Char.ofNat code) else none

structure Reader where
  /-- The characters that are there. -/
  label : List Char
  /-- The last code point. -/
  code : Nat
  /-- Where a character of that code point goes at the earliest. -/
  place : Nat
  bias : Nat
  /-- Was none beyond ASCII read yet? -/
  isFirst : Bool

/-- Puts a character into the label, so many steps on. -/
def Reader.insert? (reader : Reader) (steps : Nat) : Option Reader :=
  let count := reader.label.length + 1
  let code := reader.code + (reader.place + steps) / count
  let place := (reader.place + steps) % count
  (char? code).map fun c =>
    { label := reader.label.take place ++ c :: reader.label.drop place
      code := code
      place := place + 1
      bias := adapt steps count reader.isFirst
      isFirst := false }

/-- Puts characters into the label as the digits say.  The fuel bounds how many there are. -/
def Reader.insertAll? (reader : Reader) : (fuel : Nat) → List Char → Option Reader
  | _, [] => some reader
  | 0, _ => none
  | fuel + 1, digits =>
    (readSteps reader.bias 36 1 0 digits).bind fun (steps, rest) =>
      (reader.insert? steps).bind (·.insertAll? fuel rest)

/-- Reads a label; the hyphen that counts is the last one, unless nothing stands before it. -/
def decode? (written : List Char) : Option (List Char) :=
  let digits := (written.reverse.takeWhile (· ≠ '-')).reverse
  let basic := written.take (written.length - digits.length - 1)
  let digits := if basic.isEmpty then written else digits
  let reader : Reader := ⟨basic, 0x80, 0, 72, true⟩
  (reader.insertAll? written.length digits).map Reader.label

end NplLifecycle.Domain.Punycode
