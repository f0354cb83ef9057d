/-!
# Bytes and text

Frames, files, paths and environment values are byte strings.  `decode?` reads one as text and
refuses bytes that are not UTF-8; `decodeLossy` never refuses and writes U+FFFD for every part
that cannot be read.
-/

namespace NplLifecycle.Text

def encode (text : String) : List UInt8 :=
  text.toByteArray.data.toList

/-- The text whose UTF-8 bytes are given, if they are those of a text. -/
def decode? (bytes : List UInt8) : Option String :=
  String.fromUTF8? ⟨bytes.toArray⟩

/-- Reading what was written gives the text back. -/
theorem decode?_encode (text : String) : decode? (encode text) = some text := by
  have hbytes : (⟨(encode text).toArray⟩ : ByteArray) = text.toByteArray := by
    simp only [encode, Array.toArray_toList]
  rw [decode?, hbytes, String.fromUTF8?, dif_pos text.isValidUTF8]
  rfl

/-- A byte `10xxxxxx`. -/
def isContinuation (b : UInt8) : Bool :=
  0x80 ≤ b && b ≤ 0xBF

/-- How many bytes the character announced by a leading byte has, and the bounds that its second
byte must keep; `none` if the byte leads no character. -/
def leadingByte (b : UInt8) : Option (Nat × UInt8 × UInt8) :=
  if b < 0x80 then some (1, 0, 0)
  else if 0xC2 ≤ b && b ≤ 0xDF then some (2, 0x80, 0xBF)
  else if b == 0xE0 then some (3, 0xA0, 0xBF)
  else if b == 0xED then some (3, 0x80, 0x9F)
  else if 0xE1 ≤ b && b ≤ 0xEF then some (3, 0x80, 0xBF)
  else if b == 0xF0 then some (4, 0x90, 0xBF)
  else if 0xF1 ≤ b && b ≤ 0xF3 then some (4, 0x80, 0xBF)
  else if b == 0xF4 then some (4, 0x80, 0x8F)
  else none

/-- How many bytes at the front belong to the first character, or to the first part that cannot
be read, with the character's code point in the first case. -/
def firstChar (b : UInt8) (rest : List UInt8) : Nat × Option Nat :=
  match leadingByte b with
  | none => (1, none)
  | some (width, low, high) =>
    if width = 1 then (1, some b.toNat)
    else
      match rest with
      | [] => (1, none)
      | c :: rest =>
        if c < low || high < c then (1, none)
        else if width = 2 then (2, some ((b.toNat % 32) * 64 + c.toNat % 64))
        else
          match rest with
          | [] => (2, none)
          | d :: rest =>
            if ! isContinuation d then (2, none)
            else if width = 3 then
              (3, some ((b.toNat % 16) * 4096 + (c.toNat % 64) * 64 + d.toNat % 64))
            else
              match rest with
              | [] => (3, none)
              | e :: _ =>
                if ! isContinuation e then (3, none)
                else
                  (4, some ((b.toNat % 8) * 262144 + (c.toNat % 64) * 4096 +
                    (d.toNat % 64) * 64 + e.toNat % 64))

/-- Reads bytes as text, with U+FFFD for every longest part that starts no character. -/
def decodeLossyChars (bytes : List UInt8) : List Char :=
  match bytes with
  | [] => []
  | b :: rest =>
    let (width, code) := firstChar b rest
    (code.elim '\uFFFD' Char.ofNat) :: decodeLossyChars (rest.drop (width - 1))
termination_by bytes.length
decreasing_by
  simp only [List.length_drop, List.length_cons]
  omega

/-- Reads bytes as text, with U+FFFD for every part that cannot be read. -/
def decodeLossy (bytes : List UInt8) : String :=
  (decode? bytes).getD (String.ofList (decodeLossyChars bytes))

end NplLifecycle.Text
