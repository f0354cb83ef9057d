import NplLifecycle.Text.Blank
import NplLifecycle.Text.Utf8
import NplLifecycle.Number.Decimal

/-!
# Frame headers

A message travels behind a block of header lines that ends at the first empty line.  Only the
length matters: the first line whose name is `Content-Length`, in any case and with blanks around
it, says how many bytes the body has.
-/

namespace NplLifecycle.Frame

/-- The greatest body that is accepted: 64 MiB. -/
def maxBody : Nat := 64 * 1024 * 1024

/-- Why a frame yields no message. -/
inductive Fault where
  | headerNotText
  | lengthMissing
  | lengthInvalid
  | lengthTooLarge (length : Nat)
  | bodyNotText
  deriving DecidableEq, Repr

def Fault.message : Fault → String
  | .headerNotText => "Failed to parse headers as UTF-8"
  | .lengthMissing => "Missing Content-Length header"
  | .lengthInvalid => "Invalid Content-Length header"
  | .lengthTooLarge length =>
    "Invalid Content-Length header: " ++ toString length ++ " exceeds " ++ toString maxBody ++
      " bytes"
  | .bodyNotText => "Message body is not UTF-8"

/-- Splits a stream at its first `\r\n\r\n`, which is dropped; `none` while there is none. -/
def splitHeader? : List UInt8 → Option (List UInt8 × List UInt8)
  | [] => none
  | 13 :: 10 :: 13 :: 10 :: rest => some ([], rest)
  | b :: rest => (splitHeader? rest).map fun (header, body) => (b :: header, body)

def lengthField? (line : List Char) : Option (List Char) :=
  (Text.cutAt? ':' line).bind fun (name, value) =>
    if Text.sameIgnoringCase (Text.trim name) "content-length".toList then
      some (Text.trim value)
    else none

/-- The lengths are those of a 64-bit machine. -/
def lengthBound : Nat := Nat.pow 2 64

def announcedLength (header : List UInt8) : Except Fault Nat :=
  match Text.decode? header with
  | none => .error .headerNotText
  | some text =>
    match (Text.lines text.toList).findSome? lengthField? with
    | none => .error .lengthMissing
    | some value =>
      match Number.readUnsigned? lengthBound value with
      | none => .error .lengthInvalid
      | some length => if maxBody < length then .error (.lengthTooLarge length) else .ok length

end NplLifecycle.Frame
