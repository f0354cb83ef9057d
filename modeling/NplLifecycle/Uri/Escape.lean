import NplLifecycle.Number.Hexadecimal
import NplLifecycle.Text.Utf8

/-!
# Escapes in addresses

A character that may not stand in a part of an address is written there as the escapes `%XX` of
its bytes.
-/

namespace NplLifecycle.Uri

open Number (hexDigit? upperHexDigit)

def escape (b : UInt8) : List Char :=
  ['%', upperHexDigit (b.toNat / 16), upperHexDigit (b.toNat % 16)]

/-- Escapes a character that is not printable ASCII or is reserved. -/
def escapeChar (reserved : List Char) (c : Char) : List Char :=
  if c.toNat < 0x20 || 0x7E < c.toNat || reserved.contains c then
    (Text.encode c.toString).flatMap escape
  else [c]

/-- The bytes of a text whose escapes are read; a percent sign that begins no escape stands for
itself. -/
def unescape : List Char → List UInt8
  | '%' :: high :: low :: rest =>
    match hexDigit? high, hexDigit? low with
    | some high, some low => (high * 16 + low).toUInt8 :: unescape rest
    | _, _ => '%'.toNat.toUInt8 :: unescape (high :: low :: rest)
  | c :: rest => Text.encode c.toString ++ unescape rest
  | [] => []

end NplLifecycle.Uri
