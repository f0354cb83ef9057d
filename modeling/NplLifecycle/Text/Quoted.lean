import NplLifecycle.Number.Hexadecimal
import NplLifecycle.Text.Printable

/-!
# Quoted text

How a log line shows a text that came from outside: between quotes, with escapes for what a
terminal would not show as a character of its own.
-/

namespace NplLifecycle.Text

def quoteChar (c : Char) : List Char :=
  if c = '\x00' then ['\\', '0']
  else if c = '\t' then ['\\', 't']
  else if c = '\n' then ['\\', 'n']
  else if c = '\r' then ['\\', 'r']
  else if c = '"' ∨ c = '\\' then ['\\', c]
  else if isPrintable c then [c]
  else "\\u\x7b".toList ++ Number.hexDigits c.toNat ++ ['\x7d']

def quoted (text : String) : String :=
  String.ofList ('"' :: (text.toList.flatMap quoteChar ++ ['"']))

end NplLifecycle.Text
