import NplLifecycle.Path.Basic
import NplLifecycle.Uri.Escape

/-!
# File identifiers

The identifier of a directory is `file://` and the components of its path, each behind a slash
and byte by byte: a byte that is not printable ASCII, or that has a meaning of its own in an
identifier, is written `%XX`.  Brackets, the bar and the caret are left as they are, although a
strict identifier may not hold them.
-/

namespace NplLifecycle.Uri

/-- Is a byte of a path component written as an escape? -/
def isEscaped (b : UInt8) : Bool :=
  b < 0x20 || 0x7E < b || (" \"#<>?\x7b\x7d/%\\\x60".toList.map fun c => c.toNat.toUInt8).contains b

def escapeByte (b : UInt8) : List Char :=
  if isEscaped b then escape b else [Char.ofNat b.toNat]

def segment (component : List UInt8) : List Char :=
  '/' :: component.flatMap escapeByte

/-- The identifier of an absolute path; the root directory is a lone slash. -/
def ofPath? (p : Path) : Option String :=
  if p.isAbsolute then
    let segments := p.components.flatMap segment
    some (String.ofList ("file://".toList ++ if segments = [] then ['/'] else segments))
  else none

end NplLifecycle.Uri
