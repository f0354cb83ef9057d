import NplLifecycle.Number.Decimal

/-!
# Strict identifiers

The protocol's identifiers follow RFC 3986: a scheme, perhaps an authority behind `//`, a path, a
query and a fragment, each with its own alphabet.  `fault?` gives the index of the first
character that may not stand where it stands.
-/

namespace NplLifecycle.Uri

def isLetter (c : Char) : Bool :=
  ('a' ≤ c && c ≤ 'z') || ('A' ≤ c && c ≤ 'Z')

def isDigit (c : Char) : Bool :=
  '0' ≤ c && c ≤ '9'

def isHexDigit (c : Char) : Bool :=
  isDigit c || ('a' ≤ c && c ≤ 'f') || ('A' ≤ c && c ≤ 'F')

/-- The characters that need no escape anywhere. -/
def isUnreserved (c : Char) : Bool :=
  isLetter c || isDigit c || "-._~".toList.contains c

def isSubDelimiter (c : Char) : Bool :=
  "!$&'()*+,;=".toList.contains c

def isSegmentChar (c : Char) : Bool :=
  isUnreserved c || isSubDelimiter c || c == ':' || c == '@'

def isPathChar (c : Char) : Bool :=
  isSegmentChar c || c == '/'

def isQueryChar (c : Char) : Bool :=
  isPathChar c || c == '?'

/-- The characters of user information and of a host name, escapes apart. -/
def isAuthorityChar (c : Char) : Bool :=
  isUnreserved c || isSubDelimiter c || c == ':'

/-- The index of the first character, counted from `index`, that is neither allowed nor part of
an escape `%XX`. -/
def firstFault? (allowed : Char → Bool) (index : Nat) : List Char → Option Nat
  | [] => none
  | '%' :: a :: b :: rest =>
    if isHexDigit a && isHexDigit b then firstFault? allowed (index + 3) rest else some index
  | c :: rest => if allowed c then firstFault? allowed (index + c.utf8Size) rest else some index

def byteCount (text : List Char) : Nat :=
  (text.map Char.utf8Size).foldl (· + ·) 0

/-- The index of the first fault of an authority: user information before `@`, then a host or a
bracketed address, then the number of a service. -/
def authorityFault? (index : Nat) (text : List Char) : Option Nat :=
  let userinfo := if text.contains '@' then text.takeWhile (· ≠ '@') ++ ['@'] else []
  let host := text.drop userinfo.length
  (firstFault? isAuthorityChar index userinfo.dropLast).orElse fun _ =>
    let start := index + byteCount userinfo
    if host.head? = some '[' then
      let inner := (host.drop 1).takeWhile (· ≠ ']')
      let after := host.drop (inner.length + 2)
      (firstFault? (fun c => isHexDigit c || c == ':' || c == '.') (start + 1) inner).orElse
        fun _ => firstFault? (fun c => isDigit c || c == ':') (start + 2 + byteCount inner) after
    else
      let name := host.takeWhile (· ≠ ':')
      (firstFault? (fun c => isUnreserved c || isSubDelimiter c) start name).orElse fun _ =>
        firstFault? isDigit (start + byteCount name + 1) (host.drop (name.length + 1))

/-- The index of the first byte that a strict identifier may not have there; `none` for a strict
identifier. -/
def fault? (text : List Char) : Option Nat :=
  let scheme := text.takeWhile (· ≠ ':')
  let schemeFault := firstFault? (fun c => isLetter c || isDigit c || "+-.".toList.contains c) 0
    scheme
  if scheme.isEmpty || ! isLetter (scheme.headD ' ') || scheme.length = text.length then
    some (schemeFault.getD 0)
  else
    schemeFault.orElse fun _ =>
      let rest := text.drop (scheme.length + 1)
      let start := byteCount scheme + 1
      let endsPart := fun c : Char => c == '/' || c == '?' || c == '#'
      let authority := if "//".toList.isPrefixOf rest then
          (rest.drop 2).takeWhile (! endsPart ·)
        else []
      let skipped := if "//".toList.isPrefixOf rest then authority.length + 2 else 0
      let path := (rest.drop skipped).takeWhile fun c => c ≠ '?' && c ≠ '#'
      let pathStart := start + byteCount (rest.take skipped)
      let afterPath := rest.drop (skipped + path.length)
      let query := if afterPath.head? = some '?' then
          (afterPath.drop 1).takeWhile (· ≠ '#')
        else []
      let queryLength := if afterPath.head? = some '?' then query.length + 1 else 0
      let fragment := (afterPath.drop queryLength).drop 1
      let queryStart := pathStart + byteCount path + 1
      (authorityFault? (start + 2) authority).orElse fun _ =>
        (firstFault? isPathChar pathStart path).orElse fun _ =>
          (firstFault? isQueryChar queryStart query).orElse fun _ =>
            firstFault? isQueryChar
              (pathStart + byteCount path + byteCount (afterPath.take queryLength) + 1) fragment

end NplLifecycle.Uri
