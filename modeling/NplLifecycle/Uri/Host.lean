import NplLifecycle.Domain.Name
import NplLifecycle.Uri.Escape
import NplLifecycle.Uri.Ipv4
import NplLifecycle.Uri.Ipv6

/-!
# Hosts

The host in an address is a domain name or a number.  A domain name may be typed with escapes and
in any script.  Schemes that nobody knows may name their hosts as they like, apart from a few
characters.
-/

namespace NplLifecycle.Uri

inductive Host where
  /-- A domain name in ASCII. -/
  | name (text : List Char)
  /-- A number of four bytes. -/
  | ipv4 (number : Nat)
  /-- A number of eight groups. -/
  | ipv6 (groups : List Nat)
  deriving DecidableEq, Repr

namespace Host

def ofBrackets? (text : List Char) : Option Host :=
  if text.getLast? = some ']' then (Ipv6.ofText? (text.drop 1).dropLast).map .ipv6 else none

/-- Reads a domain name or what is meant to be a number. -/
def ofName? (text : List Char) : Option Host :=
  (Text.decode? (unescape text)).bind fun typed =>
    (Domain.toAscii? typed.toList).bind fun name =>
      if name.isEmpty then none
      else if Ipv4.isMeant name then (Ipv4.ofName? name).map .ipv4
      else some (.name name)

def ofText? (text : List Char) : Option Host :=
  if text.head? = some '[' then ofBrackets? text else ofName? text

/-- The characters that no host may have, whatever the scheme. -/
def isForbidden (c : Char) : Bool :=
  "\x00\t\n\r #/:<>?@[\\]^|".toList.contains c

/-- May a text be a host of a scheme that nobody knows? -/
def isPlausible (text : List Char) : Bool :=
  if text.head? = some '[' then (ofBrackets? text).isSome else ! text.any isForbidden

def write : Host → List Char
  | .name text => text
  | .ipv4 number => Ipv4.write number
  | .ipv6 groups => '[' :: (Ipv6.write groups ++ [']'])

end Host

end NplLifecycle.Uri
