import NplLifecycle.Uri.Authority
import NplLifecycle.Uri.FilePath

/-!
# Document addresses

An editor names a document by an address such as `file:///proj/main.npl`.  Addresses are read as
leniently as editors write them: blanks around them and line breaks inside are dropped, the
scheme may be in any case, dot segments of a path are resolved, and characters that may not stand
in an address are escaped.
-/

namespace NplLifecycle.Uri

structure Address where
  /-- The scheme in lower case. -/
  scheme : String
  /-- The written form of the address of a file.  Other addresses are only checked, and stay as
  they were typed. -/
  text : String
  deriving DecidableEq, Repr, Inhabited

namespace Address

def queryReserved : List Char := " \"#<>'".toList

def fragmentReserved : List Char := " \"<>\x60".toList

def webSchemes : List String := ["http", "https", "ws", "wss", "ftp"]

def trim (text : List Char) : List Char :=
  let isDropped := fun c : Char => c.toNat ≤ 0x20
  ((text.dropWhile isDropped).reverse.dropWhile isDropped).reverse

def plain (text : List Char) : List Char :=
  text.filter (! FilePath.isDropped ·)

def endsPath (c : Char) : Bool :=
  c == '?' || c == '#'

def writeTail (tail : List Char) : List Char :=
  let query := (tail.takeWhile (· ≠ '#')).drop 1
  let hasQuery := tail.head? = some '?'
  let fragment := tail.dropWhile (· ≠ '#')
  (if hasQuery then '?' :: query.flatMap (escapeChar queryReserved) else []) ++
    (match fragment with
      | [] => []
      | _ :: fragment => '#' :: fragment.flatMap (escapeChar fragmentReserved))

/-- The written form of the address of a file: the host, unless the path stands for one, the path,
and the rest. -/
def writeFile (host : List Char) (text : List Char) : List Char :=
  let (path, isHost) := FilePath.write (text.takeWhile (! endsPath ·))
  "file://".toList ++ (if isHost then [] else host) ++ path ++
    writeTail (plain (text.dropWhile (! endsPath ·)))

/-- Reads the host of a file's address: none for an empty host and for this computer. -/
def fileHost? (typed : List Char) : Option (Option Host) :=
  if typed.isEmpty then some none
  else
    (Host.ofText? typed).map fun host =>
      if host = Host.name "localhost".toList then none else some host

/-- Drops a separator in front, if there is one; what is dropped anyway may stand before it. -/
def dropSeparator? (text : List Char) : Option (List Char) :=
  match text.dropWhile FilePath.isDropped with
  | [] => none
  | c :: rest => if FilePath.isSeparator c then some rest else none

/-- Reads what follows two slashes behind `file:`.  A drive letter is no host. -/
def fileWithHost? (text : List Char) : Option (List Char) :=
  let isEnd := fun c : Char => FilePath.isSeparator c || endsPath c
  let typed := plain (text.takeWhile (! isEnd ·))
  if FilePath.isDrive typed then some (writeFile [] text)
  else
    let behind := text.dropWhile (! isEnd ·)
    (fileHost? typed).map fun host =>
      match host with
      | none => writeFile [] behind
      | some host => writeFile host.write ((dropSeparator? behind).getD behind)

def file? (text : List Char) : Option (List Char) :=
  match dropSeparator? text with
  | none => some (writeFile [] text)
  | some rest =>
    match dropSeparator? rest with
    | none => some (writeFile [] rest)
    | some rest => fileWithHost? rest

def isValid (scheme : String) (text : List Char) : Bool :=
  if webSchemes.contains scheme then
    Authority.isValid true (text.dropWhile FilePath.isSeparator)
  else if "//".toList.isPrefixOf text then Authority.isValid false (text.drop 2)
  else true

/-- Cuts a scheme off, which ends at the first colon and begins with a letter. -/
def cutScheme? (text : List Char) : Option (String × List Char) :=
  (Text.cutAt? ':' text).bind fun (typed, rest) =>
    let scheme := plain typed
    if scheme.head?.any isLetter &&
        scheme.all fun c => isLetter c || isDigit c || "+-.".toList.contains c then
      some (String.ofList (scheme.map Text.lowerAscii), rest)
    else none

def ofString? (text : String) : Option Address :=
  let typed := trim text.toList
  (cutScheme? typed).bind fun (scheme, rest) =>
    if scheme = "file" then (file? rest).map fun written => ⟨scheme, String.ofList written⟩
    else if isValid scheme (plain rest) then some ⟨scheme, String.ofList typed⟩
    else none

end Address

end NplLifecycle.Uri
