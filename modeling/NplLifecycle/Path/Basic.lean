import NplLifecycle.Text.Utf8

/-!
# Paths

A path is a byte string cut into components by slashes.  Empty components and components `.` say
nothing; `..` is kept, because what it means depends on the file system.  `absolute?` is textual:
it asks for the working directory and for nothing else.
-/

namespace NplLifecycle

structure Path where
  bytes : List UInt8
  deriving DecidableEq, Repr, Inhabited

namespace Path

/-- The byte `/`. -/
def slash : UInt8 := 47

def ofString (text : String) : Path :=
  ⟨Text.encode text⟩

/-- The path as text, with U+FFFD for what is not UTF-8. -/
def display (p : Path) : String :=
  Text.decodeLossy p.bytes

def text? (p : Path) : Option String :=
  Text.decode? p.bytes

def isAbsolute (p : Path) : Bool :=
  p.bytes.head? = some slash

def pieces : List UInt8 → List (List UInt8)
  | [] => [[]]
  | b :: rest =>
    if b = slash then [] :: pieces rest
    else
      match pieces rest with
      | [] => [[b]]
      | first :: others => (b :: first) :: others

/-- Does a piece name something: is it neither empty nor `.`? -/
def isComponent (piece : List UInt8) : Bool :=
  piece ≠ [] && piece ≠ [46]

def components (p : Path) : List (List UInt8) :=
  (pieces p.bytes).filter isComponent

/-- Appends components to a directory, with one slash in front of each where none is yet. -/
def extend (directory : List UInt8) : List (List UInt8) → List UInt8
  | [] => directory
  | name :: rest =>
    let separator := if directory.getLast? = some slash ∨ directory = [] then [] else [slash]
    extend (directory ++ separator ++ name) rest

def endsInSlash (bytes : List UInt8) : Bool :=
  bytes.getLast? = some slash

/-- What an absolute path starts with: exactly two slashes stay two, any other number is one. -/
def rootOf (bytes : List UInt8) : List UInt8 :=
  match bytes with
  | 47 :: 47 :: 47 :: _ => [slash]
  | 47 :: 47 :: _ => [slash, slash]
  | _ => [slash]

/-- The path made absolute against the working directory: components joined by single slashes,
`..` and a slash at the end kept.  The empty path cannot be made absolute. -/
def absolute? (workingDirectory p : Path) : Option Path :=
  if p.bytes = [] then none
  else
    let start := if p.isAbsolute then rootOf p.bytes else workingDirectory.bytes
    let joined := extend start p.components
    some ⟨if endsInSlash p.bytes && ! endsInSlash joined then joined ++ [slash] else joined⟩

/-- The path made absolute, or unchanged if that is not possible. -/
def absoluteOrSame (workingDirectory p : Path) : Path :=
  (absolute? workingDirectory p).getD p

def entry (directory : Path) (name : String) : Path :=
  ⟨extend directory.bytes [Text.encode name]⟩

def parent (p : Path) : Path :=
  ⟨extend (if p.isAbsolute then [slash] else []) p.components.dropLast⟩

/-- The name of what the path leads to, if its last component is a name. -/
def fileName? (p : Path) : Option (List UInt8) :=
  p.components.getLast?.filter (· ≠ [46, 46])

/-- A name cut at its last dot, unless that is in front. -/
def splitName (name : List UInt8) : List UInt8 × Option (List UInt8) :=
  let ending := (name.reverse.takeWhile (· ≠ 46)).reverse
  let stem := name.take (name.length - ending.length - 1)
  if stem = [] then (name, none) else (stem, some ending)

def extension? (p : Path) : Option (List UInt8) :=
  p.fileName?.bind fun name => (splitName name).2

/-- The path with another extension behind the stem of its name; what followed the name is
dropped.  A path without a name stays as it is. -/
def withExtension (p : Path) (extension : String) : Path :=
  match p.fileName? with
  | none => p
  | some name =>
    let before := (pieces p.bytes).reverse.dropWhile fun piece => ! isComponent piece
    let directory := (before.drop 1).reverse.flatMap fun piece => piece ++ [slash]
    ⟨directory ++ (splitName name).1 ++ 46 :: Text.encode extension⟩

def seenFrom (directory p : Path) : Path :=
  if p.isAbsolute then p
  else ⟨directory.bytes ++ (if endsInSlash directory.bytes then [] else [slash]) ++ p.bytes⟩

/-- What the spellings of one path have in common: whether it starts at the root directory, and
its components, with a `.` in front kept. -/
def identity (p : Path) : Bool × List (List UInt8) :=
  let dot := if ! p.isAbsolute && (pieces p.bytes).head? = some [46] then [[46]] else []
  (p.isAbsolute, dot ++ p.components)

def agrees (a b : Path) : Bool :=
  a.identity = b.identity

/-- Is a path the same as another or beneath it, by the texts alone?  Beneath means that a slash
or a backslash follows the other path's text. -/
def isSameOrNested (candidate existing : Path) : Bool :=
  let candidate := candidate.display.toList
  let existing := existing.display.toList
  candidate = existing || (existing ++ ['/']).isPrefixOf candidate ||
    (existing ++ ['\\']).isPrefixOf candidate

end Path

end NplLifecycle
