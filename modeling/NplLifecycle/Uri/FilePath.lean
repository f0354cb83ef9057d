import NplLifecycle.Text.Blank
import NplLifecycle.Uri.Escape
import NplLifecycle.Uri.Strict

/-!
# Paths of file addresses

A path is a row of segments with slashes between them.  Dot segments are resolved, a drive letter
is never taken back, and one that comes first stands for a host of its own.  Tabs and line breaks
are dropped; where one stands directly behind a first drive letter, what follows is a segment of
its own and is taken as it is.
-/

namespace NplLifecycle.Uri.FilePath

def reserved : List Char := " \"<>\x60#?\x7b\x7d".toList

def isSeparator (c : Char) : Bool :=
  c == '/' || c == '\\'

def isDropped (c : Char) : Bool :=
  c == '\t' || c == '\n' || c == '\r'

def isDot (segment : List Char) : Bool :=
  segment == ['.'] || segment.map Text.lowerAscii == "%2e".toList

def isDoubleDot (segment : List Char) : Bool :=
  let lower := segment.map Text.lowerAscii
  ["..", ".%2e", "%2e.", "%2e%2e"].any fun form => form.toList == lower

/-- Is a segment a drive letter with a colon or a bar? -/
def isDrive (segment : List Char) : Bool :=
  match segment with
  | [letter, mark] => isLetter letter && (mark == ':' || mark == '|')
  | _ => false

def segments : List Char → List (List Char)
  | [] => [[]]
  | c :: rest =>
    if isSeparator c then [] :: segments rest
    else
      match segments rest with
      | [] => [[c]]
      | first :: others => (c :: first) :: others

/-- Takes the last segment back, unless it is a drive letter. -/
def takeBack (done : List (List Char)) : List (List Char) :=
  match done with
  | [] => []
  | last :: before => if isDrive last then done else before

/-- Cuts a segment behind a drive letter with a colon that a dropped character follows, if there
is anything behind. -/
def cutDrive? (segment : List Char) : Option (List Char × List Char) :=
  match segment.filter (! isDropped ·) with
  | letter :: ':' :: c :: rest =>
    let behindColon := (segment.dropWhile (· ≠ ':')).drop 1
    if isLetter letter ∧ behindColon.head?.any isDropped then some ([letter, ':'], c :: rest)
    else none
  | _ => none

/-- A segment that is no dot segment in its written form, as the first one of a path or not; also
tells whether it stands for a host. -/
def writeSegment (isFirst : Bool) (segment : List Char) : List Char × Bool :=
  match segment with
  | [letter, _] =>
    if isFirst && isDrive segment then ([letter, ':'], true)
    else (segment.flatMap (escapeChar reserved), false)
  | _ => (segment.flatMap (escapeChar reserved), false)

/-- Resolves segments; `done` holds those of the path so far, the last first.  Gives the segments
of the path, and whether one of them stands for a host. -/
def resolve (done : List (List Char)) : List (List Char) → List (List Char) × Bool
  | [] => (done.reverse, false)
  | segment :: rest =>
    let plain := segment.filter (! isDropped ·)
    let endOpen := fun done : List (List Char) => if rest.isEmpty then [] :: done else done
    match if done.isEmpty then cutDrive? segment else none with
    | some (drive, behind) =>
      resolve (behind.flatMap (escapeChar reserved) :: drive :: done) rest
    | none =>
      if isDoubleDot plain then resolve (endOpen (takeBack done)) rest
      else if isDot plain then resolve (endOpen done) rest
      else
        let (written, isHost) := writeSegment done.isEmpty plain
        let (path, restIsHost) := resolve (written :: done) rest
        (path, isHost || restIsHost)

/-- The written form of a path: one slash in front however many there are, and one between the
segments.  Also tells whether the path stands for a host. -/
def write (path : List Char) : List Char × Bool :=
  let (resolved, isHost) := resolve [] (segments path)
  ('/' :: (['/'].intercalate resolved).dropWhile (· = '/'), isHost)

end NplLifecycle.Uri.FilePath
