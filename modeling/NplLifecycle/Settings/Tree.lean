import NplLifecycle.Json.Basic
import NplLifecycle.Number.Shortest
import NplLifecycle.Number.Decimal
import NplLifecycle.Text.Blank

/-!
# Layered settings

Settings come in layers: defaults, the user's file, the folder's file, the environment.  Layers
are merged into one tree.  Tables merge member by member and anything else replaces what was
there.  The name of a value is an expression such as `server.debouncing.time.ms` or `list[-1]`; a
name that is no expression is a single member's name.
-/

namespace NplLifecycle.Settings

open Number (Binary64)

inductive Tree where
  | nothing
  | bool (b : Bool)
  | int (n : Int)
  | float (x : Binary64)
  | text (s : String)
  | list (items : List Tree)
  | table (members : List (String × Tree))
  deriving Inhabited

namespace Tree

mutual

def ofJson : Json → Tree
  | .null => .nothing
  | .bool b => .bool b
  | .int n => .int n
  | .float x => .float x
  | .str s => .text s
  | .arr items => .list (ofItems items)
  | .obj members => .table (ofMembers members)

def ofItems : List Json → List Tree
  | [] => []
  | item :: rest => ofJson item :: ofItems rest

def ofMembers : List (String × Json) → List (String × Tree)
  | [] => []
  | (name, item) :: rest => (name, ofJson item) :: ofMembers rest

end

def members : Tree → List (String × Tree)
  | .table members => members
  | _ => []

def items : Tree → List Tree
  | .list items => items
  | _ => []

/-- Changes the member of that name, which is nothing if it is missing. -/
def adjust (name : String) (change : Tree → Tree) : List (String × Tree) → List (String × Tree)
  | [] => [(name, change .nothing)]
  | (other, old) :: rest =>
    if other = name then (other, change old) :: rest
    else (other, old) :: adjust name change rest

mutual

/-- Puts a value over another: a table is merged into a table, or into an empty one where none
was; anything else replaces. -/
def merge (below : Tree) : Tree → Tree
  | .table above => .table (mergeMembers below.members above)
  | above => above

def mergeMembers (below : List (String × Tree)) :
    List (String × Tree) → List (String × Tree)
  | [] => below
  | (name, above) :: rest => mergeMembers (adjust name (merge · above) below) rest

end

inductive Step where
  | member (name : String)
  | item (index : Int)
  deriving DecidableEq, Repr

/-- Changes the item at an index; a negative index counts from the end.  A list that is too short
grows at the end, or in front for a negative index. -/
def adjustItem (index : Int) (change : Tree → Tree) (items : List Tree) : List Tree :=
  let position := if 0 ≤ index then index else items.length + index
  if position < 0 then
    change .nothing :: (List.replicate ((-position).toNat - 1) .nothing ++ items)
  else
    let at' := position.toNat
    let grown := items ++ List.replicate (at' + 1 - items.length) .nothing
    grown.take at' ++ change (grown.getD at' .nothing) :: grown.drop (at' + 1)

/-- Changes the value that steps lead to; what is in the way becomes a table or a list. -/
def adjustAt (change : Tree → Tree) : List Step → Tree → Tree
  | [], tree => change tree
  | .member name :: rest, tree => .table (adjust name (adjustAt change rest) tree.members)
  | .item index :: rest, tree => .list (adjustItem index (adjustAt change rest) tree.items)

def isNameChar (c : Char) : Bool :=
  ('a' ≤ c && c ≤ 'z') || ('A' ≤ c && c ≤ 'Z') || ('0' ≤ c && c ≤ '9') || c == '_' || c == '-'

def isBracketBlank (c : Char) : Bool :=
  c == ' ' || c == '\t'

def index? (text : List Char) : Option Int :=
  let inner := ((text.dropWhile isBracketBlank).reverse.dropWhile isBracketBlank).reverse
  let (negative, digits) := match inner with
    | '-' :: rest => (true, rest)
    | other => (false, other)
  if digits.isEmpty then none
  else (Number.readDigits 0 digits).bind fun n =>
    if negative then (if n ≤ Nat.pow 2 63 then some (-n) else none)
    else if n < Nat.pow 2 63 then some n else none

def steps? (text : List Char) : Option (List Step) :=
  match text with
  | [] => some []
  | '.' :: rest =>
    let name := rest.takeWhile isNameChar
    if name.isEmpty then none
    else (steps? (rest.dropWhile isNameChar)).map (.member (String.ofList name) :: ·)
  | '[' :: rest =>
    (index? (rest.takeWhile (· ≠ ']'))).bind fun index =>
      match _h : rest.dropWhile (· ≠ ']') with
      | [] => none
      | _ :: after => (steps? after).map (.item index :: ·)
  | _ => none
termination_by text.length
decreasing_by
  · have := Text.length_dropWhile_le isNameChar rest
    simp only [List.length_cons]
    omega
  · have := Text.length_dropWhile_le (· ≠ ']') rest
    rw [_h] at this
    simp only [List.length_cons] at this ⊢
    omega

/-- The steps that a name stands for: those of the expression, or one for the whole name. -/
def stepsOf (name : String) : List Step :=
  let chars := name.toList
  let first := chars.takeWhile isNameChar
  let read := if first.isEmpty then none else steps? (chars.dropWhile isNameChar)
  read.elim [.member name] (.member (String.ofList first) :: ·)

def set (tree : Tree) (name : String) (value : Tree) : Tree :=
  adjustAt (merge · value) (stepsOf name) tree

/-- Puts the members of a layer over a tree, one by one. -/
def setAll (tree : Tree) (layer : List (String × Tree)) : Tree :=
  layer.foldl (fun below member => below.set member.1 member.2) tree

def asText? : Tree → Option String
  | .text s => some s
  | .bool b => some (if b then "true" else "false")
  | .int n => some (Number.integerText n)
  | .float x => some x.plainText
  | _ => none

/-- The words that stand for a truth value where a number is asked for. -/
def truthWord? (text : String) : Option Nat :=
  let lower := text.toList.map Text.lowerAscii
  if ["true", "on", "yes"].any (·.toList == lower) then some 1
  else if ["false", "off", "no"].any (·.toList == lower) then some 0
  else none

/-- A scalar as an unsigned number of 64 bits: a double is rounded and kept within range. -/
def asCount? : Tree → Option Nat
  | .int n => if 0 ≤ n then some n.toNat else none
  | .bool b => some (if b then 1 else 0)
  | .float x => some (if x.isNegative then 0 else min x.roundHalfUp (Nat.pow 2 64 - 1))
  | .text s => (truthWord? s).orElse fun _ => Number.readUnsigned? (Nat.pow 2 64) s.toList
  | _ => none

end Tree

end NplLifecycle.Settings
