import NplLifecycle.Json.Token
import NplLifecycle.Json.Numeral

/-!
# JSON documents

A document is what a text says before anything is asked of it: members stand in the order of the
text and may repeat a name, and numerals are not yet numbers.  Records with fixed fields are read
from documents, because they refuse a field that is given twice and pass over what they do not
know; a JSON value is a document whose members are ordered, whose numerals are in range, whose
strings all have characters, and whose brackets are not nested too deeply.

A record is read from an object, in which none of its fields may be given twice, or from the list
of its fields in their order, which may end early.

The parser keeps the open brackets in a list and looks at each token once.
-/

namespace NplLifecycle.Json

inductive Document where
  | null
  | bool (b : Bool)
  | numeral (number : Numeral)
  /-- A string, as far as it has characters. -/
  | text (s : Option String)
  | list (items : List Document)
  | record (members : List (Option String × Document))
  deriving Inhabited

/-- An open bracket with what was read behind it, the last first. -/
inductive Level where
  | list (items : List Document)
  | record (members : List (Option String × Document))
  | member (members : List (Option String × Document)) (name : Option String)

inductive Expected where
  /-- A value. -/
  | value
  /-- A value or the end of the list just opened. -/
  | firstItem
  /-- A member's name. -/
  | name
  /-- A member's name or the end of the record just opened. -/
  | firstName
  /-- A colon. -/
  | colon
  /-- A comma or a closing bracket, or the end of the text if no bracket is open. -/
  | more

structure Reading where
  levels : List Level
  expected : Expected
  /-- The document, once its last bracket is closed. -/
  done : Option Document

def Reading.complete (value : Document) : List Level → Reading
  | [] => ⟨[], .more, some value⟩
  | .list items :: outer => ⟨.list (value :: items) :: outer, .more, none⟩
  | .member members name :: outer => ⟨.record ((name, value) :: members) :: outer, .more, none⟩
  | .record members :: outer => ⟨.record members :: outer, .more, none⟩

def Reading.value? (levels : List Level) : Token → Option Reading
  | .null => some (complete .null levels)
  | .bool b => some (complete (.bool b) levels)
  | .text chars => some (complete (.text (chars.map String.ofList)) levels)
  | .numeral chars =>
    (Numeral.ofChars? chars).map fun number => complete (.numeral number) levels
  | .openList => some ⟨.list [] :: levels, .firstItem, none⟩
  | .openRecord => some ⟨.record [] :: levels, .firstName, none⟩
  | _ => none

def Reading.step? (reading : Reading) (token : Token) : Option Reading :=
  match reading.expected, reading.levels, token with
  | .firstItem, .list items :: outer, .closeList => some (complete (.list items.reverse) outer)
  | .more, .list items :: outer, .closeList => some (complete (.list items.reverse) outer)
  | .more, .list items :: outer, .comma => some ⟨.list items :: outer, .value, none⟩
  | .firstName, .record members :: outer, .closeRecord =>
    some (complete (.record members.reverse) outer)
  | .more, .record members :: outer, .closeRecord =>
    some (complete (.record members.reverse) outer)
  | .more, .record members :: outer, .comma => some ⟨.record members :: outer, .name, none⟩
  | .firstName, .record members :: outer, .text name
  | .name, .record members :: outer, .text name =>
    some ⟨.member members (name.map String.ofList) :: outer, .colon, none⟩
  | .colon, levels, .colon => some ⟨levels, .value, none⟩
  | .value, levels, token => value? levels token
  | .firstItem, levels, token => value? levels token
  | _, _, _ => none

def Reading.run? (reading : Reading) : List Token → Option Document
  | [] => reading.done
  | token :: rest => (reading.step? token).bind fun next => next.run? rest

def Document.ofChars? (text : List Char) : Option Document :=
  (tokens? text).bind fun tokens => (Reading.mk [] .value none).run? tokens

mutual

/-- The JSON value of a document in which at most `limit` brackets are open anywhere. -/
def Document.value? (limit : Nat) : Document → Option Json
  | .null => some .null
  | .bool b => some (.bool b)
  | .numeral number => number.value?
  | .text s => s.map .str
  | .list items =>
    match limit with
    | 0 => none
    | limit + 1 => (Document.values? limit items).map .arr
  | .record members =>
    match limit with
    | 0 => none
    | limit + 1 => (Document.members? limit members).map Json.ofMembers

def Document.values? (limit : Nat) : List Document → Option (List Json)
  | [] => some []
  | item :: rest =>
    (Document.value? limit item).bind fun value =>
      (Document.values? limit rest).map (value :: ·)

/-- The values of a list of members, still in the order of the text. -/
def Document.members? (limit : Nat) :
    List (Option String × Document) → Option (List (String × Json))
  | [] => some []
  | (name, item) :: rest =>
    name.bind fun name => (Document.value? limit item).bind fun value =>
      (Document.members? limit rest).map ((name, value) :: ·)

end

/-- How many brackets may be open at once. -/
def nestingLimit : Nat := 127

def parse? (text : String) : Option Json :=
  (Document.ofChars? text.toList).bind (Document.value? nestingLimit)

namespace Document

/-- The member of one of the given names; fails if there are several. -/
def field? (names : List String) (members : List (Option String × Document)) :
    Option (Option Document) :=
  match members.filter fun member => member.1.any names.contains with
  | [] => some none
  | [(_, item)] => some (some item)
  | _ => none

/-- The fields of a record, each given by its names, provided that every name in the record has
characters; or the items of a list that has no more items than there are fields. -/
def fields? (names : List (List String)) : Document → Option (List (Option Document))
  | .record members =>
    if members.all fun member => member.1.isSome then names.mapM (field? · members) else none
  | .list items =>
    if names.length < items.length then none
    else some ((List.range names.length).map (items[·]?))
  | _ => none

def text? : Document → Option String
  | .text s => s
  | _ => none

end Document

end NplLifecycle.Json
