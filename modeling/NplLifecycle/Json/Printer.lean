import NplLifecycle.Json.Basic
import NplLifecycle.Number.Hexadecimal
import NplLifecycle.Number.Shortest

/-!
# Writing JSON

A message is written without any blank; a settings file is indented by two blanks a level.  In
both forms members stand in the order of the value, only quotes, backslashes and control
characters are escaped, and a double keeps a point or an exponent so that it reads back as a
double.
-/

namespace NplLifecycle.Json

open Number (lowerHexDigit)

def escape (c : Char) : List Char :=
  if c = '"' then ['\\', '"']
  else if c = '\\' then ['\\', '\\']
  else if c = '\x08' then ['\\', 'b']
  else if c = '\x0c' then ['\\', 'f']
  else if c = '\n' then ['\\', 'n']
  else if c = '\r' then ['\\', 'r']
  else if c = '\t' then ['\\', 't']
  else if c.toNat < 0x20 then
    ['\\', 'u', '0', '0', lowerHexDigit (c.toNat / 16), lowerHexDigit (c.toNat % 16)]
  else [c]

def quoted (s : String) : List Char :=
  '"' :: (s.toList.flatMap escape ++ ['"'])

/-- A value that is neither array nor object. -/
def scalar : Json → List Char
  | .null => "null".toList
  | .bool true => "true".toList
  | .bool false => "false".toList
  | .int n => (Number.integerText n).toList
  | .float x => x.jsonText.toList
  | .str s => quoted s
  | .arr _ | .obj _ => []

mutual

/-- The text of a value without blanks. -/
def chars : Json → List Char
  | .arr items => '[' :: (itemChars items ++ [']'])
  | .obj members => '\x7b' :: (memberChars members ++ ['\x7d'])
  | value => scalar value

def itemChars : List Json → List Char
  | [] => []
  | [item] => chars item
  | item :: rest => chars item ++ ',' :: itemChars rest

def memberChars : List (String × Json) → List Char
  | [] => []
  | [(name, value)] => quoted name ++ ':' :: chars value
  | (name, value) :: rest => quoted name ++ ':' :: (chars value ++ ',' :: memberChars rest)

end

/-- The text of a value without blanks. -/
def compact (value : Json) : String :=
  String.ofList (chars value)

def newLine (level : Nat) : List Char :=
  '\n' :: List.replicate (2 * level) ' '

mutual

/-- The indented text of a value whose first line stands at the given level. -/
def prettyChars (level : Nat) : Json → List Char
  | .arr [] => ['[', ']']
  | .arr items => '[' :: (prettyItems (level + 1) items ++ newLine level ++ [']'])
  | .obj [] => ['\x7b', '\x7d']
  | .obj members => '\x7b' :: (prettyMembers (level + 1) members ++ newLine level ++ ['\x7d'])
  | value => scalar value

def prettyItems (level : Nat) : List Json → List Char
  | [] => []
  | [item] => newLine level ++ prettyChars level item
  | item :: rest => newLine level ++ prettyChars level item ++ ',' :: prettyItems level rest

def prettyMembers (level : Nat) : List (String × Json) → List Char
  | [] => []
  | [(name, value)] => newLine level ++ quoted name ++ ':' :: ' ' :: prettyChars level value
  | (name, value) :: rest =>
    newLine level ++ quoted name ++ ':' :: ' ' :: (prettyChars level value ++
      ',' :: prettyMembers level rest)

end

/-- The indented text of a value, without a line break at the end. -/
def pretty (value : Json) : String :=
  String.ofList (prettyChars 0 value)

end NplLifecycle.Json
