/-!
# Command lines

A command line is read into items: options with their values, and words.  An option is written
with two dashes and its name, or with one dash and its letter; its value stands behind an equals
sign, directly behind the letter, or in the next argument, which may then not look like an option
itself.  After two dashes alone everything is a word.
-/

namespace NplLifecycle.CommandLine

structure Shape where
  name : String
  letter : Option Char := none
  takesValue : Bool := true
  deriving Repr

inductive Item where
  | option (name : String) (value : String)
  | word (text : String)
  /-- A word after two dashes. -/
  | literal (text : String)
  deriving DecidableEq, Repr

def looksLikeOption (argument : String) : Bool :=
  match argument.toList with
  | '-' :: _ :: _ => true
  | _ => false

def cutAtEquals (text : List Char) : List Char × Option (List Char) :=
  match text.dropWhile (· ≠ '=') with
  | [] => (text, none)
  | _ :: value => (text.takeWhile (· ≠ '='), some value)

/-- What stands in one argument that looks like an option, apart from a value in the next one:
options with values, and the name of a last one that has none yet. -/
abbrev Opened := List Item × Option String

def long? (shapes : List Shape) (text : List Char) : Option Opened :=
  let (name, value) := cutAtEquals text
  (shapes.find? (·.name.toList = name)).bind fun shape =>
    match shape.takesValue, value with
    | true, some value => some ([.option shape.name (String.ofList value)], none)
    | true, none => some ([], some shape.name)
    | false, none => some ([.option shape.name ""], none)
    | false, some _ => none

def letters? (shapes : List Shape) : List Char → Option Opened
  | [] => some ([], none)
  | c :: rest =>
    (shapes.find? (·.letter = some c)).bind fun shape =>
      if shape.takesValue then
        match rest with
        | [] => some ([], some shape.name)
        | '=' :: value => some ([.option shape.name (String.ofList value)], none)
        | value => some ([.option shape.name (String.ofList value)], none)
      else
        (letters? shapes rest).map fun (items, opened) =>
          (.option shape.name "" :: items, opened)

def option? (shapes : List Shape) (argument : String) : Option Opened :=
  match argument.toList with
  | '-' :: '-' :: text => long? shapes text
  | '-' :: text => letters? shapes text
  | _ => none

/-- Reads a command line; `none` if it is none. -/
def items? (shapes : List Shape) : List String → Option (List Item)
  | [] => some []
  | argument :: rest =>
    if argument = "--" then some (rest.map .literal)
    else if looksLikeOption argument then
      (option? shapes argument).bind fun (items, opened) =>
        match opened, rest with
        | none, rest => (items? shapes rest).map (items ++ ·)
        | some _, [] => none
        | some name, value :: rest =>
          if looksLikeOption value then none
          else (items? shapes rest).map (items ++ .option name value :: ·)
    else (items? shapes rest).map (.word argument :: ·)

def valuesOf (name : String) (items : List Item) : List String :=
  items.filterMap fun item =>
    match item with
    | .option other value => if other = name then some value else none
    | _ => none

def valueOf? (name : String) (items : List Item) : Option (Option String) :=
  match valuesOf name items with
  | [] => some none
  | [value] => some (some value)
  | _ => none

def nonEmpty? (value : Option String) : Option (Option String) :=
  if value = some "" then none else some value

def wordsOf (items : List Item) : List String :=
  items.filterMap fun item =>
    match item with
    | .word text | .literal text => some text
    | .option .. => none

end NplLifecycle.CommandLine
