import NplLifecycle.Text.Blank
import NplLifecycle.Number.Decimal
import NplLifecycle.Files.Store

/-!
# Programs

A few programs that stand in for a language server when a process manager is tried out.  A program
reads its input to the end and writes its output; what it is asked for it finds in its arguments.
-/

namespace NplLifecycle

inductive Program where
  /-- Writes what it reads. -/
  | copy
  /-- Does nothing. -/
  | idle
  /-- Writes its working directory. -/
  | tellDirectory
  /-- Writes the first bytes that it reads. -/
  | front (count : Nat)
  /-- Writes a text. -/
  | say (text : String)
  /-- Runs a program whose output goes elsewhere. -/
  | mute (program : Program)
  /-- Runs programs one after the other until one of them is an exit. -/
  | script (steps : List Program)
  /-- Ends a script. -/
  | exit
  deriving Repr, Inhabited

namespace Program

def searchPath : List String := ["/bin/", "/usr/bin/"]

/-- The name of a program without the directory in which it was found. -/
def bareName (name : String) : String :=
  match searchPath.find? fun directory => directory.toList.isPrefixOf name.toList with
  | some directory => String.ofList (name.toList.drop directory.length)
  | none => name

/-- Reads one command of a script, which may hold quotes. -/
def words : (quote : Option Char) → (word : Option (List Char)) → List Char → List (List Char)
  | _, word, [] => (word.map List.reverse).toList
  | some mark, word, c :: rest =>
    if c = mark then words none (some (word.getD [])) rest
    else words (some mark) (some (c :: word.getD [])) rest
  | none, word, c :: rest =>
    if c = '\'' ∨ c = '"' then words (some c) (some (word.getD [])) rest
    else if Text.isBlank c then (word.map List.reverse).toList ++ words none none rest
    else words none (some (c :: word.getD [])) rest

def unescape : List Char → List Char
  | '\\' :: 'n' :: rest => '\n' :: unescape rest
  | c :: rest => c :: unescape rest
  | [] => []

/-- The program that arguments ask for; `none` if there is no such program. -/
def simple? (name : String) (arguments : List String) : Option Program :=
  match name, arguments with
  | "cat", [] | "cat", ["-"] => some .copy
  | "sleep", _ => some .idle
  | "printf", [text] => some (.say (String.ofList (unescape text.toList)))
  | "true", _ | "false", _ | ":", _ => some .idle
  | "pwd", _ => some .tellDirectory
  | "echo", words => some (.say (" ".intercalate words ++ "\n"))
  | "head", ["-c", count] => (Number.readUnsigned? (Nat.pow 2 64) count.toList).map .front
  | "exit", _ => some .exit
  | _, _ => none

def diversions : List String := [">&2", "1>&2", ">/dev/null", "1>/dev/null"]

def silencers : List String := ["2>&1", "2>/dev/null"]

/-- A step of a script from its words; an unknown program does nothing. -/
def stepOf (step : List String) : List Program :=
  let spoken := step.filter fun word => ! diversions.contains word && ! silencers.contains word
  let divert := fun program : Program =>
    if step.any diversions.contains then Program.mute program else program
  match spoken with
  | [] => []
  | "exec" :: name :: arguments =>
    [divert ((simple? (bareName name) arguments).getD .idle), .exit]
  | name :: arguments => [divert ((simple? (bareName name) arguments).getD .idle)]

def steps (text : String) : List Program :=
  (Text.pieces ';' (text.toList.map fun c => if c = '\n' then ';' else c)).flatMap fun step =>
    stepOf ((words none none step).map String.ofList)

/-- The program of a command line; `none` if it cannot be run. -/
def ofCommand? : List String → Option Program
  | [] => none
  | name :: arguments =>
    match bareName name, arguments with
    | "sh", ["-c", text] => some (.script (steps text))
    | "exit", _ | ":", _ => none
    | name, arguments => simple? name arguments

mutual

def run (directory : Path) (input : List UInt8) : Program → List UInt8 × List UInt8
  | .copy => (input, [])
  | .idle | .exit => ([], input)
  | .tellDirectory => (directory.bytes ++ [10], input)
  | .front count => (input.take count, input.drop count)
  | .say text => (Text.encode text, input)
  | .mute program => ([], (run directory input program).2)
  | .script programs => runAll directory input programs

def runAll (directory : Path) (input : List UInt8) :
    List Program → List UInt8 × List UInt8
  | [] => ([], input)
  | .exit :: _ => ([], input)
  | program :: rest =>
    let (written, left) := run directory input program
    let (more, last) := runAll directory left rest
    (written ++ more, last)

end

def output (program : Program) (directory : Path) (input : List UInt8) : List UInt8 :=
  (program.run directory input).1

end Program

end NplLifecycle
