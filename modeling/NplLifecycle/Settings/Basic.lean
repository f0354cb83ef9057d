import NplLifecycle.Settings.Key
import NplLifecycle.Json.Document

/-!
# Settings

The settings as seen from one scope.  Settings can be read from a JSON text by itself, where every
value must already have its type; layered settings files are read by `NplLifecycle.Settings.Load`.
A record may be written as a list of its fields in order, and a setting that is given twice, also
once by its name and once by its lower-case name, is refused.
-/

namespace NplLifecycle

structure Settings where
  sources : Option String := none
  testSources : Option String := none
  contribLibraries : Option (List String) := none
  frontendSources : Option String := none
  debounceMs : Nat := 300
  deriving DecidableEq, Repr, Inhabited

namespace Settings

/-- The debounce interval when none is set. -/
def defaultDebounceMs : Nat := 300

/-- The value of a setting as JSON, `null` when it is unset. -/
def value (settings : Settings) : SettingKey → Json
  | .sources => .ofOption (settings.sources.map .str)
  | .testSources => .ofOption (settings.testSources.map .str)
  | .contribLibraries => .ofOption (settings.contribLibraries.map .ofStrings)
  | .frontendSources => .ofOption (settings.frontendSources.map .str)
  | .debounceMs => .int settings.debounceMs

def changedKeys (before after : Settings) : List SettingKey :=
  SettingKey.all.filter fun key => before.value key ≠ after.value key

def toJson (settings : Settings) : Json :=
  .obj (SettingKey.all.map fun key => (key.name, settings.value key))

end Settings

namespace Json.Document

def optionalText? : Document → Option (Option String)
  | .null => some none
  | .text s => s.map some
  | _ => none

/-- One string or a list of strings, or nothing where there is `null`. -/
def libraries? : Document → Option (Option (List String))
  | .null => some none
  | .text s => s.map fun s => some [s]
  | .list items => (items.mapM text?).map some
  | _ => none

def count? : Document → Option Nat
  | .numeral number => number.value?.bind Json.nat64?
  | _ => none

end Json.Document

namespace Settings

open Json (Document)

/-- Reads a field, or takes the default where the field is absent. -/
def fieldOr {α : Type} (default : α) (read : Document → Option α) :
    Option Document → Option α
  | none => some default
  | some document => read document

/-- The names of the fields of the whole record; a lower-case name is as good as the name. -/
def fieldNames : List (List String) :=
  [["sources"], ["testSources", "testsources"], ["contribLibraries", "contriblibraries"],
    ["frontendSources", "frontendsources"], ["server"]]

def debounceOf? (server : Document) : Option Nat :=
  (server.fields? [["debouncing"]]).bind fun fields =>
    fieldOr defaultDebounceMs (fun debouncing =>
      (debouncing.fields? [["time"]]).bind fun fields =>
        fieldOr defaultDebounceMs (fun time =>
          (time.fields? [["ms"]]).bind fun fields =>
            fieldOr defaultDebounceMs Document.count? fields.head?.join) fields.head?.join)
      fields.head?.join

def ofDocument? (document : Document) : Option Settings :=
  (document.fields? fieldNames).bind fun fields =>
    match fields with
    | [sources, testSources, libraries, frontend, server] =>
      (fieldOr none Document.optionalText? sources).bind fun sources =>
      (fieldOr none Document.optionalText? testSources).bind fun testSources =>
      (fieldOr none Document.libraries? libraries).bind fun libraries =>
      (fieldOr none Document.optionalText? frontend).bind fun frontend =>
      (fieldOr defaultDebounceMs debounceOf? server).map fun debounce =>
        ⟨sources, testSources, libraries, frontend, debounce⟩
    | _ => none

def parse? (text : String) : Option Settings :=
  (Document.ofChars? text.toList).bind ofDocument?

end Settings

end NplLifecycle
