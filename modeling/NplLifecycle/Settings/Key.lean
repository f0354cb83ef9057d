import NplLifecycle.Text.Blank

/-!
# Setting keys

The five settings, their names inside the section `NPL`, and the two spellings that a user may
write: with the section's name in front or without it.
-/

namespace NplLifecycle

inductive SettingKey where
  | sources
  | testSources
  | contribLibraries
  | frontendSources
  | debounceMs
  deriving DecidableEq, Repr, Inhabited

namespace SettingKey

def sectionName : String := "NPL"

/-- Every setting, in the order in which changes are reported. -/
def all : List SettingKey :=
  [.sources, .testSources, .contribLibraries, .frontendSources, .debounceMs]

def segments : SettingKey → List String
  | .sources => ["sources"]
  | .testSources => ["testSources"]
  | .contribLibraries => ["contribLibraries"]
  | .frontendSources => ["frontendSources"]
  | .debounceMs => ["server", "debouncing", "time", "ms"]

def name (key : SettingKey) : String :=
  ".".intercalate key.segments

def qualified (key : SettingKey) : String :=
  sectionName ++ "." ++ key.name

/-- Reads a setting's name, with or without the section in front, in any case of ASCII letters. -/
def ofName? (text : String) : Option SettingKey :=
  let sectionPrefix := (sectionName ++ ".").toList
  let chars := text.toList
  let bare := if sectionPrefix.isPrefixOf chars then chars.drop sectionPrefix.length else chars
  all.find? fun key => Text.sameIgnoringCase key.name.toList bare

def unknownMessage (text : String) : String :=
  "Unknown NPL setting '" ++ text ++ "'"

end SettingKey

end NplLifecycle
