import NplLifecycle.Settings.Key

/-!
# Commands

What a user can ask for, with the identifier that an editor uses and the short name that a command
line takes.
-/

namespace NplLifecycle

inductive Command where
  | restartServer
  | selectSources
  | selectTestSources
  | selectContribLibraries
  | selectFrontendSources
  | selectServerVersion
  | cleanServerFiles
  deriving DecidableEq, Repr, Inhabited

namespace Command

def all : List Command :=
  [.restartServer, .selectSources, .selectTestSources, .selectContribLibraries,
    .selectFrontendSources, .selectServerVersion, .cleanServerFiles]

def id : Command → String
  | .restartServer => "npl.restartServer"
  | .selectSources => "npl.selectSources"
  | .selectTestSources => "npl.selectTestSources"
  | .selectContribLibraries => "npl.contribLibraries"
  | .selectFrontendSources => "npl.selectFrontendSources"
  | .selectServerVersion => "npl.selectServerVersion"
  | .cleanServerFiles => "npl.cleanServerFiles"

def shortName : Command → String
  | .restartServer => "restart"
  | .selectSources => "select-sources"
  | .selectTestSources => "select-test-sources"
  | .selectContribLibraries => "contrib-libraries"
  | .selectFrontendSources => "select-frontend-sources"
  | .selectServerVersion => "select-server-version"
  | .cleanServerFiles => "clean-server-files"

def setting? : Command → Option SettingKey
  | .selectSources => some .sources
  | .selectTestSources => some .testSources
  | .selectContribLibraries => some .contribLibraries
  | .selectFrontendSources => some .frontendSources
  | .restartServer | .selectServerVersion | .cleanServerFiles => none

def ofName? (text : String) : Option Command :=
  all.find? fun command => command.id == text || command.shortName == text

def unknownMessage (text : String) : String :=
  "Unknown command '" ++ text ++ "'"

end Command

end NplLifecycle
