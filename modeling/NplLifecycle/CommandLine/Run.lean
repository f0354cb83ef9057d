import NplLifecycle.CommandLine.Invocation
import NplLifecycle.CommandLine.PracticeServer
import NplLifecycle.Rehearsal.Schedule
import NplLifecycle.Server.Launcher

/-!
# Running the client

What the client does for an invocation: it reads and writes the settings files in a store, prints,
and runs its language server, of which it knows the practice server.
-/

namespace NplLifecycle.CommandLine

open Files (Store)
open Rehearsal (World)

structure Surroundings where
  store : Store
  environment : Environment
  /-- The name under which the practice server is installed. -/
  practiceServer : String

structure Report where
  store : Store
  output : String
  /-- Why it failed, if it did. -/
  error : Option String

def valueOfVariable? (environment : Environment) (name : String) : Option (List UInt8) :=
  (environment.lookup (Text.encode name)).filter (· ≠ [])

/-- A directory of the user: that of a variable if it is absolute, otherwise one below the home
directory. -/
def userDirectory? (environment : Environment) (name : String) (below : List String) :
    Option Path :=
  match (valueOfVariable? environment name).filter fun bytes => (Path.mk bytes).isAbsolute with
  | some bytes => some ⟨bytes⟩
  | none => (valueOfVariable? environment "HOME").map fun home => below.foldl Path.entry ⟨home⟩

def defaultUserFile? (environment : Environment) : Option Path :=
  (userDirectory? environment "XDG_CONFIG_HOME" [".config"]).map fun directory =>
    (directory.entry "npl").entry "settings.json"

def storageDirectory (environment : Environment) (invocation : Invocation) : Path :=
  (invocation.storage.orElse fun _ =>
    (userDirectory? environment "XDG_DATA_HOME" [".local", "share"]).map
      (·.entry "npl-client")).getD ⟨[]⟩

/-- The roots in their canonical spelling, or what is said about the first that does not exist. -/
def canonicalRoots (store : Store) (roots : List Path) : Except String (List Path) :=
  (if roots.isEmpty then [Path.ofString "."] else roots).mapM fun root =>
    (store.canonical? root).elim (.error ("Invalid workspace root: " ++ root.display)) .ok

def localHost (around : Surroundings) (invocation : Invocation) :
    Except String (LocalHost × List LogLine) :=
  (canonicalRoots around.store invocation.roots).map fun roots =>
    LocalHost.create around.store around.environment roots
      (invocation.userFile.orElse fun _ => defaultUserFile? around.environment)

def hostConfiguration (around : Surroundings) (host : LocalHost) :
    Except String ClientConfiguration :=
  match host.roots.head? with
  | none => .error "No workspace folder found"
  | some first =>
    let read := fun scope =>
      (host.settings around.store around.environment scope).mapError LoadError.message
    (read (some first.path)).bind fun folder =>
    (read none).map fun workspace => {
      roots := Workspace.resolve around.store.workingDirectory folder.sources folder.testSources
        host.roots
      debounceMs := workspace.debounceMs
      contribLibraries := folder.contribLibraries }

/-- What `resolve` prints. -/
def resolution (around : Surroundings) (configuration : ClientConfiguration) :
    Except String Json :=
  ((configuration.initializationOptions around.store.workingDirectory).mapError
    FolderError.message).bind fun options =>
  match configuration.roots.mapM Root.toJson? with
  | none => .error "path contains invalid UTF-8 characters"
  | some roots => .ok (.ofMembers [("initializationOptions", options),
      ("workspaceFolders", .arr (roots.map fun root =>
        .ofMembers (match root with
          | .obj members => members
          | _ => [])))])

def runResolve (around : Surroundings) (invocation : Invocation) : Except String String :=
  (localHost around invocation).bind fun (host, _) =>
  (hostConfiguration around host).bind fun configuration =>
  (resolution around configuration).map fun value => value.pretty ++ "\n"

/-- The value that a text stands for: a JSON value, or else the text itself. -/
def valueOfText (text : String) : Json :=
  (Json.parse? text).getD (.str text)

def runSet (around : Surroundings) (invocation : Invocation) (keyText valueText : String) :
    Store × Except String String :=
  match SettingKey.ofName? keyText with
  | none => (around.store, .error (SettingKey.unknownMessage keyText))
  | some key =>
    match localHost around invocation with
    | .error text => (around.store, .error text)
    | .ok (host, _) =>
      match host.roots.head? with
      | none => (around.store, .error "No workspace folder open to save NPL settings.")
      | some first =>
        let value := valueOfText valueText
        let (store, result) :=
          host.update around.store around.environment first.path key value
        (store, (result.mapError LocalHost.UpdateError.message).map fun _ =>
          key.qualified ++ " = " ++ value.compact ++ " (" ++
            (Settings.folderFile first.path).display ++ ")\n")

def absentServer : Rehearsal.Script :=
  ⟨none, none, [("initialize", [.close])]⟩

def roleOf (around : Surroundings) (storage : Path) (command : List String) :
    Except (List String) Rehearsal.Role :=
  let directory :=
    if around.store.isDirectory storage then
      Path.absoluteOrSame around.store.workingDirectory storage
    else around.store.workingDirectory
  match command with
  | [] => .error [Launcher.emptyCommandMessage]
  | program :: arguments =>
    if program = around.practiceServer then
      match practiceOptions? arguments with
      | none => .ok (.scripted absentServer)
      | some options =>
        let record := options.record.map (Path.absoluteOrSame directory)
        .ok (.practice (.create { options with record := record }))
    else
      match Program.ofCommand? command with
      | none => .error [(Launcher.ConnectError.spawn program).message]
      | some .copy => .ok .echo
      | some _ => .ok (.scripted absentServer)

def clientVersion : String := "0.4.0"

def serveWorld (around : Surroundings) (invocation : Invocation) (host : LocalHost)
    (lines : List LogLine) (command : List String) : World :=
  let storage := storageDirectory around.environment invocation
  { now := 0
    workingDirectory := around.store.workingDirectory
    processId := 0
    context := ⟨storage, "npl-client", clientVersion⟩
    host := .onDisk host
    store := around.store
    environment := around.environment
    channelIsOpen := true
    capacity := LocalHost.channelCapacity
    supplier := .role (roleOf around storage command)
    attempts := 0
    connectFailure := none
    servers := []
    managerKind := .plain
    helpers := ⟨none, none, none⟩
    stations := [⟨.idle ⟨invocation.settleMs, ClientConfiguration.defaultMaxRestarts⟩, .standard⟩]
    calls := []
    nextCall := 0
    nextTask := 1
    outcomes := []
    journal := { logs := lines } }

/-- Makes a call of the application, and takes it off; what the call set going goes on only with
the next one. -/
def makeCall (world : World) (call : App.Call) : World :=
  (world.performOnly [.app call]).1.sweep

def handleLine (world : World) (line : String) : World :=
  let text := Text.trim line.toList
  if text.isEmpty then world
  else
    let (word, rest) := Text.cutAtBlank text
    let folder := Text.trim rest
    if word = "reload".toList then world.reload.1
    else
      match Command.ofName? (String.ofList word) with
      | none => world.log (.warn (Command.unknownMessage (String.ofList word)))
      | some command =>
        let world :=
          if command.setting?.isSome && ! folder.isEmpty then
            { world with host := world.host.queuePick (.ofString (String.ofList folder)) }
          else world
        makeCall world (.execute command)

/-- The lines of the input as bytes; the last one may lack its line feed. -/
def byteLines : List UInt8 → List (List UInt8)
  | [] => []
  | 10 :: rest => [] :: byteLines rest
  | b :: rest =>
    match byteLines rest with
    | [] => [[b]]
    | first :: others => (b :: first) :: others

/-- The lines of the input, up to the first that is not UTF-8. -/
def inputLines (input : List UInt8) : List String :=
  (((byteLines input).map Text.decode?).takeWhile Option.isSome).filterMap id

/-- Runs the client until the end of its input; gives its last world and what it printed. -/
def serve (world : World) (input : List UInt8) : World × String :=
  let shown := fun (world : World) => world.state.name ++ "\n"
  let world := makeCall world .activate
  let step := fun (state : World × String) (line : String) =>
    let world := handleLine state.1.rest line
    (world, state.2 ++ shown world)
  let (world, output) := (inputLines input).foldl step (world, shown world)
  ((makeCall world.rest .deactivate).rest, output)

def storeWithRecords (world : World) : Store :=
  world.servers.foldl (fun store server =>
    match server.role with
    | .practice server => appendRecord store server
    | .scripted _ | .echo => store) world.store

def run (around : Surroundings) (invocation : Invocation) (input : List UInt8) : Report :=
  let report := fun (store : Store) (result : Except String String) =>
    match result with
    | .ok output => Report.mk store output none
    | .error text => Report.mk store "" (some text)
  match invocation.task with
  | .resolve => report around.store (runResolve around invocation)
  | .set key value =>
    let (store, result) := runSet around invocation key value
    report store result
  | .serve =>
    match localHost around invocation with
    | .error text => report around.store (.error text)
    | .ok (host, lines) =>
      match invocation.server with
      | none => report around.store (.error "No language server command given (use --server)")
      | some command =>
        let words := (Text.words command.toList).map String.ofList
        if words.isEmpty then report around.store (.error Launcher.emptyCommandMessage)
        else
          let (world, output) := serve (serveWorld around invocation host lines words) input
          report (storeWithRecords world) (.ok output)

end NplLifecycle.CommandLine
