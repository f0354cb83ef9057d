import NplLifecycle.App.Command
import NplLifecycle.Controller.Basic

/-!
# Calls of the application

What an editor can ask the whole client for: to activate it, to deactivate it, to restart the
server, or to run a command.  A call asks its helpers one question after the other and goes on with
each answer; what it does on the way is told to the user and to the log.
-/

namespace NplLifecycle.App

inductive Call where
  | activate
  | deactivate
  | restartServer
  | execute (command : Command)
  deriving DecidableEq, Repr

inductive Failure where
  | client (failure : ClientError)
  /-- A helper failed, with the texts that say why, the outermost first. -/
  | helper (causes : List String)
  deriving DecidableEq, Repr

inductive Question where
  /-- To run an errand of the controller. -/
  | control (errand : Controller.Errand)
  /-- To take up the last login to the cloud. -/
  | restoreLogin
  /-- To look after the instruction files of a root. -/
  | checkInstructions (root : Root)
  /-- To look for a migration descriptor. -/
  | detectMigration (roots : List Root)
  | selectVersion
  | cleanServerFiles
  | pickFolder (label : String) (start : Path)
  | store (folder : Path) (key : SettingKey) (value : Json)
  deriving DecidableEq

inductive Answer where
  | done (result : Except Failure Unit)
  | picked (folder : Option Path)
  deriving Repr

inductive Stage where
  /-- An activation waits for the login. -/
  | restoring
  /-- An activation whose login failed waits for the client to stop. -/
  | withdrawing (failure : Failure)
  /-- An activation waits for a root's instruction files; others follow. -/
  | checking (rest : List Root) (roots : List Root)
  | migrating
  | activating
  | deactivating
  /-- A restart waits for the stop. -/
  | stopping
  /-- A restart waits for the start. -/
  | starting
  /-- A command waits for the manager of the server. -/
  | managing
  | picking (root : Root) (key : SettingKey)
  | storing (key : SettingKey) (folder : String)
  deriving DecidableEq, Repr

inductive Remark where
  | log (line : LogLine)
  | showInfo (text : String)
  | showError (text : String)
  deriving DecidableEq, Repr

inductive Turn where
  | finish (result : Except Failure Unit)
  | ask (question : Question) (stage : Stage)

/-- A call gets on: what it says, and where it goes. -/
abbrev Progress := List Remark × Turn

/-- The texts that say why a call failed, the outermost first. -/
def Failure.causes : Failure → List String
  | .client failure => failure.message :: failure.source?.toList
  | .helper causes => causes

def Failure.message (failure : Failure) : String :=
  failure.causes.headD ""

def Failure.details (failure : Failure) : String :=
  ": ".intercalate failure.causes

def begin (context : ActivationContext) (roots : List Root) : Call → Progress
  | .activate =>
    ([.log (.info ("Activating " ++ context.clientName ++ " " ++ context.clientVersion))],
      .ask .restoreLogin .restoring)
  | .deactivate => ([], .ask (.control .stop) .deactivating)
  | .restartServer | .execute .restartServer => ([], .ask (.control .stop) .stopping)
  | .execute .selectServerVersion => ([], .ask .selectVersion .managing)
  | .execute .cleanServerFiles => ([], .ask .cleanServerFiles .managing)
  | .execute command =>
    match command.setting?, roots with
    | none, _ => ([], .finish (.ok ()))
    | some _, [] =>
      ([.showError "No workspace folder open to save NPL settings."], .finish (.ok ()))
    | some key, root :: _ =>
      ([], .ask (.pickFolder ("Select NPL " ++ key.name) root.path) (.picking root key))

/-- Goes on with the instruction files of roots, or with what comes after them. -/
def checkNext (roots : List Root) : List Root → Turn
  | root :: rest => .ask (.checkInstructions root) (.checking rest roots)
  | [] => .ask (.detectMigration roots) .migrating

def pickedValue (key : SettingKey) (folder : String) : Json :=
  if key = .contribLibraries then .arr [.str folder] else .str folder

def startFailed : String := "Failed to start NPL Language Server: "

/-- Goes on with an answer; the answer to an errand carries the controller's failure. -/
def resume (context : ActivationContext) (roots : List Root) :
    Stage → Answer → Progress
  | .restoring, .done (.ok _) => ([], checkNext roots roots)
  | .restoring, .done (.error failure) =>
    ([.log (.error (startFailed ++ failure.details))],
      .ask (.control .stop) (.withdrawing failure))
  | .withdrawing failure, .done (.ok _) => ([], .finish (.error failure))
  | .withdrawing failure, .done (.error stop) =>
    ([.log (.warn ("Failed to stop language client: " ++ stop.message))],
      .finish (.error failure))
  | .checking rest roots, .done (.ok _) => ([], checkNext roots rest)
  | .checking _ roots, .done (.error failure) =>
    ([.log (.error ("Error handling workspace instruction files: " ++ failure.details))],
      checkNext roots [])
  | .migrating, .done (.ok _) => ([], .ask (.control (.start context)) .activating)
  | .migrating, .done (.error failure) =>
    ([.log (.error ("Failed to detect migration descriptor: " ++ failure.details))],
      .ask (.control (.start context)) .activating)
  | .activating, .done (.ok _) => ([], .finish (.ok ()))
  | .activating, .done (.error failure) =>
    ([.log (.error (startFailed ++ failure.message))], .finish (.ok ()))
  | .stopping, .done (.ok _) => ([], .ask (.control (.start context)) .starting)
  | .stopping, .done (.error failure) =>
    ([.log (.warn ("Language client did not shut down cleanly: " ++ failure.message))],
      .ask (.control (.start context)) .starting)
  | .starting, .done (.error failure) =>
    ([.showError ("Failed to restart NPL Language Server: " ++ failure.message)],
      .finish (.error failure))
  | .picking root key, .picked (some folder) =>
    ([], .ask (.store root.path key (pickedValue key folder.display))
      (.storing key folder.display))
  | .picking _ _, _ => ([], .finish (.ok ()))
  | .storing key folder, .done (.ok _) =>
    ([.showInfo ("NPL " ++ key.name ++ " path set to " ++ folder ++ " for this workspace.")],
      .finish (.ok ()))
  | .storing key _, .done (.error failure) =>
    let text := "Failed to select NPL " ++ key.name ++ " workspace: "
    ([.log (.error (text ++ failure.details)), .showError (text ++ failure.message)],
      .finish (.ok ()))
  | _, .done result => ([], .finish result)
  | _, .picked _ => ([], .finish (.ok ()))

end NplLifecycle.App
