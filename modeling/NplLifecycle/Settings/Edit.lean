import NplLifecycle.Settings.Load
import NplLifecycle.Json.Printer

/-!
# Editing a settings file

A setting is stored in the settings file of a folder.  All other members of the file are kept; the
objects on the way to a nested setting are made where they are missing, and a value of another
kind in their place refuses the edit.  The file is written whole, indented by two blanks.
-/

namespace NplLifecycle

open Files (Store)

inductive EditError where
  | unreadable (file : Path)
  | malformed (file : Path)
  | conflict (key : SettingKey)
  | noDirectory (directory : Path)
  | unwritable (file : Path)
  deriving DecidableEq, Repr

def EditError.message : EditError → String
  | .unreadable file => "Failed to read " ++ file.display
  | .malformed file => "Failed to parse " ++ file.display
  | .conflict key => "Setting '" ++ key.name ++ "' conflicts with a non-object value"
  | .noDirectory directory => "Failed to create " ++ directory.display
  | .unwritable file => "Failed to write " ++ file.display

namespace Settings

/-- Puts a value at a path of member names; `none` if something other than an object is on the
way. -/
def assign? (value : Json) : List String → Json → Option Json
  | [], _ => some value
  | [name], .obj members => some (.obj (Json.insertMember name value members))
  | name :: rest, .obj members =>
    (assign? value rest ((members.lookup name).getD (.obj []))).map fun inner =>
      .obj (Json.insertMember name inner members)
  | _ :: _, _ => none

/-- The content of a settings file; a missing one is an empty object. -/
def document (store : Store) (file : Path) : Except EditError Json :=
  if store.exists? file then
    match (store.read? file).bind Text.decode? with
    | none => .error (.unreadable file)
    | some text => (Json.parse? text).elim (.error (.malformed file)) .ok
  else .ok (.obj [])

/-- Stores a setting in the settings file of a folder.  Directories that were made stay even if
the file cannot be written. -/
def write (store : Store) (folder : Path) (key : SettingKey) (value : Json) :
    Store × Except EditError Unit :=
  let file := folderFile folder
  let directory := folderDirectory folder
  match document store file with
  | .error error => (store, .error error)
  | .ok old =>
    match assign? value key.segments old with
    | none => (store, .error (.conflict key))
    | some new =>
      let (store, isThere) := store.makeDirectory directory
      if isThere then
        match store.write? file (Text.encode new.pretty) with
        | some store => (store, .ok ())
        | none => (store, .error (.unwritable file))
      else (store, .error (.noDirectory directory))

end Settings

end NplLifecycle
