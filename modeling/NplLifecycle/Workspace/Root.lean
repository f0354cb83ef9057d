import NplLifecycle.Uri.File
import NplLifecycle.Json.Basic

/-!
# Workspace roots

A root is a directory that the language server treats as a source scope, with the label that the
user sees and its position in the list of roots.
-/

namespace NplLifecycle

/-- A directory that the server treats as a source scope. -/
structure Root where
  path : Path
  name : String
  index : Nat
  deriving DecidableEq, Repr, Inhabited

namespace Root

/-- The root of a directory, named after the last component of its path. -/
def ofDirectory (path : Path) (index : Nat) : Root :=
  ⟨path, path.fileName?.elim "workspace" Text.decodeLossy, index⟩

/-- The root's file identifier; `none` if its path cannot be made absolute. -/
def uri? (workingDirectory : Path) (root : Root) : Option String :=
  Uri.ofPath? (Path.absoluteOrSame workingDirectory root.path)

def invalidPathMessage (root : Root) : String :=
  "Invalid workspace path: " ++ root.path.display

def describe (root : Root) : String :=
  root.name ++ " (" ++ root.path.display ++ ")"

/-- The root as JSON; `none` if its path is not UTF-8. -/
def toJson? (root : Root) : Option Json :=
  root.path.text?.map fun path =>
    .obj [("path", .str path), ("name", .str root.name), ("index", .int root.index)]

end Root

end NplLifecycle
