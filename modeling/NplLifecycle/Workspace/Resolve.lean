import NplLifecycle.Workspace.Root
import NplLifecycle.Text.Blank
import NplLifecycle.Log

/-!
# Resolving the roots

The roots that the server is told are those of the host, or the single root that the `sources`
setting names instead, followed by the root that `testSources` names unless one of the others
covers it already.  A setting that holds only white space counts as unset.
-/

namespace NplLifecycle.Workspace

def sourcesLabel : String := "NPL Sources"

def testSourcesLabel : String := "NPL Test Sources"

/-- A setting's value, unless it is only white space. -/
def configured (value : Option String) : Option String :=
  value.filter fun text => Text.trim text.toList ≠ []

/-- The roots before `testSources` is looked at. -/
def baseRoots (sources : Option String) (hostRoots : List Root) : List Root :=
  match configured sources with
  | some path => [⟨.ofString path, sourcesLabel, 0⟩]
  | none => hostRoots

def covers (workingDirectory : Path) (roots : List Root) (directory : Path) : Bool :=
  roots.any fun root =>
    Path.isSameOrNested directory (Path.absoluteOrSame workingDirectory root.path)

def testDirectory? (workingDirectory : Path) (testSources : Option String) : Option Path :=
  (configured testSources).map fun path =>
    Path.absoluteOrSame workingDirectory (.ofString path)

/-- The root added for `testSources`, if it is set and not covered. -/
def testRoot? (workingDirectory : Path) (testSources : Option String) (base : List Root) :
    Option Root :=
  ((testDirectory? workingDirectory testSources).filter
    (! covers workingDirectory base ·)).map fun directory =>
      ⟨directory, testSourcesLabel, base.length⟩

def resolve (workingDirectory : Path) (sources testSources : Option String)
    (hostRoots : List Root) : List Root :=
  let base := baseRoots sources hostRoots
  base ++ (testRoot? workingDirectory testSources base).toList

def resolveLog (workingDirectory : Path) (sources testSources : Option String)
    (hostRoots : List Root) : List LogLine :=
  let base := baseRoots sources hostRoots
  let first := match configured sources with
    | some path => [.info ("Using custom workspace folder for sources: " ++ path)]
    | none =>
      if hostRoots.isEmpty then []
      else
        [.info ("Using host workspace folders: " ++
          ", ".intercalate (hostRoots.map fun root => root.path.display))]
  let second := match configured testSources with
    | none => []
    | some path =>
      if (testRoot? workingDirectory testSources base).isSome then
        [.info ("Added test sources folder: " ++ path)]
      else
        [.info ("Test sources folder (" ++ path ++
          ") is already included in the workspace folders")]
  let third := if (resolve workingDirectory sources testSources hostRoots).isEmpty then
      [.warn ("No workspace folders determined for the NPL Language Server. " ++
        "The server might not function correctly.")]
    else []
  first ++ second ++ third

end NplLifecycle.Workspace
