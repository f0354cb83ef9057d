import NplLifecycle.Proofs.Path.Nesting
import NplLifecycle.Workspace.Resolve

/-!
# The root for test sources

The directory that `testSources` names is added behind the other roots, unless its text is that of
one of them or goes on behind it with a slash or a backslash.  Part by part this is to lie beneath
the root, as long as the root's absolute path does not end in a slash.  A root that does end in one
has nothing beneath it by text, and what is said of the parts leaves open whether it covers that.
-/

namespace NplLifecycle

open Text (IsText)

namespace Path

/-- A directory is covered by another: its bytes are those of the other or go on behind them with a
backslash, or it is beneath the other, which does not end in a slash. -/
def Covered (directory other : Path) : Prop :=
  directory.bytes = other.bytes ∨ GoesOn 92 directory other ∨
    endsInSlash other.bytes = false ∧ directory.Beneath other

/-- What is the same or beneath by text is covered, or it is strictly beneath what ends in a slash.
-/
theorem Nested.covered_or {directory other : Path} (hnested : Nested directory other)
    (hdirectory : Spelled directory) (hother : Spelled other) :
    Covered directory other ∨
      endsInSlash other.bytes = true ∧ directory.StrictlyBeneath other := by
  rcases hnested with hsame | ⟨rest, hrest⟩ | hbackslash
  · exact .inl (.inl hsame)
  · cases hends : endsInSlash other.bytes with
    | true => exact .inr ⟨rfl, strictlyBeneath_of_goesOn hdirectory hother hends hrest⟩
    | false =>
        have hbeneath := beneath_append_slash other.bytes rest
        rw [← hrest] at hbeneath
        exact .inl (.inr (.inr ⟨hends, hbeneath⟩))
  · exact .inl (.inr (.inl hbackslash))

/-- What is covered is the same or beneath by text. -/
theorem Covered.nested {directory other : Path} (hcovered : Covered directory other)
    (hdirectory : Spelled directory) (hrooted : ∃ rest, directory.bytes = slash :: rest)
    (hother : Spelled other) : Nested directory other := by
  rcases hcovered with hsame | hbackslash | ⟨hopen, hbeneath⟩
  · exact .inl hsame
  · exact .inr (.inr hbackslash)
  · have hbytes : other.bytes = extend [] other.parts := by
      refine hother.resolve_right ?_
      rintro ⟨hslash, -⟩
      rw [endsInSlash, hslash, List.getLast?_concat] at hopen
      exact absurd hopen (by simp)
    exact (exists_of_beneath hdirectory hrooted hbytes hopen hbeneath).imp_right .inl

/-- A path is spelled by its parts once it is made absolute, and so is the one path that cannot be.
-/
theorem spelled_absoluteOrSame {workingDirectory : Path} (hworking : Resolved workingDirectory)
    (p : Path) : Spelled (absoluteOrSame workingDirectory p) := by
  cases habsolute : absolute? workingDirectory p with
  | some whole =>
      rw [absoluteOrSame, habsolute]
      exact spelled_of_absolute? hworking habsolute
  | none =>
      have hempty : p.bytes = [] := by
        by_contra hsome
        rw [absolute?, if_neg hsome] at habsolute
        exact absurd habsolute (by simp)
      rw [absoluteOrSame, habsolute, Option.getD_none, Spelled, parts, components, hempty]
      exact .inl rfl

end Path

namespace Workspace

variable {workingDirectory : Path} {sources testSources : Option String} {hostRoots : List Root}

open NplLifecycle.Path (Resolved Covered absoluteOrSame endsInSlash isText_absoluteOrSame)

theorem isText_of_mem_baseRoots (htexts : ∀ root ∈ hostRoots, IsText root.path.bytes) {root : Root}
    (hroot : root ∈ baseRoots sources hostRoots) : IsText root.path.bytes := by
  rw [baseRoots] at hroot
  split at hroot
  · rw [List.mem_singleton.mp hroot]
    exact Text.isText_encode _
  · exact htexts root hroot

theorem covers_iff {roots : List Root} {directory : Path} :
    covers workingDirectory roots directory ↔
      ∃ root ∈ roots, Path.isSameOrNested directory (absoluteOrSame workingDirectory root.path) :=
  List.any_eq_true

/-- The law by text, exactly: a directory is left to the roots if its bytes are those of one of them
or go on behind them with a separator. -/
theorem covers_baseRoots_iff (sources : Option String) (htext : IsText workingDirectory.bytes)
    (htexts : ∀ root ∈ hostRoots, IsText root.path.bytes) {directory : Path}
    (hdirectory : IsText directory.bytes) :
    covers workingDirectory (baseRoots sources hostRoots) directory ↔
      ∃ root ∈ baseRoots sources hostRoots,
        Path.Nested directory (absoluteOrSame workingDirectory root.path) := by
  rw [covers_iff]
  refine exists_congr fun root => and_congr_right fun hroot => ?_
  exact Path.isSameOrNested_iff hdirectory
    (isText_absoluteOrSame htext (isText_of_mem_baseRoots htexts hroot))

/-- Beside the roots there are otherwise, the only one is that of the directory for test sources; it
stands there if no root covers the directory. -/
theorem resolve_eq_of_configured {text : String} (hset : configured testSources = some text) :
    resolve workingDirectory sources testSources hostRoots =
      if covers workingDirectory (baseRoots sources hostRoots)
          (absoluteOrSame workingDirectory (.ofString text)) then
        baseRoots sources hostRoots
      else
        baseRoots sources hostRoots ++ [⟨absoluteOrSame workingDirectory (.ofString text),
          testSourcesLabel, (baseRoots sources hostRoots).length⟩] := by
  rw [resolve, testRoot?, testDirectory?, hset, Option.map_some]
  split
  · rename_i hcovers
    simp [hcovers]
  · rename_i hcovers
    simp [hcovers]

/-- A setting that counts as set is not empty, so the path that it names can be made absolute. -/
theorem absolute?_of_configured {value : Option String} {text : String} (workingDirectory : Path)
    (hset : configured value = some text) :
    Path.absolute? workingDirectory (.ofString text) =
      some (absoluteOrSame workingDirectory (.ofString text)) := by
  have htext : Text.trim text.toList ≠ [] := by
    simpa using (Option.filter_eq_some_iff.mp hset).2
  have hbytes : (Path.ofString text).bytes ≠ [] := by
    intro hempty
    have hnone : text = "" := Text.encode_inj.mp hempty
    rw [hnone] at htext
    exact htext rfl
  rw [absoluteOrSame, Path.absolute?, if_neg hbytes, Option.getD_some]

/-- The directory for test sources is left out where another root covers it, and it is added where
none does; only for what lies strictly beneath a root that ends in a slash neither is said. -/
theorem covered_or_added {text : String} (hworking : Resolved workingDirectory)
    (htext : IsText workingDirectory.bytes) (htexts : ∀ root ∈ hostRoots, IsText root.path.bytes)
    (hset : configured testSources = some text) :
    (resolve workingDirectory sources testSources hostRoots = baseRoots sources hostRoots ∧
      ∃ root ∈ baseRoots sources hostRoots,
        Covered (absoluteOrSame workingDirectory (.ofString text))
            (absoluteOrSame workingDirectory root.path) ∨
          endsInSlash (absoluteOrSame workingDirectory root.path).bytes = true ∧
            (absoluteOrSame workingDirectory (.ofString text)).StrictlyBeneath
              (absoluteOrSame workingDirectory root.path)) ∨
    (resolve workingDirectory sources testSources hostRoots =
        baseRoots sources hostRoots ++ [⟨absoluteOrSame workingDirectory (.ofString text),
          testSourcesLabel, (baseRoots sources hostRoots).length⟩] ∧
      ∀ root ∈ baseRoots sources hostRoots,
        ¬ Covered (absoluteOrSame workingDirectory (.ofString text))
          (absoluteOrSame workingDirectory root.path)) := by
  have habsolute := absolute?_of_configured workingDirectory hset
  have hspelled := Path.spelled_absoluteOrSame hworking
  have hdirectory : IsText (absoluteOrSame workingDirectory (.ofString text)).bytes :=
    isText_absoluteOrSame htext (Text.isText_encode text)
  have hlaw := covers_baseRoots_iff sources htext htexts hdirectory
  rw [resolve_eq_of_configured hset]
  split
  · rename_i hcovers
    obtain ⟨root, hroot, hnested⟩ := hlaw.mp hcovers
    exact .inl ⟨rfl, root, hroot, hnested.covered_or (hspelled _) (hspelled _)⟩
  · rename_i hcovers
    refine .inr ⟨rfl, fun root hroot hcovered => hcovers (hlaw.mpr ⟨root, hroot, ?_⟩)⟩
    exact hcovered.nested (hspelled _) (Path.isAbsolute_of_absolute? hworking habsolute)
      (hspelled _)

def practiceWorkingDirectory : Path := .ofString "/work"

def practiceRoot (path : String) : Root := ⟨.ofString path, "practice", 0⟩

theorem covered_or_added_of_practiceRoot :
    (resolve practiceWorkingDirectory none (some "src/tests") [practiceRoot "/work/src"] =
        [practiceRoot "/work/src"] ∧
      ∃ root ∈ [practiceRoot "/work/src"],
        Covered (absoluteOrSame practiceWorkingDirectory (.ofString "src/tests"))
            (absoluteOrSame practiceWorkingDirectory root.path) ∨
          endsInSlash (absoluteOrSame practiceWorkingDirectory root.path).bytes = true ∧
            (absoluteOrSame practiceWorkingDirectory (.ofString "src/tests")).StrictlyBeneath
              (absoluteOrSame practiceWorkingDirectory root.path)) ∨
    (resolve practiceWorkingDirectory none (some "src/tests") [practiceRoot "/work/src"] =
        [practiceRoot "/work/src"] ++
          [⟨absoluteOrSame practiceWorkingDirectory (.ofString "src/tests"),
            testSourcesLabel, 1⟩] ∧
      ∀ root ∈ [practiceRoot "/work/src"],
        ¬ Covered (absoluteOrSame practiceWorkingDirectory (.ofString "src/tests"))
          (absoluteOrSame practiceWorkingDirectory root.path)) := by
  refine covered_or_added ?_ (Text.isText_encode _) ?_ (by decide +kernel)
  · unfold Resolved
    decide +kernel
  · intro root hroot
    rw [List.mem_singleton.mp hroot]
    exact Text.isText_encode _

/-- Does a directory begin with the components of one of the roots, each of them made absolute? -/
def Within (workingDirectory : Path) (roots : List Root) (directory : Path) : Prop :=
  ∃ root ∈ roots, (absoluteOrSame workingDirectory root.path).components <+: directory.components

instance (workingDirectory : Path) (roots : List Root) (directory : Path) :
    Decidable (Within workingDirectory roots directory) :=
  inferInstanceAs (Decidable (∃ root ∈ roots, _ <+: _))

/-- The components alone decide nothing: a backslash inside a name separates too, two slashes in
front are another root than one, and a slash at the end keeps a root from covering what is beneath
it. -/
theorem not_within_of_practiceRoots :
    (resolve practiceWorkingDirectory none (some "/proj/src\\tests") [practiceRoot "/proj/src"] =
        [practiceRoot "/proj/src"] ∧
      ¬ Within practiceWorkingDirectory [practiceRoot "/proj/src"]
        (.ofString "/proj/src\\tests")) ∧
    (resolve practiceWorkingDirectory none (some "/proj/src") [practiceRoot "//proj"] ≠
        [practiceRoot "//proj"] ∧
      Within practiceWorkingDirectory [practiceRoot "//proj"] (.ofString "/proj/src")) ∧
    (resolve practiceWorkingDirectory none (some "/proj/src") [practiceRoot "/proj/"] ≠
        [practiceRoot "/proj/"] ∧
      Within practiceWorkingDirectory [practiceRoot "/proj/"] (.ofString "/proj/src")) ∧
    (resolve practiceWorkingDirectory none (some "/proj/src") [practiceRoot "/"] ≠
        [practiceRoot "/"] ∧
      Within practiceWorkingDirectory [practiceRoot "/"] (.ofString "/proj/src")) := by
  decide +kernel

end Workspace

end NplLifecycle
