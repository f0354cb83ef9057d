import NplLifecycle.Host.Local
import NplLifecycle.Proofs.Path.Settled
import NplLifecycle.Proofs.Workspace.Covering

/-!
# Resolving the roots again

A host that is handed the resolved roots as its own resolves them to themselves: what was added for
test sources covers itself, because to make its path absolute again changes nothing.  So the list
does not grow when a client is started over and over, and its roots stay numbered from zero.
-/

namespace NplLifecycle

open NplLifecycle.Path (Resolved absoluteOrSame)

/-- Roots are numbered from zero in their order. -/
def Root.Numbered (roots : List Root) : Prop :=
  roots.map index = List.range roots.length

theorem Root.Numbered.concat {roots : List Root} (h : Numbered roots) (path : Path)
    (name : String) : Numbered (roots ++ [⟨path, name, roots.length⟩]) := by
  rw [Numbered, List.map_append, h, List.length_append, List.length_singleton, List.range_succ]
  rfl

namespace LocalHost

theorem roots_foldl_readQuietly (store : Files.Store) (environment : Environment)
    (scopes : List Scope) (state : LocalHost × List LogLine) :
    (scopes.foldl (readQuietly store environment) state).1.roots = state.1.roots := by
  induction scopes generalizing state with
  | nil => rfl
  | cons scope scopes ih =>
      rw [List.foldl_cons, ih, readQuietly]
      split <;> rfl

/-- A new host numbers its roots. -/
theorem numbered_create (store : Files.Store) (environment : Environment) (directories : List Path)
    (userFile : Option Path) :
    Root.Numbered (create store environment directories userFile).1.roots := by
  have hroots : (create store environment directories userFile).1.roots =
      directories.zipIdx.map fun entry => Root.ofDirectory entry.1 entry.2 := by
    rw [create, roots_foldl_readQuietly]
  have hindex : directories.zipIdx.map
      (Root.index ∘ fun entry => Root.ofDirectory entry.1 entry.2) =
      directories.zipIdx.map Prod.snd := rfl
  rw [Root.Numbered, hroots, List.map_map, hindex, List.zipIdx_map_snd, List.length_map,
    List.length_zipIdx, List.range_eq_range']

end LocalHost

namespace Workspace

variable {workingDirectory : Path} {sources testSources : Option String} {hostRoots : List Root}

theorem resolve_eq_of_unset (hunset : configured testSources = none) :
    resolve workingDirectory sources testSources hostRoots = baseRoots sources hostRoots := by
  rw [resolve, testRoot?, testDirectory?, hunset]
  exact List.append_nil _

theorem baseRoots_none (roots : List Root) : baseRoots none roots = roots :=
  rfl

/-- Resolved roots are resolved to themselves, if no other sources are set. -/
theorem resolve_resolve (hworking : Resolved workingDirectory) :
    resolve workingDirectory none testSources
        (resolve workingDirectory sources testSources hostRoots) =
      resolve workingDirectory sources testSources hostRoots := by
  cases hset : configured testSources with
  | none => rw [resolve_eq_of_unset hset, baseRoots_none]
  | some text =>
      rw [resolve_eq_of_configured hset, baseRoots_none]
      apply if_pos
      rw [resolve_eq_of_configured hset]
      split
      · assumption
      · -- The root that was added covers its own directory.
        apply covers_iff.mpr
        refine ⟨_, List.mem_append_right _ List.mem_cons_self, ?_⟩
        rw [Path.absoluteOrSame_absoluteOrSame hworking]
        simp [Path.isSameOrNested]

theorem numbered_baseRoots (h : Root.Numbered hostRoots) :
    Root.Numbered (baseRoots sources hostRoots) := by
  rw [baseRoots]
  split
  · rfl
  · exact h

theorem numbered_resolve (h : Root.Numbered hostRoots) :
    Root.Numbered (resolve workingDirectory sources testSources hostRoots) := by
  have hbase : Root.Numbered (baseRoots sources hostRoots) := numbered_baseRoots h
  cases hset : configured testSources with
  | none =>
      rw [resolve_eq_of_unset hset]
      exact hbase
  | some text =>
      rw [resolve_eq_of_configured hset]
      split
      · exact hbase
      · exact hbase.concat _ _

/-- What is promised of the roots that are resolved from those of a host. -/
structure Lasting (workingDirectory : Path) (sources testSources : Option String)
    (hostRoots : List Root) : Prop where
  /-- As the roots of a host without other sources they are resolved to themselves. -/
  again : resolve workingDirectory none testSources
      (resolve workingDirectory sources testSources hostRoots) =
    resolve workingDirectory sources testSources hostRoots
  /-- They are the root that `sources` names or all those of the host, and at most one more. -/
  shape : ∃ added, added.length ≤ 1 ∧
    resolve workingDirectory sources testSources hostRoots =
      ((configured sources).elim hostRoots fun path => [⟨.ofString path, sourcesLabel, 0⟩]) ++ added
  /-- They are numbered from zero if those of the host are. -/
  numbered : Root.Numbered hostRoots →
    Root.Numbered (resolve workingDirectory sources testSources hostRoots)

/-- To resolve the roots lasts, and the roots of a host on disk are numbered. -/
theorem lasting_of_resolved (hworking : Resolved workingDirectory)
    (sources testSources : Option String) (hostRoots : List Root) :
    Lasting workingDirectory sources testSources hostRoots ∧
      ∀ store environment directories userFile,
        Root.Numbered (LocalHost.create store environment directories userFile).1.roots := by
  refine ⟨⟨resolve_resolve hworking, ?_, numbered_resolve⟩, LocalHost.numbered_create⟩
  refine ⟨(testRoot? workingDirectory testSources (baseRoots sources hostRoots)).toList, ?_, ?_⟩
  · exact Option.length_toList_le
  · rw [resolve, baseRoots]
    cases configured sources <;> rfl

theorem lasting_of_practiceRoot :
    Resolved practiceWorkingDirectory ∧
      Lasting practiceWorkingDirectory none (some "tests/") [practiceRoot "/work/src"] := by
  have hworking : Resolved practiceWorkingDirectory := by
    unfold Resolved
    decide +kernel
  exact ⟨hworking, (lasting_of_resolved hworking _ _ _).1⟩

end Workspace

end NplLifecycle
