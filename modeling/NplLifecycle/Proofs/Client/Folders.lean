import NplLifecycle.Proofs.Path.Settled
import NplLifecycle.Proofs.Uri.Strict
import NplLifecycle.Proofs.Outcome
import NplLifecycle.Client.Handshake

/-!
# The two lists of folders in the handshake

A handshake names the roots twice: as the folders of the protocol, and in the server's own options.
Both lists hold the same identifiers and labels, root by root.  But the protocol's identifiers must
be strict, and the one of a directory whose name has a bracket, a caret or a bar is not; then there
are options, but no folders.
-/

namespace NplLifecycle

namespace ClientConfiguration

variable {workingDirectory : Path} {configuration : ClientConfiguration} {root : Root}
  {folders : List (String × String)}

def named? (workingDirectory : Path) (root : Root) : Option (String × String) :=
  (root.uri? workingDirectory).map fun uri => (uri, root.name)

structure FoldersAgree (workingDirectory : Path) (configuration : ClientConfiguration) : Prop where
  /-- There are folders exactly if there are options. -/
  outcome : (∃ folders, configuration.workspaceFolders workingDirectory = .ok folders) ↔
    ∃ options, configuration.initializationOptions workingDirectory = .ok options
  /-- Where there are both, they hold the identifiers and the labels of the roots in order. -/
  same : ∀ folders options, configuration.workspaceFolders workingDirectory = .ok folders →
    configuration.initializationOptions workingDirectory = .ok options →
    folders.map some = configuration.roots.map (named? workingDirectory) ∧
      options.get? "effectiveWorkspaceFolders" = some (foldersJson folders)
  /-- A handshake names the same folders in both places. -/
  sent : ∀ profile : ClientProfile, profile.workingDirectory = workingDirectory →
    profile.configuration = configuration → ∀ parameters, profile.handshake = .ok parameters →
    (parameters.get? "workspaceFolders").isSome ∧ parameters.get? "workspaceFolders" =
      (parameters.get? "initializationOptions").bind (Json.get? "effectiveWorkspaceFolders")

theorem effectiveFolder_eq_ok_iff {folder : String × String} :
    effectiveFolder workingDirectory root = .ok folder ↔
      named? workingDirectory root = some folder := by
  rw [effectiveFolder, named?]
  cases root.uri? workingDirectory <;> simp

theorem workspaceFolder_eq_ok_iff {folder : String × String} :
    workspaceFolder workingDirectory root = .ok folder ↔
      effectiveFolder workingDirectory root = .ok folder ∧ Uri.fault? folder.1.toList = none := by
  rw [workspaceFolder]
  cases heffective : effectiveFolder workingDirectory root with
  | error error => simp [Except.bind]
  | ok found =>
      rcases found with ⟨uri, name⟩
      simp only [Except.bind]
      cases hfault : Uri.fault? uri.toList with
      | none =>
          simp only [Except.ok.injEq]
          constructor
          · intro heq
            rw [← heq]
            exact ⟨rfl, hfault⟩
          · exact And.left
      | some index =>
          simp only [reduceCtorEq, Except.ok.injEq, false_iff, not_and]
          intro heq
          rw [← heq, hfault]
          simp

section Absolute

variable (hroot : root.path.isAbsolute = true)

include hroot

/-- The root of an absolute path has an identifier. -/
theorem exists_effectiveFolder :
    ∃ folder, effectiveFolder workingDirectory root = .ok folder := by
  have habsolute : (Path.absoluteOrSame workingDirectory root.path).isAbsolute = true :=
    (Path.settled_of_isAbsolute hroot).isAbsolute
  simp only [effectiveFolder, Root.uri?, Uri.ofPath?, if_pos habsolute]
  exact ⟨_, rfl⟩

/-- The root of an absolute path is a folder of the protocol exactly if its identifier is strict. -/
theorem exists_workspaceFolder_iff :
    (∃ folder, workspaceFolder workingDirectory root = .ok folder) ↔ Uri.IsStrict root.path := by
  have hcomponents : (Path.absoluteOrSame workingDirectory root.path).components =
      root.path.components := (Path.settled_of_isAbsolute hroot).components_eq
  have hfolder : ∃ folder, effectiveFolder workingDirectory root = .ok folder :=
    exists_effectiveFolder hroot
  rcases hfolder with ⟨⟨uri, name⟩, heffective⟩
  have huri : Uri.ofPath? (Path.absoluteOrSame workingDirectory root.path) = some uri := by
    rcases Option.map_eq_some_iff.mp (effectiveFolder_eq_ok_iff.mp heffective) with
      ⟨found, hfound, hpair⟩
    rwa [(Prod.mk.inj hpair).1] at hfound
  calc
    (∃ folder, workspaceFolder workingDirectory root = .ok folder) ↔
        Uri.fault? uri.toList = none := by
      simp only [workspaceFolder_eq_ok_iff, heffective, Except.ok.injEq, exists_eq_left']
    _ ↔ Uri.IsStrict (Path.absoluteOrSame workingDirectory root.path) := Uri.fault?_ofPath? huri
    _ ↔ Uri.IsStrict root.path := by rw [Uri.IsStrict, hcomponents, Uri.IsStrict]

end Absolute

/-- What is sent as the folders of the protocol is what the options name. -/
theorem effectiveFolders_of_workspaceFolders
    (h : configuration.workspaceFolders workingDirectory = .ok folders) :
    configuration.effectiveFolders workingDirectory = .ok folders := by
  rw [workspaceFolders, mapM_eq_ok_iff] at h
  rw [effectiveFolders, mapM_eq_ok_iff]
  exact h.imp fun root folder hfolder => (workspaceFolder_eq_ok_iff.mp hfolder).1

theorem effectiveFolders_eq_ok_iff :
    configuration.effectiveFolders workingDirectory = .ok folders ↔
      folders.map some = configuration.roots.map (named? workingDirectory) :=
  mapM_eq_ok_iff_map fun _ _ _ => effectiveFolder_eq_ok_iff

/-- The options are there exactly if the identifiers are, and they name them. -/
theorem initializationOptions_eq_ok {options : Json}
    (h : configuration.initializationOptions workingDirectory = .ok options) :
    ∃ folders, configuration.effectiveFolders workingDirectory = .ok folders ∧
      options.get? "effectiveWorkspaceFolders" = some (foldersJson folders) := by
  rw [initializationOptions] at h
  cases heffective : configuration.effectiveFolders workingDirectory with
  | error error =>
      rw [heffective] at h
      exact absurd h (by simp [Except.map])
  | ok folders =>
      rw [heffective] at h
      refine ⟨folders, rfl, ?_⟩
      rw [← Except.ok.inj h]
      rfl

theorem same_of_ok {options : Json}
    (hfolders : configuration.workspaceFolders workingDirectory = .ok folders)
    (hoptions : configuration.initializationOptions workingDirectory = .ok options) :
    options.get? "effectiveWorkspaceFolders" = some (foldersJson folders) := by
  rcases initializationOptions_eq_ok hoptions with ⟨found, hfound, hnamed⟩
  rw [effectiveFolders_of_workspaceFolders hfolders] at hfound
  rw [hnamed, Except.ok.inj hfound]

theorem exists_handshake {profile : ClientProfile} {parameters : Json}
    (h : profile.handshake = .ok parameters) :
    ∃ folders options,
      profile.configuration.workspaceFolders profile.workingDirectory = .ok folders ∧
      profile.configuration.initializationOptions profile.workingDirectory = .ok options ∧
      parameters.get? "workspaceFolders" = some (foldersJson folders) ∧
      parameters.get? "initializationOptions" = some options := by
  rw [ClientProfile.handshake] at h
  cases hfolders : profile.configuration.workspaceFolders profile.workingDirectory with
  | error error =>
      rw [hfolders] at h
      exact absurd h (by simp [Except.bind])
  | ok folders =>
      cases hoptions : profile.configuration.initializationOptions profile.workingDirectory with
      | error error =>
          rw [hfolders, hoptions] at h
          exact absurd h (by simp [Except.bind, Except.map])
      | ok options =>
          rw [hfolders, hoptions] at h
          refine ⟨folders, options, rfl, rfl, ?_, ?_⟩
          · rw [← Except.ok.inj h]
            rfl
          · rw [← Except.ok.inj h]
            rfl

section Roots

variable (hroots : ∀ root ∈ configuration.roots, root.path.isAbsolute = true)

include hroots

theorem exists_workspaceFolders_iff :
    (∃ folders, configuration.workspaceFolders workingDirectory = .ok folders) ↔
      ∀ root ∈ configuration.roots, Uri.IsStrict root.path := by
  rw [workspaceFolders, exists_mapM_eq_ok_iff]
  exact forall₂_congr fun root hroot => exists_workspaceFolder_iff (hroots root hroot)

theorem exists_initializationOptions :
    ∃ options, configuration.initializationOptions workingDirectory = .ok options := by
  have heffective : ∃ folders, configuration.effectiveFolders workingDirectory = .ok folders := by
    rw [effectiveFolders, exists_mapM_eq_ok_iff]
    intro root hroot
    exact exists_effectiveFolder (hroots root hroot)
  rcases heffective with ⟨folders, hfolders⟩
  rw [initializationOptions, hfolders]
  exact ⟨_, rfl⟩

/-- Where the roots are absolute paths, the two lists agree exactly if no name on the way to a root
has a bracket, a caret or a bar. -/
theorem foldersAgree_iff :
    FoldersAgree workingDirectory configuration ↔
      ∀ root ∈ configuration.roots, Uri.IsStrict root.path := by
  have hoptions : ∃ options,
      configuration.initializationOptions workingDirectory = .ok options :=
    exists_initializationOptions hroots
  constructor
  · intro hagree
    exact (exists_workspaceFolders_iff hroots).mp (hagree.outcome.mpr hoptions)
  · intro hstrict
    refine ⟨⟨fun _ => hoptions, fun _ => (exists_workspaceFolders_iff hroots).mpr hstrict⟩, ?_, ?_⟩
    · intro folders options hfolders hgiven
      exact ⟨effectiveFolders_eq_ok_iff.mp (effectiveFolders_of_workspaceFolders hfolders),
        same_of_ok hfolders hgiven⟩
    · intro profile hdirectory hconfiguration parameters hparameters
      rcases exists_handshake hparameters with
        ⟨folders, options, hfolders, hgiven, hsent, hnamed⟩
      rw [hsent, hnamed, Option.bind_some, same_of_ok hfolders hgiven]
      exact ⟨rfl, rfl⟩

end Roots

def practiceFolders (path : String) : ClientConfiguration where
  roots := [⟨.ofString path, "practice", 0⟩]
  debounceMs := 300
  contribLibraries := none

theorem foldersAgree_of_practiceFolders :
    (∀ root ∈ (practiceFolders "/proj/src").roots, root.path.isAbsolute = true) ∧
      FoldersAgree (.ofString "/work") (practiceFolders "/proj/src") := by
  have habsolute : ∀ root ∈ (practiceFolders "/proj/src").roots, root.path.isAbsolute = true := by
    decide +kernel
  exact ⟨habsolute, (foldersAgree_iff habsolute).mpr (by decide +kernel)⟩

/-- A directory with a bracket in its name has options, but no folders. -/
theorem not_foldersAgree_of_practiceFolders :
    (∀ root ∈ (practiceFolders "/proj/[id]").roots, root.path.isAbsolute = true) ∧
      (practiceFolders "/proj/[id]").effectiveFolders (.ofString "/work") =
        .ok [("file:///proj/[id]", "practice")] ∧
      ¬ FoldersAgree (.ofString "/work") (practiceFolders "/proj/[id]") := by
  have hfault : (practiceFolders "/proj/[id]").workspaceFolders (.ofString "/work") =
      .error (.invalidUri "file:///proj/[id]" 13) := by
    decide +kernel
  refine ⟨by decide +kernel, by decide +kernel, fun hagree => ?_⟩
  rcases hagree.outcome.mpr ⟨_, rfl⟩ with ⟨folders, hfolders⟩
  rw [hfault] at hfolders
  exact absurd hfolders (by simp)

end ClientConfiguration

end NplLifecycle
