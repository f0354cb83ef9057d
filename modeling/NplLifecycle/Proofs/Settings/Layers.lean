import NplLifecycle.Proofs.Settings.Reading
import NplLifecycle.Proofs.Text.Split

/-!
# The highest layer wins

The user's file, the folder's file and the environment are well-typed if each puts only leaves of
the right type at the places of the settings, and nothing in the way.  Then each setting has the
value that the highest layer gives, or its default if no layer gives one.  There is one exception:
a setting that is given under both of its names, even if by different layers, takes all settings
away.  The names of variables are lower-case, so a variable never replaces what a file gives under
a name with capitals.
-/

namespace NplLifecycle.Settings

abbrev Layer := List (String × Tree)

/-- A layer puts only leaves of the right type at the places of the settings. -/
def WellTyped (layer : Layer) : Prop :=
  ∀ key : SettingKey, ∀ place ∈ key.places, ∃ leaves ∈ Tree.layerLeaves? place layer,
    ∀ leaf ∈ leaves, (key.read? leaf).isSome

instance {layer : Layer} : Decidable (WellTyped layer) :=
  inferInstanceAs (Decidable (∀ _, _))

/-- A layer gives something at a place. -/
def Gives (layer : Layer) (place : List String) : Prop :=
  ∃ leaves ∈ Tree.layerLeaves? place layer, leaves ≠ []

instance {layer : Layer} {place : List String} : Decidable (Gives layer place) :=
  inferInstanceAs (Decidable (∃ _, _))

/-- No setting is given at two places, by one layer or by several. -/
def Unambiguous (layers : List Layer) : Prop :=
  ∀ key : SettingKey, ∀ place ∈ key.places, ∀ other ∈ key.places,
    (∃ layer ∈ layers, Gives layer place) → (∃ layer ∈ layers, Gives layer other) → place = other

instance {layers : List Layer} : Decidable (Unambiguous layers) :=
  inferInstanceAs (Decidable (∀ _, _))

/-- The value that a layer gives to a setting: that of the last leaf which it puts there. -/
def given? (key : SettingKey) (layer : Layer) : Option Json :=
  key.places.findSome? fun place =>
    ((Tree.layerLeaves? place layer).bind List.getLast?).bind key.read?

/-- The value of a setting in layers, the lowest first: what the highest layer gives that gives
one, or the default. -/
def winner (key : SettingKey) (layers : List Layer) : Json :=
  (layers.reverse.findSome? (given? key)).getD key.unset

theorem stepsOf_name (key : SettingKey) :
    Tree.stepsOf key.name = key.segments.map .member := by
  cases key <;> decide +kernel

section Default

def defaultTree : Tree :=
  Tree.setAll (.table []) defaultLayer

theorem defaultTree_eq :
    defaultTree = .table [("server", .table [("debouncing", .table [("time",
      .table [("ms", .int defaultDebounceMs)])])])] := by
  rw [defaultTree, defaultLayer, Tree.setAll, List.foldl_cons, List.foldl_nil, Tree.set,
    stepsOf_name]
  rfl

theorem clear_defaultTree : Clear defaultTree := by
  intro key
  rw [defaultTree_eq]
  cases key <;>
    simp [SettingKey.places, Tree.Clear, Tree.isTable, Tree.members, Json.lookup_cons_eq_ite]

theorem readFrom?_defaultTree (key : SettingKey) :
    key.readFrom? defaultTree = some key.unset := by
  rw [defaultTree_eq]
  cases key <;> rfl

/-- Only the debounce interval has a leaf, and it has only one place. -/
theorem at?_defaultTree_of_ne {key : SettingKey} {place other : List String}
    (hplace : place ∈ key.places) (hother : other ∈ key.places) (hne : other ≠ place) :
    defaultTree.at? other = none := by
  rw [defaultTree_eq]
  cases key with
  | sources | debounceMs =>
      rw [List.mem_singleton.mp hplace, List.mem_singleton.mp hother] at hne
      exact absurd rfl hne
  | testSources | contribLibraries | frontendSources =>
      simp only [SettingKey.places, List.mem_cons, List.not_mem_nil, or_false] at hother
      rcases hother with rfl | rfl <;> rfl

end Default

section Merging

variable {layers : List Layer} {key : SettingKey} {place other : List String} {tree : Tree}

def leavesOf (place : List String) (layer : Layer) : List Tree :=
  (Tree.layerLeaves? place layer).getD []

theorem layerLeaves?_eq_leavesOf {layer : Layer} (h : WellTyped layer)
    (hplace : place ∈ key.places) :
    Tree.layerLeaves? place layer = some (leavesOf place layer) := by
  obtain ⟨leaves, hleaves, -⟩ := h key place hplace
  rw [leavesOf, hleaves, Option.getD_some]

theorem puts_foldl_setAll (h : ∀ layer ∈ layers, WellTyped layer) (hplace : place ∈ key.places)
    (hclear : Tree.Clear place tree) :
    Tree.Puts place (layers.flatMap (leavesOf place)) tree (layers.foldl Tree.setAll tree) := by
  induction layers generalizing tree with
  | nil => exact ⟨hclear, rfl⟩
  | cons layer layers ih =>
      obtain ⟨hlayer, hlayers⟩ := List.forall_mem_cons.mp h
      have hone := Tree.puts_setAll hclear (layerLeaves?_eq_leavesOf hlayer hplace)
      rw [List.flatMap_cons]
      exact hone.trans (ih hlayers hone.clear)

theorem findSome?_bind {α β γ : Type} {items : List α} {f : α → Option β} {g : β → Option γ}
    (h : ∀ item ∈ items, ∀ b, f item = some b → (g b).isSome) :
    items.findSome? (fun item => (f item).bind g) = (items.findSome? f).bind g := by
  induction items with
  | nil => rfl
  | cons item items ih =>
      obtain ⟨hitem, hitems⟩ := List.forall_mem_cons.mp h
      rw [List.findSome?_cons, List.findSome?_cons]
      cases hf : f item with
      | none => exact ih hitems
      | some b =>
          obtain ⟨c, hc⟩ := Option.isSome_iff_exists.mp (hitem b hf)
          rw [Option.bind_some, hc]

theorem filterMap_eq_toList {α β : Type} {items : List α} {f : α → Option β} {item : α}
    (hnodup : items.Nodup) (hmem : item ∈ items)
    (hothers : ∀ other ∈ items, other ≠ item → f other = none) :
    items.filterMap f = (f item).toList := by
  obtain ⟨front, behind, rfl⟩ := List.append_of_mem hmem
  have hnot : ∀ other ∈ front ++ behind, other ≠ item := by
    rintro other hother rfl
    exact (List.nodup_cons.mp (List.nodup_middle.mp hnodup)).1 hother
  have hfront : front.filterMap f = [] := List.filterMap_eq_nil_iff.mpr fun other hother =>
    hothers other (List.mem_append_left _ hother) (hnot other (List.mem_append_left _ hother))
  have hbehind : behind.filterMap f = [] := List.filterMap_eq_nil_iff.mpr fun other hother =>
    hothers other (List.mem_append_right _ (List.mem_cons_of_mem _ hother))
      (hnot other (List.mem_append_right _ hother))
  rw [List.filterMap_append, hfront, List.nil_append, List.filterMap_cons, hbehind]
  cases f item with
  | none => rfl
  | some b => rfl

theorem eq_of_filterMap_eq_singleton {α β : Type} {items : List α} {f : α → Option β} {b : β}
    {item other : α} (h : items.filterMap f = [b]) (hitem : item ∈ items) (hother : other ∈ items)
    (hf : f item ≠ none) (hfother : f other ≠ none) : item = other := by
  obtain ⟨front, found, behind, rfl, hfront, -, hbehind⟩ := List.filterMap_eq_cons_iff.mp h
  have honly : ∀ candidate ∈ front ++ found :: behind, f candidate ≠ none → candidate = found := by
    intro candidate hmem hsome
    cases List.mem_append.mp hmem with
    | inl hmem => exact absurd (hfront candidate hmem) hsome
    | inr hmem =>
        cases List.mem_cons.mp hmem with
        | inl heq => exact heq
        | inr hmem => exact absurd (List.filterMap_eq_nil_iff.mp hbehind candidate hmem) hsome
  rw [honly item hitem hf, honly other hother hfother]

/-- The leaf that is found at a place is that of the highest layer which puts one there. -/
theorem at?_foldl_setAll (h : ∀ layer ∈ layers, WellTyped layer) (hplace : place ∈ key.places) :
    (layers.foldl Tree.setAll defaultTree).at? place =
      (layers.reverse.findSome? fun layer => (leavesOf place layer).getLast?).or
        (defaultTree.at? place) := by
  rw [(puts_foldl_setAll h hplace (clear_defaultTree key place hplace)).found,
    List.getLast?_flatMap]

theorem gives_iff {layer : Layer} (h : WellTyped layer) (hplace : place ∈ key.places) :
    Gives layer place ↔ leavesOf place layer ≠ [] := by
  rw [Gives, layerLeaves?_eq_leavesOf h hplace]
  simp only [Option.mem_some_iff, exists_eq_left']

/-- Where no other place of a setting is given, a layer gives what it puts at the place. -/
theorem given?_eq {layer : Layer} (h : WellTyped layer) (hplace : place ∈ key.places)
    (hothers : ∀ other ∈ key.places, other ≠ place → ¬Gives layer other) :
    given? key layer = (leavesOf place layer).getLast?.bind key.read? := by
  rw [given?, ← List.head?_filterMap, filterMap_eq_toList key.nodup_places hplace]
  · rw [layerLeaves?_eq_leavesOf h hplace, Option.bind_some, Option.head?_toList]
  · intro other hother hne
    have hnone := hothers other hother hne
    rw [gives_iff h hother, not_not] at hnone
    rw [layerLeaves?_eq_leavesOf h hother, hnone]
    rfl

theorem isSome_read?_of_getLast? {layer : Layer} {leaf : Tree} (h : WellTyped layer)
    (hplace : place ∈ key.places) (hlast : (leavesOf place layer).getLast? = some leaf) :
    (key.read? leaf).isSome := by
  obtain ⟨leaves, hleaves, hread⟩ := h key place hplace
  rw [leavesOf, hleaves, Option.getD_some] at hlast
  exact hread leaf (List.mem_of_getLast? hlast)

theorem findSome?_getLast?_eq_none_iff (h : ∀ layer ∈ layers, WellTyped layer)
    (hplace : place ∈ key.places) :
    (layers.reverse.findSome? fun layer => (leavesOf place layer).getLast?) = none ↔
      ∀ layer ∈ layers, ¬Gives layer place := by
  rw [List.findSome?_eq_none_iff]
  constructor
  · intro hnone layer hlayer
    rw [gives_iff (h layer hlayer) hplace, not_not]
    exact List.getLast?_eq_none_iff.mp (hnone layer (List.mem_reverse.mpr hlayer))
  · intro hnone layer hlayer
    have hmem := List.mem_reverse.mp hlayer
    have hnot := hnone layer hmem
    rw [gives_iff (h layer hmem) hplace, not_not] at hnot
    rw [hnot, List.getLast?_nil]

/-- A setting that no layer gives has its default. -/
theorem readFrom?_of_none (h : ∀ layer ∈ layers, WellTyped layer)
    (hnone : ∀ place ∈ key.places, ∀ layer ∈ layers, ¬Gives layer place) :
    key.readFrom? (layers.foldl Tree.setAll defaultTree) = some (winner key layers) := by
  have hplaces : key.places.filterMap (Tree.at? · (layers.foldl Tree.setAll defaultTree)) =
      key.places.filterMap (Tree.at? · defaultTree) := by
    refine List.filterMap_congr fun place hplace => ?_
    rw [at?_foldl_setAll h hplace,
      (findSome?_getLast?_eq_none_iff h hplace).mpr (hnone place hplace), Option.none_or]
  have hgiven : layers.reverse.findSome? (given? key) = none := by
    refine List.findSome?_eq_none_iff.mpr fun layer hlayer => ?_
    refine List.findSome?_eq_none_iff.mpr fun place hplace => ?_
    have hmem := List.mem_reverse.mp hlayer
    have hnot := hnone place hplace layer hmem
    rw [gives_iff (h layer hmem) hplace, not_not] at hnot
    rw [layerLeaves?_eq_leavesOf (h layer hmem) hplace, hnot]
    rfl
  rw [SettingKey.readFrom?, hplaces, ← SettingKey.readFrom?, readFrom?_defaultTree, winner, hgiven,
    Option.getD_none]

/-- A setting that is given at one place only is read from the last leaf of the highest layer
that gives it. -/
theorem readFrom?_of_only (h : ∀ layer ∈ layers, WellTyped layer) (hplace : place ∈ key.places)
    (hgiven : ∃ layer ∈ layers, Gives layer place)
    (hothers : ∀ other ∈ key.places, other ≠ place → ∀ layer ∈ layers, ¬Gives layer other) :
    key.readFrom? (layers.foldl Tree.setAll defaultTree) = some (winner key layers) := by
  obtain ⟨leaf, hleaf⟩ : ∃ leaf,
      (layers.reverse.findSome? fun layer => (leavesOf place layer).getLast?) = some leaf := by
    obtain ⟨layer, hlayer, hgives⟩ := hgiven
    refine Option.ne_none_iff_exists'.mp fun hnone => ?_
    exact (findSome?_getLast?_eq_none_iff h hplace).mp hnone layer hlayer hgives
  have hplaces : key.places.filterMap (Tree.at? · (layers.foldl Tree.setAll defaultTree)) =
      [leaf] := by
    rw [filterMap_eq_toList key.nodup_places hplace, at?_foldl_setAll h hplace, hleaf]
    · rfl
    · intro other hother hne
      rw [at?_foldl_setAll h hother, at?_defaultTree_of_ne hplace hother hne, Option.or_none]
      exact (findSome?_getLast?_eq_none_iff h hother).mpr (hothers other hother hne)
  have hread : ∀ layer ∈ layers.reverse, ∀ leaf, (leavesOf place layer).getLast? = some leaf →
      (key.read? leaf).isSome := fun layer hlayer _ hlast =>
    isSome_read?_of_getLast? (h layer (List.mem_reverse.mp hlayer)) hplace hlast
  have hsame : layers.reverse.filterMap (given? key) =
      layers.reverse.filterMap fun layer => (leavesOf place layer).getLast?.bind key.read? :=
    List.filterMap_congr fun layer hlayer =>
      have hmem := List.mem_reverse.mp hlayer
      given?_eq (h layer hmem) hplace fun other hother hne => hothers other hother hne layer hmem
  have hwinner : layers.reverse.findSome? (given? key) = key.read? leaf := by
    rw [← List.head?_filterMap, hsame, List.head?_filterMap, findSome?_bind hread, hleaf,
      Option.bind_some]
  obtain ⟨layer, hlayer, hlast⟩ := List.exists_of_findSome?_eq_some hleaf
  obtain ⟨value, hvalue⟩ := Option.isSome_iff_exists.mp (hread layer hlayer leaf hlast)
  rw [SettingKey.readFrom?, hplaces, winner, hwinner, hvalue, Option.getD_some]
  exact hvalue

/-- A setting that is given at two places is not read. -/
theorem readFrom?_of_two (h : ∀ layer ∈ layers, WellTyped layer) (hplace : place ∈ key.places)
    (hother : other ∈ key.places) (hne : place ≠ other)
    (hgiven : ∃ layer ∈ layers, Gives layer place)
    (hagain : ∃ layer ∈ layers, Gives layer other) :
    key.readFrom? (layers.foldl Tree.setAll defaultTree) = none := by
  have hfound : ∀ found ∈ key.places, (∃ layer ∈ layers, Gives layer found) →
      (layers.foldl Tree.setAll defaultTree).at? found ≠ none := by
    rintro found hfound ⟨layer, hlayer, hgives⟩ hnone
    rw [at?_foldl_setAll h hfound, Option.or_eq_none_iff,
      findSome?_getLast?_eq_none_iff h hfound] at hnone
    exact hnone.1 layer hlayer hgives
  rw [SettingKey.readFrom?]
  split
  · rename_i hnil
    exact absurd (List.filterMap_eq_nil_iff.mp hnil place hplace) (hfound place hplace hgiven)
  · rename_i leaf hsingle
    exact absurd (eq_of_filterMap_eq_singleton hsingle hplace hother (hfound place hplace hgiven)
      (hfound other hother hagain)) hne
  · rfl

theorem clear_foldl_setAll (h : ∀ layer ∈ layers, WellTyped layer) :
    Clear (layers.foldl Tree.setAll defaultTree) := fun key place hplace =>
  (puts_foldl_setAll h hplace (clear_defaultTree key place hplace)).clear

/-- Layers in which no setting is given at two places are read as their winners. -/
theorem ofTree?_of_unambiguous (h : ∀ layer ∈ layers, WellTyped layer)
    (hone : Unambiguous layers) :
    ∃ settings, ofTree? (layers.foldl Tree.setAll defaultTree) = some settings ∧
      ∀ key, settings.value key = winner key layers := by
  have hread : ∀ key : SettingKey,
      key.readFrom? (layers.foldl Tree.setAll defaultTree) = some (winner key layers) := by
    intro key
    by_cases hgiven : ∃ place ∈ key.places, ∃ layer ∈ layers, Gives layer place
    · obtain ⟨place, hplace, hsome⟩ := hgiven
      exact readFrom?_of_only h hplace hsome fun other hother hne layer hlayer hgives =>
        hne (hone key other hother place hplace ⟨layer, hlayer, hgives⟩ hsome)
    · exact readFrom?_of_none h fun place hplace layer hlayer hgives =>
        hgiven ⟨place, hplace, layer, hlayer, hgives⟩
  exact (exists_ofTree?_iff_of_clear (clear_foldl_setAll h)).mpr hread

/-- Layers in which some setting is given at two places are refused. -/
theorem ofTree?_of_ambiguous (h : ∀ layer ∈ layers, WellTyped layer)
    (htwo : ¬Unambiguous layers) : ofTree? (layers.foldl Tree.setAll defaultTree) = none := by
  simp only [Unambiguous, not_forall] at htwo
  obtain ⟨key, place, hplace, other, hother, hgiven, hagain, hne⟩ := htwo
  refine Option.eq_none_iff_forall_ne_some.mpr fun settings hsettings => ?_
  have hread := (exists_ofTree?_iff_of_clear (clear_foldl_setAll h)).mp
    ⟨settings, hsettings, fun _ => rfl⟩ key
  rw [readFrom?_of_two h hplace hother hne hgiven hagain] at hread
  exact absurd hread (by simp)

end Merging

/-- Of well-typed layers the highest wins, unless a setting is given at two places; then the
settings are refused. -/
theorem highest_layer_wins {store : Files.Store} {environment : Environment}
    {userFile folder : Option Path} {user own named : Layer}
    (huser : optionalLayer? store userFile = some user)
    (hown : optionalLayer? store (folder.map folderFile) = some own)
    (hnamed : environmentLayer? environment = some named)
    (htyped : ∀ layer ∈ [user, own, named], WellTyped layer) :
    (Unambiguous [user, own, named] →
      ∃ settings, load store environment userFile folder = .ok settings ∧
        ∀ key, settings.value key = winner key [user, own, named]) ∧
    (¬Unambiguous [user, own, named] →
      load store environment userFile folder = .error .read) := by
  have hload : load store environment userFile folder =
      (ofTree? ([user, own, named].foldl Tree.setAll defaultTree)).elim (.error .read) .ok := by
    rw [load, huser, hown, hnamed]
    rfl
  constructor
  · intro hone
    obtain ⟨settings, hread, hvalue⟩ := ofTree?_of_unambiguous htyped hone
    exact ⟨settings, by rw [hload, hread, Option.elim_some], hvalue⟩
  · intro htwo
    rw [hload, ofTree?_of_ambiguous htyped htwo, Option.elim_none]

/-- A variable whose name behind `NPL_` has no underscore gives what that names. -/
theorem environmentLayer?_singleton (text : String) {name value : List UInt8} {key read : String}
    (hname : Text.decode? name = some text) (hvalue : Text.decode? value = some read)
    (hsection : "npl_".toList.isPrefixOf (text.toList.map Text.lowerAscii))
    (hkey : String.ofList ((text.toList.map Text.lowerAscii).drop 4) = key)
    (hwhole : '_' ∉ key.toList) :
    environmentLayer? [(name, value)] = some [(key, .text read)] := by
  have hsplit : key.splitOn "__" = [key] := Text.splitOn_of_not_mem ['_'] hwhole
  have hvariable : variableKey? name = some key := by
    rw [variableKey?, hname, Option.bind_some, if_pos hsection, hkey, hsplit]
    simp
  simp [environmentLayer?, hvariable, hvalue]

section Practice

def practiceUserFile : Path :=
  ⟨Text.encode "/user.json"⟩

def practiceFolder : Path :=
  ⟨Text.encode "/f"⟩

def practiceStore (user own : String) : Files.Store where
  workingDirectory := ⟨Text.encode "/"⟩
  entries := [([Text.encode "user.json"], .file (Text.encode user)),
    ([Text.encode "f", Text.encode ".npl", Text.encode "settings.json"], .file (Text.encode own))]

/-- Files that both give the sources; each gives another setting besides, the user's file by a
name in lower case and the folder's file by nested members. -/
def practiceLayered : Files.Store :=
  practiceStore "\x7b\"contriblibraries\":\"l\",\"sources\":\"/u\"\x7d"
    "\x7b\"sources\":\"/f\",\"server\":\x7b\"debouncing\":\x7b\"time\":\x7b\"ms\":2\x7d\x7d\x7d\x7d"

def practiceEnvironment (name value : String) : Environment :=
  [(Text.encode name, Text.encode value)]

/-- The layer of a source that has one. -/
theorem eq_some_getD {layer : Option Layer} (h : layer.isSome) : layer = some (layer.getD []) := by
  obtain ⟨entries, rfl⟩ := Option.isSome_iff_exists.mp h
  rfl

theorem highest_layer_wins_of_practiceLayers :
    ∃ settings, load practiceLayered
        (practiceEnvironment "npl_Sources" "/e") (some practiceUserFile)
        (some practiceFolder) = .ok settings ∧
      settings.value .sources = .str "/e" ∧ settings.value .testSources = .null ∧
      settings.value .contribLibraries = .ofStrings ["l"] ∧
      settings.value .frontendSources = .null ∧ settings.value .debounceMs = .int 2 := by
  have hnamed : environmentLayer? (practiceEnvironment "npl_Sources" "/e") =
      some [("sources", .text "/e")] :=
    environmentLayer?_singleton "npl_Sources" (by decide +kernel) (by decide +kernel)
      (by decide +kernel) (by decide +kernel) (by decide)
  have huser : (optionalLayer? practiceLayered (some practiceUserFile)).isSome := by decide +kernel
  have hown : (optionalLayer? practiceLayered
      ((some practiceFolder).map folderFile)).isSome := by decide +kernel
  have hwins := highest_layer_wins (eq_some_getD huser) (eq_some_getD hown) hnamed
    (by decide +kernel)
  obtain ⟨settings, hload, hvalue⟩ := hwins.1 (by decide +kernel)
  refine ⟨settings, hload, ?_⟩
  rw [hvalue, hvalue, hvalue, hvalue, hvalue]
  decide +kernel

/-- A user's file that gives a setting, and no other file. -/
def practiceGiven : Files.Store :=
  practiceStore "\x7b\"testSources\":\"/u\"\x7d" "\x7b\x7d"

/-- Both layers are well-typed and the environment is the higher one, but it names the setting in
lower case, so the settings are refused. -/
theorem not_won_of_practiceVariable :
    ∃ user named, optionalLayer? practiceGiven (some practiceUserFile) = some user ∧
      environmentLayer? (practiceEnvironment "NPL_TESTSOURCES" "/e") = some named ∧
      WellTyped user ∧ WellTyped named ∧ winner .testSources [user, [], named] = .str "/e" ∧
      load practiceGiven (practiceEnvironment "NPL_TESTSOURCES" "/e") (some practiceUserFile)
        none = .error .read := by
  have hnamed : environmentLayer? (practiceEnvironment "NPL_TESTSOURCES" "/e") =
      some [("testsources", .text "/e")] :=
    environmentLayer?_singleton "NPL_TESTSOURCES" (by decide +kernel)
      (by decide +kernel) (by decide +kernel) (by decide +kernel) (by decide)
  have huser : (optionalLayer? practiceGiven (some practiceUserFile)).isSome := by decide +kernel
  refine ⟨_, _, eq_some_getD huser, hnamed, by decide +kernel, by decide +kernel,
    by decide +kernel, ?_⟩
  rw [load, eq_some_getD huser, hnamed]
  decide +kernel

end Practice

end NplLifecycle.Settings
