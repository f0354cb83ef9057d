import NplLifecycle.Proofs.Settings.Rivals

/-!
# Storing a setting

A setting that is stored is loaded again with the stored value, and the others keep theirs, for
every value of its type, exactly if three things hold of the document in the settings file: the
editor can read it as an object, only objects are on the way to the setting, and no other member of
the document touches the places of the setting.  A member does so by the setting's lower-case name,
or by an expression that goes on behind the first name.
-/

namespace NplLifecycle

open Files (Store)
open Settings (Tree)

namespace SettingKey

/-- The least value of a setting's type. -/
def least : SettingKey → Json
  | .contribLibraries => .ofStrings []
  | .debounceMs => .int 0
  | _ => .str ""

theorem admits_least (key : SettingKey) : key.Admits key.least := by
  cases key with
  | sources | testSources | frontendSources => exact ⟨"", rfl⟩
  | contribLibraries => exact ⟨[], rfl⟩
  | debounceMs => exact ⟨0, rfl, by decide, by decide⟩

theorem head_mem_names {key : SettingKey} {name : String} {rest : List String}
    (h : name :: rest ∈ key.places) : name ∈ key.names := by
  cases key <;> simp_all [places, names] <;> exact h.imp And.left And.left

theorem root_mem_names (key : SettingKey) : key.root ∈ key.names := by
  cases key <;> decide

theorem tail_eq_nil_of_ne {key : SettingKey} (h : key ≠ .debounceMs) :
    key.segments.tail = [] ∧ key.readMember? = key.read? := by
  cases key <;> first | exact absurd rfl h | exact ⟨rfl, rfl⟩

/-- No table and no list with items stands for the least value. -/
theorem read?_ne_least {key : SettingKey} {tree : Tree} (hne : key ≠ .debounceMs)
    (h : Tree.Crowded tree) : key.read? tree ≠ some key.least := by
  have hlibraries : ∀ items : List Tree, items ≠ [] →
      contribLibraries.read? (.list items) ≠ some (.ofStrings []) := by
    intro items hitems hread
    obtain ⟨texts, htexts, hsame⟩ := Option.map_eq_some_iff.mp hread
    obtain ⟨read, hmap, rfl⟩ := Option.map_eq_some_iff.mp htexts
    cases items with
    | nil => exact hitems rfl
    | cons item items =>
        rw [List.mapM_cons] at hmap
        obtain ⟨first, -, hmore⟩ := Option.bind_eq_some_iff.mp hmap
        obtain ⟨more, -, hread⟩ := Option.bind_eq_some_iff.mp hmore
        rw [← Option.some.inj hread] at hsame
        exact absurd (Json.arr.inj hsame) (List.cons_ne_nil _ _)
  cases tree with
  | table members =>
      cases key with
      | debounceMs => exact absurd rfl hne
      | contribLibraries | sources | testSources | frontendSources =>
          simp [read?, Tree.libraries?, Tree.optionalText?, Tree.asText?]
  | list items =>
      have hitems : items ≠ [] := h.resolve_left (by simp [Tree.isTable])
      cases key with
      | contribLibraries => exact hlibraries items hitems
      | debounceMs => exact absurd rfl hne
      | sources | testSources | frontendSources =>
          simp [read?, Tree.optionalText?, Tree.asText?]
  | nothing | bool _ | int _ | float _ | text _ =>
      exact absurd h (by simp [Tree.Crowded, Tree.isTable, Tree.items])

end SettingKey

namespace Settings

variable {store : Store} {environment : Environment} {folder : Path} {key : SettingKey}
  {value : Json} {name : String} {tree member : Tree} {members : List (String × Json)}

section Rivals

/-- A setting that is read is read from its only member. -/
theorem readMember?_of_readField? (h : key.readField? tree = some value) (hname : name ∈ key.names)
    (hfound : tree.members.lookup name = some member) :
    key.readMember? member = some value ∧
      ∀ other ∈ key.names, tree.members.lookup other ≠ none → other = name := by
  rw [SettingKey.readField?] at h
  split at h
  · rename_i hnil
    exact absurd (List.filterMap_eq_nil_iff.mp hnil name hname) (by simp [hfound])
  · rename_i only hsingle
    have hmember : member ∈ [only] := hsingle ▸ List.mem_filterMap.mpr ⟨name, hname, hfound⟩
    refine ⟨List.mem_singleton.mp hmember ▸ h, fun other hother hthere => ?_⟩
    exact eq_of_filterMap_eq_singleton hsingle hother hname hthere (by simp [hfound])
  · exact absurd h (by simp)

/-- Under the name of a setting only what stands behind its own member counts. -/
theorem lookup_treeOf_edit {front behind : List (String × Json)} {inner : Json}
    (hinsert : Json.insertMember key.root inner members = front ++ (key.root, inner) :: behind)
    (hfront : ∀ member ∈ front, member.1 < key.root) :
    (treeOf (Json.insertMember key.root inner members)).members.lookup key.root =
      Tree.memberAfter key.root (some (Tree.merge
          ((defaultTree.members.lookup key.root).getD .nothing) (Tree.ofJson inner)))
        (Tree.ofMembers behind) := by
  have hbelow : Tree.stepsBelow key.root = [] := by
    rw [Tree.stepsBelow, key.stepsOf_root, List.tail_cons]
  have hother : ∀ entry ∈ Tree.ofMembers front, Tree.rootOf entry.1 ≠ key.root := by
    intro entry hentry hroot
    obtain ⟨member, hmember, rfl⟩ := Tree.mem_ofMembers hentry
    have hless := hfront member hmember
    by_cases hsame : member.1 = key.root
    · exact String.lt_irrefl _ (hsame ▸ hless)
    · exact String.lt_irrefl _ (String.lt_trans hless (Tree.lt_of_rootOf_eq hroot hsame).1)
  have hown : Tree.rootOf (key.root, Tree.ofJson inner).1 = key.root := key.rootOf_root
  rw [treeOf, Tree.lookup_setAll, hinsert, Tree.ofMembers_append, Tree.memberAfter_append,
    Tree.memberAfter_of_ne hother, Tree.ofMembers, Tree.memberAfter_cons,
    Tree.memberAfter_singleton hown, hbelow, Tree.adjustAt]

/-- Every edit of a setting is read back. -/
def ReadsBack (key : SettingKey) (members : List (String × Json)) : Prop :=
  ∀ value edited, key.Admits value →
    assign? value key.segments (.obj members) = some (.obj edited) →
    key.readField? (treeOf edited) = some value

theorem exists_edit (hpassable : Passable key (.obj members)) (value : Json) :
    ∃ inner, assign? value key.segments.tail ((members.lookup key.root).getD (.obj [])) =
        some inner ∧
      assign? value key.segments (.obj members) =
        some (.obj (Json.insertMember key.root inner members)) := by
  have hassign : (assign? value key.segments (.obj members)).isSome := isSome_assign? hpassable
  obtain ⟨new, hnew⟩ := Option.isSome_iff_exists.mp hassign
  rw [key.segments_eq] at hnew
  obtain ⟨_, inner, heq, hinner, rfl⟩ := assign?_cons_eq_some_iff.mp hnew
  obtain rfl := Json.obj.inj heq
  exact ⟨inner, hinner, by rw [key.segments_eq, hnew]⟩

/-- A member that goes on behind the first name of a setting leaves its place alone, if every edit
of the setting is read back: otherwise it decides, whatever the setting's own member says. -/
theorem spares_of_rootOf_eq {rival : String × Json} (hordered : (Json.obj members).Ordered)
    (hpassable : Passable key (.obj members)) (hreads : ReadsBack key members)
    (hmember : rival ∈ members) (hne : rival.1 ≠ key.root)
    (hroot : Tree.rootOf rival.1 = key.root) :
    Tree.Spares key.segments (rival.1, Tree.ofJson rival.2) := by
  by_contra htouches
  obtain ⟨front, behind, hinsert, hfront, hbehind, hmem⟩ :=
    Json.exists_insertMember_eq hordered.1 key.root
  have hlate : rival ∈ behind := by
    refine (List.mem_append.mp ((hmem rival).mpr ⟨hmember, hne⟩)).resolve_left fun hearly => ?_
    exact String.lt_irrefl _
      (String.lt_trans (hfront rival hearly) (Tree.lt_of_rootOf_eq hroot hne).1)
  have hentry : (rival.1, Tree.ofJson rival.2) ∈ Tree.ofMembers behind :=
    Tree.mem_ofMembers_of_mem hlate
  have hrival : ∃ entry ∈ Tree.ofMembers behind, Tree.rootOf entry.1 = key.root :=
    ⟨_, hentry, hroot⟩
  have hlookup := fun inner => lookup_treeOf_edit (hinsert inner) hfront
  by_cases hcount : key = .debounceMs
  · -- The edits with two different numbers are read alike.
    obtain ⟨zero, hzero, hzeroEdit⟩ := exists_edit hpassable (.int 0)
    obtain ⟨one, hone, honeEdit⟩ := exists_edit hpassable (.int 1)
    have hzeroRead := hreads _ _ (hcount ▸ ⟨0, rfl, by decide, by decide⟩) hzeroEdit
    have honeRead := hreads _ _ (hcount ▸ ⟨1, rfl, by decide, by decide⟩) honeEdit
    have htwin := Tree.twin_of_assign? (ordered_getD hordered.2) ⟨rfl, rfl⟩ ⟨rfl, rfl⟩ hzero hone
      ((defaultTree.members.lookup key.root).getD .nothing)
    rw [key.segments_eq] at htouches
    have hsame := Tree.memberAfter_eq_of_twin htwin ⟨_, hentry, htouches⟩
    have hthere : Tree.memberAfter key.root (some (Tree.merge
        ((defaultTree.members.lookup key.root).getD .nothing) (Tree.ofJson zero)))
          (Tree.ofMembers behind) ≠ none := Tree.memberAfter_ne_none hrival
    obtain ⟨server, hserver⟩ := Option.ne_none_iff_exists'.mp hthere
    have hzeroMember := (readMember?_of_readField? hzeroRead key.root_mem_names
      ((hlookup zero).trans hserver)).1
    have honeMember := (readMember?_of_readField? honeRead key.root_mem_names
      ((hlookup one).trans (hsame.symm.trans hserver))).1
    rw [hzeroMember] at honeMember
    exact absurd honeMember (by decide)
  · -- The edit with the least value is read as a table or a list with items.
    obtain ⟨inner, -, hedit⟩ := exists_edit hpassable key.least
    have hread := hreads _ _ key.admits_least hedit
    have hbeyond : ∀ entry ∈ Tree.ofMembers behind, entry.1 ≠ key.root := by
      intro entry hentry heq
      obtain ⟨member, hmember, rfl⟩ := Tree.mem_ofMembers hentry
      exact String.lt_irrefl _ (heq ▸ hbehind member hmember)
    obtain ⟨tree, htree, hcrowded⟩ := Tree.crowded_memberAfter hbeyond hrival
    have hmember := (readMember?_of_readField? hread key.root_mem_names
      ((hlookup inner).trans htree)).1
    rw [(SettingKey.tail_eq_nil_of_ne hcount).2] at hmember
    exact SettingKey.read?_ne_least hcount hcrowded hmember

/-- A setting whose every edit is read back is named once in its document. -/
theorem namedOnce_of_readsBack (hordered : (Json.obj members).Ordered)
    (hpassable : Passable key (.obj members)) (hreads : ReadsBack key members) :
    NamedOnce key members := by
  intro rival hmember hne place hplace
  by_cases hown : place = key.segments
  · rw [hown]
    by_cases hroot : Tree.rootOf rival.1 = key.root
    · exact spares_of_rootOf_eq hordered hpassable hreads hmember hne hroot
    · rw [key.segments_eq]
      exact Tree.spares_of_rootOf_ne hroot
  · -- A member that touches another place is a second field of the setting.
    obtain ⟨name, rest, rfl, hother⟩ := SettingKey.exists_of_mem_places hplace hown
    refine Tree.spares_of_rootOf_ne fun hroot => ?_
    obtain ⟨front, behind, hinsert, -, -, hmem⟩ :=
      Json.exists_insertMember_eq hordered.1 key.root
    obtain ⟨inner, -, hedit⟩ := exists_edit hpassable key.least
    have hread := hreads _ _ key.admits_least hedit
    have hthere : ∀ entry ∈ Json.insertMember key.root inner members,
        (treeOf (Json.insertMember key.root inner members)).members.lookup
          (Tree.rootOf entry.1) ≠ none := by
      intro entry hentry
      rw [treeOf, Tree.lookup_setAll]
      exact Tree.memberAfter_ne_none ⟨_, Tree.mem_ofMembers_of_mem hentry, rfl⟩
    have hsecond := hthere rival (by
      rw [hinsert]
      cases List.mem_append.mp ((hmem rival).mpr ⟨hmember, hne⟩) with
      | inl hfront => exact List.mem_append_left _ hfront
      | inr hbehind => exact List.mem_append_right _ (List.mem_cons_of_mem _ hbehind))
    have hfirst := hthere (key.root, inner) (by
      rw [hinsert]
      exact List.mem_append_right _ List.mem_cons_self)
    rw [hroot] at hsecond
    rw [key.rootOf_root] at hfirst
    obtain ⟨own, hfound⟩ := Option.ne_none_iff_exists'.mp hfirst
    exact hother ((readMember?_of_readField? hread key.root_mem_names hfound).2 name
      (SettingKey.head_mem_names hplace) hsecond).symm

end Rivals

theorem environmentLayer?_of_none (h : ∀ entry ∈ environment, variableKey? entry.1 = none) :
    environmentLayer? environment = some [] := by
  have hnone : environment.filterMap (fun entry =>
      (variableKey? entry.1).map fun key => (key, Text.decode? entry.2)) = [] := by
    refine List.filterMap_eq_nil_iff.mpr fun entry hentry => ?_
    rw [h entry hentry]
    rfl
  rw [environmentLayer?, hnone, List.mergeSort_nil]
  rfl

/-- Without a user's file and without variables, in a folder whose settings can be loaded and
written and whose doubles can be read back, every value of a setting persists exactly if the setting
is named once in a document that the editor can read and edit. -/
theorem persists_iff_namedOnce {old : Settings}
    (hnone : ∀ entry ∈ environment, variableKey? entry.1 = none)
    (hwritable : Writable store folder)
    (hload : load store environment none (some folder) = .ok old)
    (hreadable : ∀ found, document store (folderFile folder) = .ok found →
      found.Every Json.Readable) :
    (∀ value, key.Admits value → Persists store environment folder key value) ↔
      ∃ members, document store (folderFile folder) = .ok (.obj members) ∧
        Passable key (.obj members) ∧ NamedOnce key members := by
  have hlayer := environmentLayer?_of_none hnone
  constructor
  · intro hpersists
    obtain ⟨_, _, _, -, hwrite, -⟩ := hpersists key.least key.admits_least
    obtain ⟨found, new, hdocument, hassign⟩ := document_of_write (congrArg Prod.snd hwrite)
    have hsegments := hassign
    rw [key.segments_eq] at hsegments
    obtain ⟨members, inner, rfl, -⟩ := assign?_cons_eq_some_iff.mp hsegments
    have hpassable : Passable key (.obj members) :=
      isSome_assign? (Option.isSome_of_eq_some hassign)
    refine ⟨members, hdocument, hpassable,
      namedOnce_of_readsBack (ordered_of_document hdocument).1 hpassable ?_⟩
    intro value edited hadmits hedit
    obtain ⟨_, after, new, -, hwrite, hafter, hupdates⟩ := hpersists value hadmits
    obtain ⟨edited', after', hedit', hwrite', hafter'⟩ := load_of_write hlayer hwritable hdocument
      (hreadable _ hdocument) hadmits (isSome_assign? hpassable)
    obtain rfl := Json.obj.inj (Option.some.inj (hedit.symm.trans hedit'))
    obtain rfl := (Prod.mk.inj (hwrite.symm.trans hwrite')).1
    have htree : ofTree? (treeOf edited) = some new :=
      ofTree?_of_elim (hafter'.symm.trans hafter)
    rw [exists_ofTree?_treeOf_iff.mp ⟨new, htree, fun _ => rfl⟩ key, hupdates.1]
  · rintro ⟨members, hdocument, hpassable, honce⟩ value hadmits
    exact persists_of_namedOnce hlayer hwritable hload hdocument (hreadable _ hdocument) hpassable
      honce hadmits

section Practice

def practiceFile (text : String) : Store where
  workingDirectory := ⟨Text.encode "/"⟩
  entries := [([Text.encode "f", Text.encode ".npl", Text.encode "settings.json"],
    .file (Text.encode text))]

/-- A settings file with a member for another program on the way to the debouncing time. -/
def practiceShared : Store :=
  practiceFile "\x7b\"sources\":\"/s\",\"server\":\x7b\"port\":80\x7d\x7d"

def practiceMembers : List (String × Json) :=
  [("server", .obj [("port", .int 80)]), ("sources", .str "/s")]

theorem document_practiceShared :
    document practiceShared (folderFile practiceFolder) = .ok (.obj practiceMembers) := by
  decide +kernel

theorem namedOnce_practiceMembers : NamedOnce .debounceMs practiceMembers := by
  intro member hmember hne place hplace
  obtain rfl := List.mem_singleton.mp hplace
  refine Tree.spares_of_rootOf_ne ?_
  revert hne member
  decide +kernel

theorem persists_of_practiceMembers :
    Persists practiceShared [] practiceFolder .debounceMs (.int 750) := by
  have hnone : ∀ entry ∈ ([] : Environment), variableKey? entry.1 = none := by simp
  have hload : load practiceShared [] none (some practiceFolder) =
      .ok { sources := some "/s" } := by
    rw [load_eq_of_layer (environmentLayer?_of_none hnone)
      (optionalLayer?_of_document (extension?_folderFile _) document_practiceShared)]
    decide +kernel
  have hpassable : Passable .debounceMs (.obj practiceMembers) := rfl
  refine (persists_iff_namedOnce hnone
    (writable_of_isSome (by decide +kernel) (by decide +kernel)) hload ?_).mpr
    ⟨practiceMembers, document_practiceShared, hpassable, namedOnce_practiceMembers⟩ _
    ⟨750, rfl, by decide, by decide⟩
  intro found hfound
  obtain rfl := Except.ok.inj (document_practiceShared.symm.trans hfound)
  exact ⟨⟨trivial, trivial⟩, trivial, trivial⟩

def practiceAlias : Store :=
  practiceFile "\x7b\"testsources\":\"/a\"\x7d"

/-- The stored value is put beside the lower-case name, and the settings are refused. -/
theorem not_persisted_of_practiceAlias :
    ∃ after, load practiceAlias [] none (some practiceFolder) = .ok { testSources := some "/a" } ∧
      SettingKey.testSources.Admits (.str "/b") ∧
      write practiceAlias practiceFolder .testSources (.str "/b") = (after, .ok ()) ∧
      load after [] none (some practiceFolder) = .error .read := by
  have hnone : environmentLayer? [] = some [] := environmentLayer?_of_none (by simp)
  have hdocument : document practiceAlias (folderFile practiceFolder) =
      .ok (.obj [("testsources", .str "/a")]) := by
    decide +kernel
  have hadmits : SettingKey.testSources.Admits (.str "/b") := ⟨"/b", rfl⟩
  obtain ⟨edited, after, hassign, hwrite, hafter⟩ := load_of_write hnone
    (writable_of_isSome (by decide +kernel) (by decide +kernel)) hdocument ⟨trivial, trivial⟩
    hadmits (by decide)
  refine ⟨after, ?_, hadmits, hwrite, ?_⟩
  · rw [load_eq_of_layer hnone (optionalLayer?_of_document (extension?_folderFile _) hdocument)]
    decide +kernel
  · rw [hafter, ← Json.obj.inj (Option.some.inj hassign)]
    decide +kernel

end Practice

end Settings

end NplLifecycle
