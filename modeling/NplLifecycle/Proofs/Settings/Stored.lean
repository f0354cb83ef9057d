import NplLifecycle.Proofs.Settings.Amending
import NplLifecycle.Proofs.Files.Writing
import NplLifecycle.Proofs.Path.Components
import NplLifecycle.Proofs.Text.Utf8

/-!
# Reading a stored setting back

Where the editor can read a settings file and only objects are on the way to a setting, an edit
writes a file that the loader reads as the edited document.  If the setting is named once in the
document, the edit gives it the stored value and leaves the other settings as they were.
-/

namespace NplLifecycle

open Settings (Tree Layer)

namespace SettingKey

def Admits : SettingKey → Json → Prop
  | .contribLibraries, value => ∃ texts, value = .ofStrings texts
  | .debounceMs, value => ∃ n : Int, value = .int n ∧ 0 ≤ n ∧ n < Int.pow 2 63
  | _, value => ∃ text, value = .str text

/-- The member of a document that holds a setting under its name. -/
def root (key : SettingKey) : String :=
  key.segments.headD ""

theorem segments_eq (key : SettingKey) : key.segments = key.root :: key.segments.tail := by
  cases key <;> rfl

theorem stepsOf_root (key : SettingKey) : Tree.stepsOf key.root = [.member key.root] := by
  cases key <;> decide +kernel

theorem rootOf_root (key : SettingKey) : Tree.rootOf key.root = key.root := by
  rw [Tree.rootOf, stepsOf_root]

/-- Two settings share no member. -/
theorem root_not_mem_names {key other : SettingKey} (hne : other ≠ key) :
    key.root ∉ other.names := by
  cases key <;> cases other <;> first | exact absurd rfl hne | decide

/-- The places of a setting but the one of its name start with another name. -/
theorem exists_of_mem_places {key : SettingKey} {place : List String} (h : place ∈ key.places)
    (hne : place ≠ key.segments) : ∃ name rest, place = name :: rest ∧ key.root ≠ name := by
  cases key <;> simp_all [places, segments, root]

theorem read?_of_admits {key : SettingKey} {value : Json} (h : key.Admits value) :
    key.read? (Tree.ofJson value) = some value := by
  cases key with
  | sources | testSources | frontendSources =>
      obtain ⟨text, rfl⟩ := h
      rfl
  | contribLibraries =>
      obtain ⟨texts, rfl⟩ := h
      have hitems (texts : List String) :
          (Tree.ofItems (texts.map .str)).mapM Tree.text? = some texts := by
        induction texts with
        | nil => rfl
        | cons text texts ih =>
            rw [List.map_cons, Tree.ofItems, List.mapM_cons, ih]
            rfl
      rw [Json.ofStrings, Tree.ofJson, read?, Tree.libraries?, hitems]
      rfl
  | debounceMs =>
      obtain ⟨n, rfl, hpositive, -⟩ := h
      rw [Tree.ofJson, read?, Tree.asCount?, if_pos hpositive, Option.map_some,
        Int.toNat_of_nonneg hpositive]

theorem isTable_of_admits {key : SettingKey} {value : Json} (h : key.Admits value) :
    (Tree.ofJson value).isTable = false := by
  cases key with
  | sources | testSources | frontendSources | contribLibraries =>
      obtain ⟨_, rfl⟩ := h
      rfl
  | debounceMs =>
      obtain ⟨n, rfl, -⟩ := h
      rfl

theorem legible_strings (texts : List String) :
    Json.ItemsOrdered (texts.map .str) ∧ Json.itemsDepth (texts.map .str) = 0 ∧
      Json.EveryItem Json.Legible (texts.map .str) := by
  induction texts with
  | nil => exact ⟨trivial, rfl, trivial⟩
  | cons text texts ih =>
      obtain ⟨hordered, hdepth, hlegible⟩ := ih
      refine ⟨⟨trivial, hordered⟩, ?_, ⟨trivial, trivial⟩, hlegible⟩
      rw [List.map_cons, Json.itemsDepth, hdepth]
      rfl

theorem legible_of_admits {key : SettingKey} {value : Json} (h : key.Admits value) :
    value.Ordered ∧ value.depth ≤ 1 ∧ value.Every Json.Legible := by
  cases key with
  | sources | testSources | frontendSources =>
      obtain ⟨text, rfl⟩ := h
      exact ⟨trivial, Nat.zero_le _, trivial, trivial⟩
  | contribLibraries =>
      obtain ⟨texts, rfl⟩ := h
      obtain ⟨hordered, hdepth, hlegible⟩ := legible_strings texts
      refine ⟨hordered, ?_, hlegible⟩
      rw [Json.ofStrings, Json.depth, hdepth]
  | debounceMs =>
      obtain ⟨n, rfl, hpositive, hsmall⟩ := h
      have hhalf : 0 ≤ Int.pow 2 63 := by decide
      have hgreat : Int.pow 2 63 ≤ Int.pow 2 64 := by decide
      exact ⟨trivial, Nat.zero_le _, ⟨by omega, by omega⟩, trivial⟩

theorem length_segments_le (key : SettingKey) : key.segments.length ≤ 4 := by
  cases key <;> decide

end SettingKey

namespace Settings

section Editing

variable {key other : SettingKey} {value inner : Json} {members edited : List (String × Json)}

def treeOf (members : List (String × Json)) : Tree :=
  Tree.setAll defaultTree (Tree.ofMembers members)

/-- No member of a document touches the places of a setting, but the one of its name. -/
def NamedOnce (key : SettingKey) (members : List (String × Json)) : Prop :=
  ∀ member ∈ members, member.1 ≠ key.root →
    ∀ place ∈ key.places, Tree.Spares place (member.1, Tree.ofJson member.2)

/-- An edit of one setting leaves the others as they were. -/
theorem readField?_insertMember_of_ne (hne : other ≠ key) :
    other.readField? (treeOf (Json.insertMember key.root inner members)) =
      other.readField? (treeOf members) := by
  have hsame : other.names.filterMap
      (List.lookup · (treeOf (Json.insertMember key.root inner members)).members) =
      other.names.filterMap (List.lookup · (treeOf members).members) := by
    refine List.filterMap_congr fun name hname => ?_
    have hroot : Tree.rootOf key.root ≠ name := by
      rw [key.rootOf_root]
      exact fun heq => SettingKey.root_not_mem_names hne (heq ▸ hname)
    rw [treeOf, treeOf, Tree.lookup_setAll, Tree.lookup_setAll,
      Tree.memberAfter_insertMember hroot]
  rw [SettingKey.readField?, SettingKey.readField?, hsame]

/-- In a document that names a setting once, an edit puts the value alone at its place, and
nothing at its other places. -/
theorem layerLeaves?_edit (hordered : (Json.obj members).Ordered) (honce : NamedOnce key members)
    (hadmits : key.Admits value)
    (hassign : assign? value key.segments (.obj members) = some (.obj edited))
    {place : List String} (hplace : place ∈ key.places) :
    Tree.layerLeaves? place (Tree.ofMembers edited) =
      some (if place = key.segments then [Tree.ofJson value] else []) := by
  rw [key.segments_eq] at hassign
  obtain ⟨_, inner, heq, hinner, hnew⟩ := assign?_cons_eq_some_iff.mp hassign
  obtain rfl := Json.obj.inj heq
  obtain rfl := Json.obj.inj hnew
  obtain ⟨front, behind, hinsert, -, -, hmem⟩ := Json.exists_insertMember_eq hordered.1 key.root
  have hspares : ∀ part, (∀ member ∈ part, member ∈ front ++ behind) →
      ∀ entry ∈ Tree.ofMembers part, Tree.Spares place entry := by
    intro part hpart entry hentry
    obtain ⟨member, hmember, rfl⟩ := Tree.mem_ofMembers hentry
    obtain ⟨hold, hne⟩ := (hmem member).mp (hpart member hmember)
    exact honce member hold hne place hplace
  have hfront := hspares front fun _ => List.mem_append_left _
  have hbehind := hspares behind fun _ => List.mem_append_right _
  rw [hinsert, Tree.ofMembers_append, Tree.ofMembers, Tree.layerLeaves?_of_others hfront hbehind]
  split
  · rename_i hsame
    rw [hsame, key.segments_eq, key.stepsOf_root, Tree.leavesAt?, if_pos rfl, Tree.leavesAt?]
    exact leaves?_of_assign? (SettingKey.isTable_of_admits hadmits) (ordered_getD hordered.2) hinner
  · rename_i hne
    obtain ⟨name, rest, rfl, hroot⟩ := SettingKey.exists_of_mem_places hplace hne
    refine Tree.spares_of_rootOf_ne ?_
    rw [key.rootOf_root]
    exact hroot

/-- In a document that names a setting once, an edit stores its value. -/
theorem readField?_edit (hordered : (Json.obj members).Ordered) (honce : NamedOnce key members)
    (hadmits : key.Admits value)
    (hassign : assign? value key.segments (.obj members) = some (.obj edited)) :
    key.readField? (treeOf edited) = some value := by
  have hputs : ∀ place ∈ key.places, Tree.Puts place
      (if place = key.segments then [Tree.ofJson value] else []) defaultTree (treeOf edited) :=
    fun place hplace => Tree.puts_setAll (clear_defaultTree key place hplace)
      (layerLeaves?_edit hordered honce hadmits hassign hplace)
  have hmissing : ∀ place ∈ key.places, place ≠ key.segments →
      (treeOf edited).at? place = none := by
    intro place hplace hne
    rw [(hputs place hplace).found, if_neg hne,
      at?_defaultTree_of_ne key.segments_mem_places hplace hne]
    rfl
  have hplaces : key.places.filterMap (Tree.at? · (treeOf edited)) = [Tree.ofJson value] := by
    rw [filterMap_eq_toList key.nodup_places key.segments_mem_places hmissing,
      (hputs _ key.segments_mem_places).found, if_pos rfl]
    rfl
  rw [readField?_eq_readFrom? fun place hplace => (hputs place hplace).clear,
    SettingKey.readFrom?, hplaces]
  exact SettingKey.read?_of_admits hadmits

/-- The settings of a document are read exactly if each is read from its member. -/
theorem exists_ofTree?_treeOf_iff {read : SettingKey → Json} :
    (∃ settings, ofTree? (treeOf members) = some settings ∧
      ∀ key, settings.value key = read key) ↔
      ∀ key : SettingKey, key.readField? (treeOf members) = some (read key) :=
  exists_ofTree?_iff (Tree.isTable_setAll (clear_defaultTree .sources _ List.mem_cons_self).1)
    (Tree.nodup_setAll (clear_defaultTree .sources _ List.mem_cons_self).2.1)

/-- Settings with a new value of one setting and the old values of the others. -/
def Updates (old new : Settings) (key : SettingKey) (value : Json) : Prop :=
  new.value key = value ∧ ∀ other, other ≠ key → new.value other = old.value other

/-- In a document that names a setting once, an edit updates the setting. -/
theorem ofTree?_edit {old : Settings} (hordered : (Json.obj members).Ordered)
    (honce : NamedOnce key members) (hadmits : key.Admits value)
    (hassign : assign? value key.segments (.obj members) = some (.obj edited))
    (hold : ofTree? (treeOf members) = some old) :
    ∃ new, ofTree? (treeOf edited) = some new ∧ Updates old new key value := by
  have hread : ∀ other : SettingKey, other.readField? (treeOf edited) =
      some (if other = key then value else old.value other) := by
    intro other
    split
    · rename_i hsame
      rw [hsame]
      exact readField?_edit hordered honce hadmits hassign
    · rename_i hne
      rw [key.segments_eq] at hassign
      obtain ⟨_, inner, heq, -, hnew⟩ := assign?_cons_eq_some_iff.mp hassign
      obtain rfl := Json.obj.inj heq
      obtain rfl := Json.obj.inj hnew
      rw [readField?_insertMember_of_ne hne]
      exact exists_ofTree?_treeOf_iff.mp ⟨old, hold, fun _ => rfl⟩ other
  obtain ⟨new, hnew, hvalue⟩ := exists_ofTree?_treeOf_iff.mpr hread
  refine ⟨new, hnew, (hvalue key).trans (if_pos rfl), fun other hne => ?_⟩
  exact (hvalue other).trans (if_neg hne)

end Editing

section Files

open Files (Store)

variable {store after : Store} {environment : Environment} {folder file : Path}
  {key : SettingKey} {value : Json} {bytes : List UInt8} {text : String}
  {members : List (String × Json)}

theorem extension?_folderFile (folder : Path) :
    (folderFile folder).extension? = some (Text.encode "json") := by
  have hname : Path.IsName (Text.encode "settings.json") :=
    ⟨by decide +kernel, by decide +kernel⟩
  rw [Path.extension?, Path.fileName?, folderFile, Path.components_entry _ hname,
    List.getLast?_concat]
  decide +kernel

/-- A text of an object is a layer of its members; it does not begin with a byte order mark. -/
theorem layerOfBytes?_of_parse? (hdecode : Text.decode? bytes = some text)
    (hparse : Json.parse? text = some (.obj members)) :
    layerOfBytes? bytes = some (Tree.ofMembers members) := by
  have hplain : ∀ rest, bytes = 0xEF :: 0xBB :: 0xBF :: rest → False := by
    rintro rest rfl
    obtain ⟨c, after, hchars, hwide⟩ :=
      Text.exists_wide_of_encode_eq_cons (by decide) (Text.encode_of_decode? hdecode)
    rw [Json.parse?, Json.Document.ofChars?, hchars, Json.tokens?_of_wide after hwide] at hparse
    exact absurd hparse (by simp)
  rw [layerOfBytes?]
  · rw [Text.decodeLossy_of_decode? hdecode, hparse]
  · exact hplain

/-- The editor and the loader see the same members in a file that the editor can read. -/
theorem optionalLayer?_of_document (hextension : file.extension? = some (Text.encode "json"))
    (h : document store file = .ok (.obj members)) :
    optionalLayer? store (some file) = some (Tree.ofMembers members) := by
  rw [document] at h
  rw [optionalLayer?]
  split at h
  · rename_i hthere
    rw [if_pos hthere]
    split at h
    · exact absurd h (by simp)
    · rename_i text htext
      obtain ⟨bytes, hbytes, hdecode⟩ := Option.bind_eq_some_iff.mp htext
      rw [layerOfFile?, hbytes]
      dsimp only
      rw [if_pos hextension]
      cases hparse : Json.parse? text with
      | none =>
          rw [hparse] at h
          exact absurd h (by simp)
      | some value =>
          rw [hparse] at h
          exact layerOfBytes?_of_parse? hdecode (hparse.trans (congrArg some (Except.ok.inj h)))
  · rename_i hmissing
    rw [if_neg hmissing]
    obtain rfl := Json.obj.inj (Except.ok.inj h)
    rfl

/-- Without a user's file and without variables, the settings are those of the folder's file. -/
theorem load_eq_of_layer {layer : Layer} (hnone : environmentLayer? environment = some [])
    (hlayer : optionalLayer? store (some (folderFile folder)) = some layer) :
    load store environment none (some folder) =
      (ofTree? (Tree.setAll defaultTree layer)).elim (.error .read) .ok := by
  rw [load, Option.map_some, hlayer, hnone]
  rfl

theorem ofTree?_of_elim {tree : Tree} {settings : Settings}
    (h : (ofTree? tree).elim (Except.error LoadError.read) Except.ok = Except.ok settings) :
    ofTree? tree = some settings := by
  cases hread : ofTree? tree with
  | none =>
      rw [hread] at h
      exact absurd h (by simp)
  | some found =>
      rw [hread] at h
      rw [Except.ok.inj h]

/-- Only objects are on the way to a setting. -/
def Passable (key : SettingKey) (document : Json) : Prop :=
  (assign? .null key.segments document).isSome

theorem isSome_assign? {path : List String} {first second old : Json}
    (h : (assign? first path old).isSome) : (assign? second path old).isSome :=
  isSome_assign?_iff.mpr (isSome_assign?_iff.mp h)

/-- A settings file can be written in the folder, whatever its content. -/
def Writable (store : Store) (folder : Path) : Prop :=
  (store.makeDirectory (folderDirectory folder)).2 = true ∧
    ∀ content, ((store.makeDirectory (folderDirectory folder)).1.write? (folderFile folder)
      content).isSome

theorem isSome_write? (path : Path) (content other : List UInt8) :
    (store.write? path content).isSome = (store.write? path other).isSome := by
  rw [Store.write?, Store.write?]
  cases store.locate? path with
  | none => rfl
  | some location =>
      rw [Option.bind_some, Option.bind_some]
      split <;> rfl

theorem writable_of_isSome (hfolder : (store.makeDirectory (folderDirectory folder)).2 = true)
    (h : ((store.makeDirectory (folderDirectory folder)).1.write? (folderFile folder) []).isSome) :
    Writable store folder :=
  ⟨hfolder, fun content => (isSome_write? _ content []).trans h⟩

theorem exists_write {old new : Json} (hwritable : Writable store folder)
    (hdocument : document store (folderFile folder) = .ok old)
    (hassign : assign? value key.segments old = some new) :
    ∃ after, write store folder key value = (after, .ok ()) ∧
      after.exists? (folderFile folder) = true ∧
      after.read? (folderFile folder) = some (Text.encode new.pretty) := by
  obtain ⟨after, hafter⟩ :=
    Option.isSome_iff_exists.mp (hwritable.2 (Text.encode new.pretty))
  refine ⟨after, ?_, Store.read?_write? hafter⟩
  rw [write, hdocument]
  dsimp only
  rw [hassign]
  dsimp only
  rw [if_pos hwritable.1, hafter]

/-- Where a settings file can be written it can be written again. -/
theorem Writable.write (h : Writable store folder) (key : SettingKey) (value : Json) :
    Writable (write store folder key value).1 folder := by
  rw [Settings.write]
  split
  · exact h
  · split
    · exact h
    · rename_i new _
      rcases Option.isSome_iff_exists.mp (h.2 (Text.encode new.pretty)) with ⟨after, hafter⟩
      dsimp only
      rw [if_pos h.1, hafter]
      rcases Store.write?_again hafter [] with ⟨hkeeps, hsame, hwrite⟩
      have hmade : after.makeDirectory (folderDirectory folder) = (after, true) :=
        Store.makeDirectory_again (Prod.ext rfl h.1)
          (hsame.trans (Store.workingDirectory_makeDirectory _ _)) hkeeps
      apply writable_of_isSome
      · rw [hmade]
      · rw [hmade]
        exact hwrite

theorem document_of_write (h : (write store folder key value).2 = .ok ()) :
    ∃ old new, document store (folderFile folder) = .ok old ∧
      assign? value key.segments old = some new := by
  rw [write] at h
  split at h
  · exact absurd h (by simp)
  · rename_i old hdocument
    split at h
    · exact absurd h (by simp)
    · rename_i new hassign
      exact ⟨old, new, hdocument, hassign⟩

/-- What is known of every document of a settings file. -/
theorem ordered_of_document {old : Json} (h : document store file = .ok old) :
    old.Ordered ∧ old.depth ≤ Json.nestingLimit ∧ old.Every Json.Fits := by
  rw [document] at h
  split at h
  · split at h
    · exact absurd h (by simp)
    · rename_i text htext
      cases hparse : Json.parse? text with
      | none =>
          rw [hparse] at h
          exact absurd h (by simp)
      | some value =>
          rw [hparse] at h
          obtain rfl := Except.ok.inj h
          obtain ⟨hordered, hdepth⟩ := Json.ordered_of_parse? hparse
          exact ⟨hordered, hdepth, Json.fits_of_parse? hparse⟩
  · obtain rfl := Except.ok.inj h
    exact ⟨⟨List.Pairwise.nil, trivial⟩, by decide, trivial⟩

/-- An edited document is read back from its file. -/
theorem document_of_edit {old new : Json} (hwritable : Writable store folder)
    (hdocument : document store (folderFile folder) = .ok old) (hold : old.Every Json.Legible)
    (hordered : value.Ordered) (hlegible : value.Every Json.Legible)
    (hdepth : key.segments.length + value.depth ≤ Json.nestingLimit)
    (hassign : assign? value key.segments old = some new) :
    ∃ after, write store folder key value = (after, .ok ()) ∧
      document after (folderFile folder) = .ok new := by
  obtain ⟨after, hwrite, hthere, hread⟩ := exists_write hwritable hdocument hassign
  obtain ⟨hascending, hbound, -⟩ := ordered_of_document hdocument
  have hparse : Json.parse? new.pretty = some new := by
    apply Json.parse?_pretty
    · exact every_of_assign? hlegible hold hassign
    · exact ordered_of_assign? hordered hascending hassign
    · exact Nat.le_trans (depth_of_assign? hassign) (Nat.max_le.mpr ⟨hbound, hdepth⟩)
  refine ⟨after, hwrite, ?_⟩
  rw [document, if_pos hthere, hread, Option.bind_some, Text.decode?_encode]
  dsimp only
  rw [hparse]
  rfl

/-- After an edit the settings are those of the edited document. -/
theorem load_of_write (hnone : environmentLayer? environment = some [])
    (hwritable : Writable store folder)
    (hdocument : document store (folderFile folder) = .ok (.obj members))
    (hreadable : (Json.obj members).Every Json.Readable) (hadmits : key.Admits value)
    (hassign : (assign? value key.segments (.obj members)).isSome) :
    ∃ edited after, assign? value key.segments (.obj members) = some (.obj edited) ∧
      write store folder key value = (after, .ok ()) ∧
      load after environment none (some folder) =
        (ofTree? (treeOf edited)).elim (.error .read) .ok := by
  obtain ⟨new, hnew⟩ := Option.isSome_iff_exists.mp hassign
  obtain ⟨hvalue, hshallow, hlegible⟩ := key.legible_of_admits hadmits
  have hfits := (ordered_of_document hdocument).2.2
  have hdepth : key.segments.length + value.depth ≤ Json.nestingLimit := by
    have hlength := key.length_segments_le
    have hlimit : Json.nestingLimit = 127 := rfl
    omega
  obtain ⟨after, hwrite, hafter⟩ := document_of_edit hwritable hdocument
    (Json.every_and _ hfits hreadable) hvalue hlegible hdepth hnew
  rw [key.segments_eq] at hnew
  obtain ⟨_, inner, -, -, rfl⟩ := assign?_cons_eq_some_iff.mp hnew
  refine ⟨_, after, by rw [key.segments_eq, hnew], hwrite, ?_⟩
  exact load_eq_of_layer hnone (optionalLayer?_of_document (extension?_folderFile folder) hafter)

/-- A setting that is stored is loaded again, and the other settings stay as they are. -/
def Persists (store : Store) (environment : Environment) (folder : Path) (key : SettingKey)
    (value : Json) : Prop :=
  ∃ old after new, load store environment none (some folder) = .ok old ∧
    write store folder key value = (after, .ok ()) ∧
    load after environment none (some folder) = .ok new ∧ Updates old new key value

/-- A setting that its file names only once persists. -/
theorem persists_of_namedOnce {old : Settings} (hnone : environmentLayer? environment = some [])
    (hwritable : Writable store folder)
    (hload : load store environment none (some folder) = .ok old)
    (hdocument : document store (folderFile folder) = .ok (.obj members))
    (hreadable : (Json.obj members).Every Json.Readable) (hpassable : Passable key (.obj members))
    (honce : NamedOnce key members) (hadmits : key.Admits value) :
    Persists store environment folder key value := by
  obtain ⟨edited, after, hassign, hwrite, hafter⟩ :=
    load_of_write hnone hwritable hdocument hreadable hadmits (isSome_assign? hpassable)
  have hbefore := load_eq_of_layer hnone
    (optionalLayer?_of_document (extension?_folderFile folder) hdocument)
  have htree : ofTree? (treeOf members) = some old := ofTree?_of_elim (hbefore.symm.trans hload)
  obtain ⟨new, hnew, hupdates⟩ :=
    ofTree?_edit (ordered_of_document hdocument).1 honce hadmits hassign htree
  exact ⟨old, after, new, hload, hwrite, by rw [hafter, hnew, Option.elim_some], hupdates⟩

end Files

end Settings

end NplLifecycle
