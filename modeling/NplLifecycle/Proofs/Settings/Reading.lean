import NplLifecycle.Proofs.Settings.Place
import Mathlib.Data.List.Perm.Basic
import Mathlib.Data.List.Nodup

/-!
# Reading settings from a tree

A setting may stand at the place of its name, or at that of its name in lower case.  All settings
are read exactly if each is read from its only member; it has its default where there is none, and
it is refused where there are two.  Where the ways to its places are clear, a setting is read from
the leaf at its only place in the same way.
-/

namespace NplLifecycle

open Settings (Tree)

namespace SettingKey

/-- The places of a setting: its name, and its lower-case name where that is another one. -/
def places : SettingKey → List (List String)
  | .sources => [["sources"]]
  | .testSources => [["testSources"], ["testsources"]]
  | .contribLibraries => [["contribLibraries"], ["contriblibraries"]]
  | .frontendSources => [["frontendSources"], ["frontendsources"]]
  | .debounceMs => [["server", "debouncing", "time", "ms"]]

/-- The members of the whole tree in which a setting may stand. -/
def names : SettingKey → List String
  | .sources => ["sources"]
  | .testSources => ["testSources", "testsources"]
  | .contribLibraries => ["contribLibraries", "contriblibraries"]
  | .frontendSources => ["frontendSources", "frontendsources"]
  | .debounceMs => ["server"]

def unset (key : SettingKey) : Json :=
  ({} : Settings).value key

/-- The value that a leaf stands for, if it is of the setting's type. -/
def read? : SettingKey → Tree → Option Json
  | .contribLibraries, leaf => leaf.libraries?.map fun texts => .ofOption (texts.map .ofStrings)
  | .debounceMs, leaf => leaf.asCount?.map fun count : Nat => .int count
  | _, leaf => leaf.optionalText?.map fun text => .ofOption (text.map .str)

def readMember? : SettingKey → Tree → Option Json
  | .debounceMs, server => server.debounce?.map fun count : Nat => .int count
  | key, leaf => key.read? leaf

def readField? (key : SettingKey) (tree : Tree) : Option Json :=
  match key.names.filterMap (List.lookup · tree.members) with
  | [] => some key.unset
  | [member] => key.readMember? member
  | _ => none

def readFrom? (key : SettingKey) (tree : Tree) : Option Json :=
  match key.places.filterMap (Tree.at? · tree) with
  | [] => some key.unset
  | [leaf] => key.read? leaf
  | _ => none

theorem mem_all (key : SettingKey) : key ∈ all := by
  cases key <;> decide

instance {p : SettingKey → Prop} [DecidablePred p] : Decidable (∀ key, p key) :=
  decidable_of_iff (∀ key ∈ all, p key) ⟨fun h key => h key key.mem_all, fun h key _ => h key⟩

theorem segments_mem_places (key : SettingKey) : key.segments ∈ key.places := by
  cases key <;> exact List.mem_cons_self

theorem nodup_places (key : SettingKey) : key.places.Nodup := by
  cases key <;> decide

end SettingKey

namespace Settings

namespace Tree

variable {α : Type} {name : String} {names rest : List String} {position : Nat} {default : α}
  {read : Tree → Option α} {tree : Tree} {members : List (String × Tree)}

/-- In a table with different names, the members of some names are what the names lead to. -/
theorem filter_perm_filterMap_lookup (hmembers : (members.map Prod.fst).Nodup)
    (hnames : names.Nodup) :
    ((members.filter fun member => names.contains member.1).map Prod.snd).Perm
      (names.filterMap (List.lookup · members)) := by
  induction members with
  | nil => simp
  | cons member members ih =>
      obtain ⟨first, value⟩ := member
      obtain ⟨hfirst, hrest⟩ := List.nodup_cons.mp hmembers
      have hothers : ∀ others : List String, first ∉ others →
          others.filterMap (List.lookup · members) =
            others.filterMap (List.lookup · ((first, value) :: members)) := by
        intro others hothers
        refine List.filterMap_congr fun other hother => ?_
        have hne : other ≠ first := fun heq => hothers (heq ▸ hother)
        rw [Json.lookup_cons_eq_ite, if_neg hne]
      by_cases hmem : first ∈ names
      · have hnot : first ∉ names.erase first := fun h => (hnames.mem_erase_iff.mp h).1 rfl
        have hsplit := List.perm_cons_erase hmem
        have hnew : List.lookup first ((first, value) :: members) = some value := by
          rw [Json.lookup_cons_eq_ite, if_pos rfl]
        have hold : (names.filterMap (List.lookup · members)).Perm
            ((names.erase first).filterMap (List.lookup · ((first, value) :: members))) := by
          refine (hsplit.filterMap _).trans ?_
          rw [List.filterMap_cons, Json.lookup_eq_none_of_not_mem hfirst, hothers _ hnot]
        have htaken : (names.filterMap (List.lookup · ((first, value) :: members))).Perm
            (value :: (names.erase first).filterMap
              (List.lookup · ((first, value) :: members))) := by
          refine (hsplit.filterMap _).trans ?_
          rw [List.filterMap_cons, hnew]
        rw [List.filter_cons_of_pos (by simpa using hmem), List.map_cons]
        exact (((ih hrest).trans hold).cons value).trans htaken.symm
      · rw [List.filter_cons_of_neg (by simpa using hmem), ← hothers _ hmem]
        exact ih hrest

/-- A field of a table is the member of its only name that is there. -/
theorem field?_eq (htable : tree.isTable = true) (hmembers : (tree.members.map Prod.fst).Nodup)
    (hnames : names.Nodup) :
    tree.field? names position =
      match names.filterMap (List.lookup · tree.members) with
      | [] => some none
      | [value] => some (some value)
      | _ => none := by
  cases tree with
  | table members =>
      have hperm := filter_perm_filterMap_lookup hmembers hnames
      rw [Tree.members] at hperm ⊢
      rw [field?]
      split
      · rename_i hfilter
        rw [hfilter, List.map_nil] at hperm
        rw [← hperm.nil_eq]
      · rename_i other value hfilter
        rw [hfilter, List.map_singleton] at hperm
        rw [← hperm.singleton_eq]
      · rename_i hnil hone
        split
        · rename_i hnames
          rw [hnames] at hperm
          exact absurd (List.map_eq_nil_iff.mp hperm.eq_nil) hnil
        · rename_i value hnames
          rw [hnames] at hperm
          obtain ⟨member, hmember, -⟩ := List.map_eq_singleton_iff.mp hperm.eq_singleton
          exact absurd hmember (hone member.1 member.2)
        · rfl
  | _ => exact absurd htable (by simp [isTable])

/-- A field of one name is what is read from the leaf at a place, if that is so below the name. -/
theorem fieldOr_eq_elim {readLeaf : Tree → Option α} (hclear : Clear (name :: rest) tree)
    (hread : ∀ inner, Clear rest inner →
      read inner = (inner.at? rest).elim (some default) readLeaf) :
    tree.fieldOr default [name] position read =
      (tree.at? (name :: rest)).elim (some default) readLeaf := by
  rw [fieldOr, field?_eq hclear.1 hclear.2.1 (List.nodup_cons.mpr ⟨by simp, List.nodup_nil⟩), at?]
  cases hinner : tree.members.lookup name with
  | none =>
      rw [List.filterMap_cons, hinner]
      rfl
  | some inner =>
      rw [List.filterMap_cons, hinner]
      exact hread inner (hclear.2.2 inner hinner)

theorem debounce?_eq_elim (hclear : Clear ["debouncing", "time", "ms"] tree) :
    tree.debounce? = (tree.at? ["debouncing", "time", "ms"]).elim
      (some defaultDebounceMs) asCount? :=
  fieldOr_eq_elim hclear fun _ hclear => fieldOr_eq_elim hclear fun _ hclear =>
    fieldOr_eq_elim hclear fun _ _ => rfl

end Tree

section Fields

variable {α : Type} {key : SettingKey} {names : List String} {read : Tree → Option α} {tree : Tree}

/-- A setting is read from the field of its names. -/
theorem readField?_eq_map_fieldOr (key : SettingKey) (position : Nat) (default : α)
    (toJson : α → Json) (htable : tree.isTable = true)
    (hmembers : (tree.members.map Prod.fst).Nodup) (hnames : key.names.Nodup)
    (hread : ∀ member, key.readMember? member = (read member).map toJson)
    (hunset : key.unset = toJson default) :
    key.readField? tree = (tree.fieldOr default key.names position read).map toJson := by
  rw [SettingKey.readField?, Tree.fieldOr, Tree.field?_eq htable hmembers hnames]
  split
  · rw [hunset]
    rfl
  · exact hread _
  · rfl

/-- The settings are read exactly if each of them is. -/
theorem exists_ofTree?_iff {value : SettingKey → Json} (htable : tree.isTable = true)
    (hmembers : (tree.members.map Prod.fst).Nodup) :
    (∃ settings, ofTree? tree = some settings ∧ ∀ key, settings.value key = value key) ↔
      ∀ key : SettingKey, key.readField? tree = some (value key) := by
  have hsources := readField?_eq_map_fieldOr .sources 0 none
    (fun text => .ofOption (text.map .str)) htable hmembers (by decide)
    (fun _ => rfl) rfl
  have htests := readField?_eq_map_fieldOr .testSources 1 none
    (fun text => .ofOption (text.map .str)) htable hmembers (by decide)
    (fun _ => rfl) rfl
  have hlibraries := readField?_eq_map_fieldOr .contribLibraries 2 none
    (fun texts => .ofOption (texts.map .ofStrings)) htable hmembers (by decide)
    (fun _ => rfl) rfl
  have hfrontend := readField?_eq_map_fieldOr .frontendSources 3 none
    (fun text => .ofOption (text.map .str)) htable hmembers (by decide)
    (fun _ => rfl) rfl
  have hdebounce := readField?_eq_map_fieldOr .debounceMs 4 defaultDebounceMs
    (fun count : Nat => .int count) htable hmembers (by decide)
    (fun _ => rfl) rfl
  simp only [SettingKey.names] at hsources htests hlibraries hfrontend hdebounce
  constructor
  · rintro ⟨settings, hread, hvalue⟩ key
    obtain ⟨sources, hs, hread⟩ := Option.bind_eq_some_iff.mp hread
    obtain ⟨tests, ht, hread⟩ := Option.bind_eq_some_iff.mp hread
    obtain ⟨libraries, hl, hread⟩ := Option.bind_eq_some_iff.mp hread
    obtain ⟨frontend, hf, hread⟩ := Option.bind_eq_some_iff.mp hread
    obtain ⟨count, hd, rfl⟩ := Option.map_eq_some_iff.mp hread
    rw [← hvalue key]
    cases key with
    | sources => rw [hsources, hs]; rfl
    | testSources => rw [htests, ht]; rfl
    | contribLibraries => rw [hlibraries, hl]; rfl
    | frontendSources => rw [hfrontend, hf]; rfl
    | debounceMs => rw [hdebounce, hd]; rfl
  · intro hkeys
    obtain ⟨sources, hs, hsvalue⟩ := Option.map_eq_some_iff.mp (hsources ▸ hkeys .sources)
    obtain ⟨tests, ht, htvalue⟩ := Option.map_eq_some_iff.mp (htests ▸ hkeys .testSources)
    obtain ⟨libraries, hl, hlvalue⟩ :=
      Option.map_eq_some_iff.mp (hlibraries ▸ hkeys .contribLibraries)
    obtain ⟨frontend, hf, hfvalue⟩ :=
      Option.map_eq_some_iff.mp (hfrontend ▸ hkeys .frontendSources)
    obtain ⟨count, hd, hdvalue⟩ := Option.map_eq_some_iff.mp (hdebounce ▸ hkeys .debounceMs)
    refine ⟨⟨sources, tests, libraries, frontend, count⟩, ?_, fun key => ?_⟩
    · rw [ofTree?, hs, Option.bind_some, ht, Option.bind_some, hl, Option.bind_some, hf,
        Option.bind_some, hd, Option.map_some]
    · cases key with
      | sources => exact hsvalue
      | testSources => exact htvalue
      | contribLibraries => exact hlvalue
      | frontendSources => exact hfvalue
      | debounceMs => exact hdvalue

/-- The ways to all places of all settings are clear. -/
def Clear (tree : Tree) : Prop :=
  ∀ key : SettingKey, ∀ place ∈ key.places, Tree.Clear place tree

theorem filterMap_at?_map_singleton :
    (names.map fun name => [name]).filterMap (Tree.at? · tree) =
      names.filterMap (List.lookup · tree.members) := by
  rw [List.filterMap_map]
  exact List.filterMap_congr fun name _ => Option.bind_fun_some _

/-- Where the ways to its places are clear, a setting is read from its leaf. -/
theorem readField?_eq_readFrom? (hclear : ∀ place ∈ key.places, Tree.Clear place tree) :
    key.readField? tree = key.readFrom? tree := by
  have hsingle : ∀ single : SettingKey, single.readMember? = single.read? →
      single.places = single.names.map (fun name => [name]) →
      single.readField? tree = single.readFrom? tree := by
    intro single hread hplaces
    rw [SettingKey.readField?, SettingKey.readFrom?, hplaces, filterMap_at?_map_singleton, hread]
  cases key with
  | sources | testSources | contribLibraries | frontendSources => exact hsingle _ rfl rfl
  | debounceMs =>
      have hway := hclear _ List.mem_cons_self
      rw [SettingKey.readField?, SettingKey.readFrom?, SettingKey.places, SettingKey.names,
        List.filterMap_cons, List.filterMap_cons, Tree.at?]
      cases hserver : tree.members.lookup "server" with
      | none => rfl
      | some server =>
          have hbelow := Tree.debounce?_eq_elim (hway.2.2 server hserver)
          rw [Option.bind_some]
          cases hleaf : server.at? ["debouncing", "time", "ms"] with
          | none =>
              rw [hleaf] at hbelow
              show SettingKey.debounceMs.readMember? server = some SettingKey.debounceMs.unset
              rw [SettingKey.readMember?, hbelow]
              rfl
          | some leaf =>
              rw [hleaf] at hbelow
              show SettingKey.debounceMs.readMember? server = SettingKey.debounceMs.read? leaf
              rw [SettingKey.readMember?, hbelow]
              rfl

/-- Where all ways are clear, the settings are read exactly if each is read from its leaves. -/
theorem exists_ofTree?_iff_of_clear {value : SettingKey → Json} (hclear : Clear tree) :
    (∃ settings, ofTree? tree = some settings ∧ ∀ key, settings.value key = value key) ↔
      ∀ key : SettingKey, key.readFrom? tree = some (value key) := by
  have hroot := hclear .sources _ List.mem_cons_self
  rw [exists_ofTree?_iff hroot.1 hroot.2.1]
  refine forall_congr' fun key => ?_
  rw [readField?_eq_readFrom? (hclear key)]

end Fields

end Settings

end NplLifecycle
