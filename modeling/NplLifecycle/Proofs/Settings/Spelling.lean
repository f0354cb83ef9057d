import NplLifecycle.Proofs.Path.Components
import NplLifecycle.Proofs.Settings.Stored

/-!
# Spellings of a folder

Two texts are spellings of one path if they have the same components and start at the same place.
Slashes and dots more or less do not change where a path to a settings file leads, since its last
piece is a name: what is in front of a name must be a directory anyhow.  But a path that is too long
leads nowhere, and a spelling can be as long as one likes.
-/

namespace NplLifecycle

namespace Path

variable {first second directory : Path} {name : String}

theorem agrees_iff_identity : first.agrees second = true ↔ first.identity = second.identity := by
  simp [agrees]

/-- The spellings of a path start at the same place. -/
theorem isAbsolute_of_agrees (h : first.agrees second = true) :
    first.isAbsolute = second.isAbsolute :=
  congrArg Prod.fst (agrees_iff_identity.mp h)

theorem filter_identity (p : Path) : p.identity.2.filter isComponent = p.components := by
  have hcomponents : p.components.filter isComponent = p.components :=
    List.filter_eq_self.mpr fun name hname => (isName_of_mem_components hname).1
  rw [identity, List.filter_append, hcomponents]
  split
  · rfl
  · rfl

theorem components_of_agrees (h : first.agrees second = true) :
    first.components = second.components := by
  rw [← filter_identity, ← filter_identity, agrees_iff_identity.mp h]

/-- A slash more at the end is another spelling. -/
theorem identity_concat_slash {bytes : List UInt8} (hbytes : bytes ≠ []) :
    identity ⟨bytes ++ [slash]⟩ = identity ⟨bytes⟩ := by
  have hstart : isAbsolute ⟨bytes ++ [slash]⟩ = isAbsolute ⟨bytes⟩ := by
    rw [isAbsolute, isAbsolute, List.head?_append_of_ne_nil _ hbytes]
  have hfirst : (pieces (bytes ++ [slash])).head? = (pieces bytes).head? := by
    rw [pieces_append_slash, List.head?_append_of_ne_nil _ (pieces_ne_nil bytes)]
  rw [identity, identity, hstart, hfirst, components_concat_slash]

theorem agrees_append_slashes {bytes : List UInt8} (hbytes : bytes ≠ []) (count : Nat) :
    agrees ⟨bytes⟩ ⟨bytes ++ List.replicate count slash⟩ = true := by
  refine agrees_iff_identity.mpr ?_
  induction count with
  | zero => rw [List.replicate_zero, List.append_nil]
  | succ count ih =>
      rw [List.replicate_succ', ← List.append_assoc,
        identity_concat_slash (List.append_ne_nil_of_left_ne_nil hbytes _), ih]

/-- The path of an entry starts where its directory's path starts. -/
theorem isAbsolute_entry (directory : Path) (hname : IsName (Text.encode name)) :
    (directory.entry name).isAbsolute = directory.isAbsolute := by
  have hhead : (Text.encode name).head? ≠ some slash := fun hslash =>
    hname.2 (List.mem_of_mem_head? hslash)
  rw [isAbsolute, isAbsolute, entry, extend, extend]
  cases hbytes : directory.bytes with
  | nil => simpa using hhead
  | cons b rest => simp

/-- An entry's name is the last piece of its path. -/
theorem exists_pieces_entry (directory : Path) (hname : IsName (Text.encode name)) :
    ∃ front, pieces (directory.entry name).bytes = front ++ [Text.encode name] := by
  have hpiece : pieces (Text.encode name) = [Text.encode name] := pieces_of_not_mem hname.2
  rw [entry, extend, extend]
  split
  · rename_i hends
    rcases hends with hslash | hnil
    · obtain ⟨front, hfront⟩ := List.getLast?_eq_some_iff.mp hslash
      refine ⟨pieces front, ?_⟩
      rw [hfront, List.append_nil, List.append_assoc, List.singleton_append,
        pieces_append_slash, hpiece]
    · refine ⟨[], ?_⟩
      rw [hnil]
      exact hpiece
  · refine ⟨pieces directory.bytes, ?_⟩
    rw [List.append_assoc, List.singleton_append, pieces_append_slash, hpiece]

end Path

namespace Files.Store

variable {store : Store} {here : Location} {pieces : List (List UInt8)} {last : List UInt8}
  {first second : Path}

/-- Nothing leads on from where no directory is. -/
theorem foldlM_step?_of_ne (hhere : store.at? here ≠ some .directory) (hpieces : pieces ≠ []) :
    pieces.foldlM store.step? here = none := by
  cases pieces with
  | nil => exact absurd rfl hpieces
  | cons piece rest =>
      rw [List.foldlM_cons, step?, if_pos hhere]
      rfl

/-- Pieces that name nothing can be left out in front of a name. -/
theorem foldlM_step?_filter (hlast : Path.isComponent last = true) :
    (pieces ++ [last]).foldlM store.step? here =
      ((pieces ++ [last]).filter Path.isComponent).foldlM store.step? here := by
  have hname : (pieces ++ [last]).filter Path.isComponent ≠ [] := by
    simp [hlast]
  induction pieces generalizing here with
  | nil => rw [List.nil_append, List.filter_cons_of_pos hlast, List.filter_nil]
  | cons piece rest ih =>
      have hrest : (rest ++ [last]).filter Path.isComponent ≠ [] := by
        simp [hlast]
      rw [List.cons_append, List.foldlM_cons]
      by_cases hpiece : Path.isComponent piece = true
      · rw [List.filter_cons_of_pos hpiece, List.foldlM_cons]
        congr 1
        funext there
        exact ih hrest
      · rw [List.filter_cons_of_neg hpiece]
        by_cases hhere : store.at? here = some .directory
        · have hstay : store.step? here piece = some here := by
            rw [step?, if_neg (not_not.mpr hhere), if_pos (by simpa using hpiece)]
          rw [hstay]
          exact ih hrest
        · rw [foldlM_step?_of_ne hhere hrest, step?, if_pos hhere]
          rfl

/-- Where a path with a name at its end leads is told by its components. -/
theorem locate?_eq_of_pieces {path : Path} (husable : isUsable path = true)
    (hpieces : Path.pieces path.bytes = pieces ++ [last]) (hlast : Path.isComponent last = true) :
    store.locate? path = path.components.foldlM store.step? (store.startOf path) := by
  rw [locate?, if_pos husable, hpieces, foldlM_step?_filter hlast, Path.components, hpieces]

end Files.Store

namespace Settings

open Files (Store isUsable)

variable {store : Store} {environment : Environment} {userFile : Option Path}
  {first second folder : Path}

theorem isName_file : Path.IsName (Text.encode "settings.json") :=
  ⟨by decide +kernel, by decide +kernel⟩

theorem isName_directory : Path.IsName (Text.encode ".npl") :=
  ⟨by decide +kernel, by decide +kernel⟩

theorem components_folderFile (folder : Path) :
    (folderFile folder).components =
      folder.components ++ [Text.encode ".npl", Text.encode "settings.json"] := by
  rw [folderFile, Path.components_entry _ isName_file, folderDirectory,
    Path.components_entry _ isName_directory, List.append_assoc]
  rfl

theorem isAbsolute_folderFile (folder : Path) :
    (folderFile folder).isAbsolute = folder.isAbsolute := by
  rw [folderFile, Path.isAbsolute_entry _ isName_file, folderDirectory,
    Path.isAbsolute_entry _ isName_directory]

/-- The path of a folder's settings file is short enough to lead somewhere. -/
def Reachable (folder : Path) : Prop :=
  isUsable (folderFile folder) = true

theorem locate?_folderFile (hreachable : Reachable folder) :
    store.locate? (folderFile folder) =
      (folderFile folder).components.foldlM store.step? (store.startOf (folderFile folder)) := by
  obtain ⟨front, hfront⟩ := Path.exists_pieces_entry (folderDirectory folder) isName_file
  exact Store.locate?_eq_of_pieces hreachable hfront isName_file.1

/-- The settings file is the same for all spellings of a folder that are short enough. -/
theorem node?_folderFile_of_agrees (hagrees : first.agrees second = true)
    (hfirst : Reachable first) (hsecond : Reachable second) :
    store.node? (folderFile first) = store.node? (folderFile second) := by
  have hcomponents : (folderFile first).components = (folderFile second).components := by
    rw [components_folderFile, components_folderFile, Path.components_of_agrees hagrees]
  have hstart : store.startOf (folderFile first) = store.startOf (folderFile second) := by
    rw [Store.startOf, Store.startOf, isAbsolute_folderFile, isAbsolute_folderFile,
      Path.isAbsolute_of_agrees hagrees]
  rw [Store.node?, Store.node?, locate?_folderFile hfirst, locate?_folderFile hsecond, hcomponents,
    hstart]

/-- Without a folder of its name in the way, a settings file's layer is the same for all spellings
of the folder that are short enough. -/
theorem optionalLayer?_of_agrees (hagrees : first.agrees second = true)
    (hfirst : Reachable first) (hsecond : Reachable second)
    (hfile : store.isDirectory (folderFile second) = false) :
    optionalLayer? store (some (folderFile first)) =
      optionalLayer? store (some (folderFile second)) := by
  have hnode : store.node? (folderFile first) = store.node? (folderFile second) :=
    node?_folderFile_of_agrees hagrees hfirst hsecond
  have hread : store.read? (folderFile first) = store.read? (folderFile second) := by
    rw [Store.read?, Store.read?, hnode]
  rw [optionalLayer?, optionalLayer?, Store.exists?, Store.exists?, hnode, layerOfFile?,
    layerOfFile?, hread, extension?_folderFile, extension?_folderFile]
  cases hthere : store.read? (folderFile second) with
  | some content => rfl
  | none =>
      have hmissing : store.node? (folderFile second) = none := by
        cases hnone : store.node? (folderFile second) with
        | none => rfl
        | some node =>
            cases node with
            | file content => simp [Store.read?, hnone] at hthere
            | directory => simp [Store.isDirectory, hnone] at hfile
      rw [hmissing]
      rfl

/-- The settings of a folder are the same in all spellings that are short enough. -/
theorem load_of_agrees (hagrees : first.agrees second = true)
    (hfirst : Reachable first) (hsecond : Reachable second)
    (hfile : store.isDirectory (folderFile second) = false) :
    load store environment userFile (some first) =
      load store environment userFile (some second) := by
  have hlayer := optionalLayer?_of_agrees hagrees hfirst hsecond hfile
  rw [load, load, Option.map_some, Option.map_some, hlayer]

theorem not_reachable_of_length (h : Files.pathLimit < folder.bytes.length) :
    ¬Reachable folder := by
  have hlonger : folder.bytes.length ≤ (folderFile folder).bytes.length :=
    ((Path.isPrefix_extend _ _).trans (Path.isPrefix_extend _ _)).length_le
  intro hreachable
  rw [Reachable, isUsable] at hreachable
  simp only [Bool.and_eq_true, decide_eq_true_eq] at hreachable
  omega

/-- In a folder whose path is too long no settings file is found. -/
theorem load_of_not_reachable (h : ¬Reachable folder) :
    load store environment userFile (some folder) = load store environment userFile none := by
  have hunusable : ¬isUsable (folderFile folder) = true := h
  have hmissing : store.exists? (folderFile folder) = false := by
    rw [Store.exists?, Store.node?, Store.locate?, if_neg hunusable]
    rfl
  rw [load, load, Option.map_some, Option.map_none, optionalLayer?, optionalLayer?, hmissing]
  rfl

end Settings

end NplLifecycle
