import NplLifecycle.Proofs.Settings.Persistence

/-!
# Storing settings is lawful

What a settings file says after a setting was stored depends on what it said before, and on
nothing else: the value is at the setting's place, and everything beside the way there is as it was.
If something else than an object is on the way, nothing happens.  So the last value that was stored
for a setting counts, and two settings may be stored in either order.
-/

namespace NplLifecycle.Settings

open Files (Store)
open Json (Amended ObjectsTo)

variable {store once after : Store} {folder file : Path} {key other : SettingKey}
  {value old new : Json}

/-- A setting can be edited in a file: the file is missing, or its text is that of an object, and
only objects are on the way to the setting. -/
def Editable (store : Store) (file : Path) (key : SettingKey) : Prop :=
  store.exists? file = false ∨ ∃ text members,
    (store.read? file).bind Text.decode? = some text ∧ Json.parse? text = some (.obj members) ∧
      ObjectsTo key.segments (.obj members)

/-- The value's members stand in order, its numbers are integers of 64 bits, and it is not nested
too deeply for where the setting stands. -/
structure Storable (key : SettingKey) (value : Json) : Prop where
  ordered : value.Ordered
  integral : value.Integral
  depth : key.segments.length + value.depth ≤ Json.nestingLimit

/-- The document that storing a setting makes of another. -/
def edited (key : SettingKey) (value old : Json) : Except EditError Json :=
  (assign? value key.segments old).elim (.error (.conflict key)) .ok

theorem edited_eq_ok_iff :
    edited key value old = .ok new ↔ assign? value key.segments old = some new := by
  rw [edited]
  cases assign? value key.segments old <;> simp

theorem edited_of_eq_none (h : assign? value key.segments old = none) :
    edited key value old = .error (.conflict key) := by
  rw [edited, h]
  rfl

theorem exists_edited_iff :
    (∃ new, edited key value old = .ok new) ↔ ObjectsTo key.segments old := by
  have hassign : (assign? value key.segments old).isSome ↔ ObjectsTo key.segments old :=
    isSome_assign?_iff
  rw [← hassign, Option.isSome_iff_exists]
  exact exists_congr fun new => edited_eq_ok_iff

/-- Whether a document is made, and why not. -/
theorem edited_outcome : (edited key value old).map (fun _ => ()) =
    if (assign? value key.segments old).isSome then .ok () else .error (.conflict key) := by
  rw [edited]
  cases assign? value key.segments old <;> rfl

/-- The content of a settings file is that of its text, or empty without one. -/
theorem document_eq_ok_iff : document store file = .ok old ↔
    (store.exists? file = false ∧ old = .obj []) ∨
      ∃ text, (store.read? file).bind Text.decode? = some text ∧ Json.parse? text = some old := by
  have hthere : ∀ text, (store.read? file).bind Text.decode? = some text →
      store.exists? file = true := by
    intro text htext
    rcases Option.bind_eq_some_iff.mp htext with ⟨bytes, hread, -⟩
    rw [Store.exists?]
    rw [Store.read?] at hread
    split at hread
    · rename_i hnode
      rw [hnode]
      rfl
    · exact absurd hread (by simp)
  rw [document]
  split
  · rename_i hexists
    cases htext : (store.read? file).bind Text.decode? with
    | none => simp [hexists]
    | some text => cases hparse : Json.parse? text <;> simp [hexists, hparse]
  · rename_i hmissing
    constructor
    · intro hempty
      exact .inl ⟨by simpa using hmissing, (Except.ok.inj hempty).symm⟩
    · rintro (⟨-, rfl⟩ | ⟨text, htext, -⟩)
      · rfl
      · exact absurd (hthere text htext) hmissing

/-- A setting can be edited exactly if there is a document to edit. -/
theorem editable_iff : Editable store file key ↔
    ∃ new, (document store file).bind (edited key value) = .ok new := by
  have hempty : ObjectsTo key.segments (.obj []) := by
    have hmade : (assign? .null key.segments (.obj [])).isSome := by cases key <;> rfl
    exact isSome_assign?_iff.mp hmade
  have hobject {found : Json} (hway : ObjectsTo key.segments found) :
      ∃ members, found = .obj members :=
    hway [] List.nil_prefix (by rw [key.segments_eq]; simp) found rfl
  calc
    Editable store file key ↔
        ∃ old, document store file = .ok old ∧ ObjectsTo key.segments old := by
      constructor
      · rintro (hmissing | ⟨text, members, htext, hparse, hway⟩)
        · exact ⟨_, document_eq_ok_iff.mpr (.inl ⟨hmissing, rfl⟩), hempty⟩
        · exact ⟨_, document_eq_ok_iff.mpr (.inr ⟨text, htext, hparse⟩), hway⟩
      · rintro ⟨old, hdocument, hway⟩
        rcases document_eq_ok_iff.mp hdocument with ⟨hmissing, -⟩ | ⟨text, htext, hparse⟩
        · exact .inl hmissing
        · rcases hobject hway with ⟨members, rfl⟩
          exact .inr ⟨text, members, htext, hparse, hway⟩
    _ ↔ ∃ new, (document store file).bind (edited key value) = .ok new := by
      cases document store file with
      | error error => simp [Except.bind]
      | ok old =>
          have hmade : (Except.ok old).bind (edited key value) = edited key value old := rfl
          rw [hmade, exists_edited_iff]
          simp

/-- A folder whose settings file can be written, and whose document is read back if it is. -/
structure Tractable (store : Store) (folder : Path) : Prop where
  writable : Writable store folder
  legible : ∀ old, document store (folderFile folder) = .ok old → old.Every Json.Legible

/-- A setting that no document is made for is not stored, and nothing changes. -/
theorem write_of_error {error : EditError}
    (h : (document store (folderFile folder)).bind (edited key value) = .error error) :
    write store folder key value = (store, .error error) := by
  rw [write]
  cases hdocument : document store (folderFile folder) with
  | error other =>
      rw [hdocument] at h
      rw [Except.error.inj h]
  | ok old =>
      have hconflict : edited key value old = .error error := by
        rwa [hdocument] at h
      cases hassign : assign? value key.segments old with
      | none =>
          rw [edited_of_eq_none hassign] at hconflict
          rw [← Except.error.inj hconflict]
          dsimp only
          rw [hassign]
      | some new =>
          rw [edited_eq_ok_iff.mpr hassign] at hconflict
          exact absurd hconflict (by simp)

theorem exists_of_bind_edited
    (h : (document store (folderFile folder)).bind (edited key value) = .ok new) :
    ∃ old, document store (folderFile folder) = .ok old ∧
      assign? value key.segments old = some new := by
  cases hdocument : document store (folderFile folder) with
  | error error =>
      rw [hdocument] at h
      exact absurd h (by simp [Except.bind])
  | ok old =>
      rw [hdocument] at h
      exact ⟨old, rfl, edited_eq_ok_iff.mp h⟩

/-- A setting that a document is made for is stored, and the file holds that document. -/
theorem Tractable.write_of_ok (h : Tractable store folder) (hvalue : Storable key value)
    (hedited : (document store (folderFile folder)).bind (edited key value) = .ok new) :
    document (write store folder key value).1 (folderFile folder) = .ok new ∧
      Tractable (write store folder key value).1 folder := by
  rcases exists_of_bind_edited hedited with ⟨old, hdocument, hassign⟩
  have hold := h.legible old hdocument
  have hlegible := Json.legible_of_integral value hvalue.integral
  have hwritable := h.writable.write key value
  obtain ⟨after, hwrite, hafter⟩ :=
    document_of_edit h.writable hdocument hold hvalue.ordered hlegible hvalue.depth hassign
  rw [hwrite] at hwritable ⊢
  refine ⟨hafter, hwritable, ?_⟩
  intro found hfound
  rw [hafter] at hfound
  rw [← Except.ok.inj hfound]
  exact every_of_assign? hlegible hold hassign

/-- Storing a setting has the outcome of making its document. -/
theorem write_outcome (h : Writable store folder) (key : SettingKey) (value : Json) :
    (write store folder key value).2 =
      ((document store (folderFile folder)).bind (edited key value)).map fun _ => () := by
  cases hedited : (document store (folderFile folder)).bind (edited key value) with
  | error error =>
      rw [write_of_error hedited]
      rfl
  | ok new =>
      rcases exists_of_bind_edited hedited with ⟨old, hdocument, hassign⟩
      rcases exists_write h hdocument hassign with ⟨after, hwrite, -⟩
      rw [hwrite]
      rfl

/-- A setting that is stored had a document made for it. -/
theorem exists_of_write (h : Writable store folder)
    (hstored : (write store folder key value).2 = .ok ()) :
    ∃ new, (document store (folderFile folder)).bind (edited key value) = .ok new := by
  rw [write_outcome h] at hstored
  cases hedited : (document store (folderFile folder)).bind (edited key value) with
  | ok new => exact ⟨new, rfl⟩
  | error error =>
      rw [hedited] at hstored
      exact absurd hstored (by simp [Except.map])

/-- A setting is stored exactly if it can be edited in the file. -/
theorem write_eq_ok_iff (h : Writable store folder) :
    (write store folder key value).2 = .ok () ↔ Editable store (folderFile folder) key := by
  constructor
  · intro hstored
    exact editable_iff.mpr (exists_of_write h hstored)
  · intro heditable
    rcases editable_iff.mp heditable with ⟨new, hedited⟩
    rw [write_outcome h, hedited]
    rfl

/-- A setting that is not stored leaves everything as it was. -/
theorem write_untouched (h : Writable store folder)
    (hfailed : (write store folder key value).2 ≠ .ok ()) :
    (write store folder key value).1 = store := by
  cases hedited : (document store (folderFile folder)).bind (edited key value) with
  | error error => rw [write_of_error hedited]
  | ok new =>
      rw [write_outcome h, hedited] at hfailed
      exact absurd rfl hfailed

/-- The laws of storing settings in a folder. -/
structure LawfulEdits (store : Store) (folder : Path) : Prop where
  /-- A setting is stored exactly if it can be edited in the file. -/
  succeeds_iff : ∀ key value,
    (write store folder key value).2 = .ok () ↔ Editable store (folderFile folder) key
  /-- If it is not, nothing changes. -/
  untouched : ∀ key value, (write store folder key value).2 ≠ .ok () →
    (write store folder key value).1 = store
  /-- If it is, the file holds the old document with the value at the setting's place. -/
  amends : ∀ key value old, Storable key value → document store (folderFile folder) = .ok old →
    (write store folder key value).2 = .ok () →
    ∃ new, document (write store folder key value).1 (folderFile folder) = .ok new ∧
      Amended key.segments value old new
  /-- The value that was stored last counts. -/
  overrides : ∀ key first second, Storable key first → Storable key second →
    (write (write store folder key first).1 folder key second).2 =
      (write store folder key second).2 ∧
    document (write (write store folder key first).1 folder key second).1 (folderFile folder) =
      document (write store folder key second).1 (folderFile folder)
  /-- Two settings may be stored in either order. -/
  commutes : ∀ key other first second, key ≠ other → Storable key first → Storable other second →
    (write (write store folder key first).1 folder other second).2 =
      (write store folder other second).2 ∧
    document (write (write store folder key first).1 folder other second).1 (folderFile folder) =
      document (write (write store folder other second).1 folder key first).1 (folderFile folder)

section Twice

variable {first second : Json}

theorem root_ne_root (hne : other ≠ key) : other.root ≠ key.root := fun heq =>
  SettingKey.root_not_mem_names hne.symm (heq ▸ key.root_mem_names)

/-- A second value for a setting makes the document that it would have made alone. -/
theorem Tractable.bind_edited_same (h : Tractable store folder) (hfirst : Storable key first) :
    (document (write store folder key first).1 (folderFile folder)).bind (edited key second) =
      (document store (folderFile folder)).bind (edited key second) := by
  cases hedited : (document store (folderFile folder)).bind (edited key first) with
  | error error => rw [write_of_error hedited]
  | ok new =>
      rcases exists_of_bind_edited hedited with ⟨old, hdocument, hassign⟩
      rw [(h.write_of_ok hfirst hedited).1, hdocument]
      change edited key second new = edited key second old
      rw [edited, edited, assign?_assign? hassign]

/-- Whether a setting is stored, and why not, does not depend on another setting. -/
theorem Tractable.outcome_beside (h : Tractable store folder) (hfirst : Storable key first)
    (hne : other ≠ key) :
    (write (write store folder key first).1 folder other second).2 =
      (write store folder other second).2 := by
  rw [write_outcome (h.writable.write key first), write_outcome h.writable]
  cases hedited : (document store (folderFile folder)).bind (edited key first) with
  | error error => rw [write_of_error hedited]
  | ok new =>
      rcases exists_of_bind_edited hedited with ⟨old, hdocument, hassign⟩
      rw [(h.write_of_ok hfirst hedited).1, hdocument]
      have hsame : (assign? second other.segments new).isSome =
          (assign? second other.segments old).isSome := by
        rw [key.segments_eq] at hassign
        rw [other.segments_eq]
        exact isSome_assign?_beside (root_ne_root hne) hassign
      change (edited other second new).map (fun _ => ()) = (edited other second old).map fun _ => ()
      rw [edited_outcome, edited_outcome, hsame]

/-- A document with both settings does not depend on which was stored first. -/
theorem Tractable.bind_edited_comm {afterFirst afterOther : Json} (h : Tractable store folder)
    (hfirst : Storable key first) (hsecond : Storable other second) (hne : other ≠ key)
    (hedited : (document store (folderFile folder)).bind (edited key first) = .ok afterFirst)
    (hother : (document store (folderFile folder)).bind (edited other second) = .ok afterOther) :
    (document (write store folder key first).1 (folderFile folder)).bind (edited other second) =
      (document (write store folder other second).1 (folderFile folder)).bind
        (edited key first) := by
  rcases exists_of_bind_edited hedited with ⟨old, hdocument, hassign⟩
  rcases exists_of_bind_edited hother with ⟨found, hfound, hbeside⟩
  have hold : found = old := Except.ok.inj (hfound.symm.trans hdocument)
  rw [hold, other.segments_eq] at hbeside
  rw [key.segments_eq] at hassign
  rw [(h.write_of_ok hfirst hedited).1, (h.write_of_ok hsecond hother).1]
  change edited other second afterFirst = edited key first afterOther
  have hconflict : ∃ both, assign? second other.segments afterFirst = some both := by
    rw [← Option.isSome_iff_exists, other.segments_eq,
      isSome_assign?_beside (root_ne_root hne) hassign, hbeside]
    rfl
  rcases hconflict with ⟨both, hboth⟩
  have hcomm : assign? first key.segments afterOther = some both := by
    rw [← hboth, key.segments_eq, other.segments_eq]
    exact (assign?_comm (root_ne_root hne) hassign hbeside).symm
  rw [edited_eq_ok_iff.mpr hboth, edited_eq_ok_iff.mpr hcomm]

/-- Storing keeps a folder tractable. -/
theorem Tractable.after_write (h : Tractable store folder) (hvalue : Storable key value) :
    Tractable (write store folder key value).1 folder := by
  cases hedited : (document store (folderFile folder)).bind (edited key value) with
  | error error =>
      rw [write_of_error hedited]
      exact h
  | ok new => exact (h.write_of_ok hvalue hedited).2

/-- The value that is stored last counts. -/
theorem Tractable.document_write_write (h : Tractable store folder) (hfirst : Storable key first)
    (hsecond : Storable key second) :
    document (write (write store folder key first).1 folder key second).1 (folderFile folder) =
      document (write store folder key second).1 (folderFile folder) := by
  by_cases hlater : (write store folder key second).2 = .ok ()
  · rcases exists_of_write h.writable hlater with ⟨new, hedited⟩
    rw [(h.write_of_ok hsecond hedited).1]
    exact ((h.after_write hfirst).write_of_ok hsecond ((h.bind_edited_same hfirst).trans hedited)).1
  · -- Where the second value cannot be stored, the first cannot be either.
    have hearlier : (write store folder key first).2 ≠ .ok () := fun hstored =>
      hlater ((write_eq_ok_iff h.writable).mpr ((write_eq_ok_iff h.writable).mp hstored))
    rw [write_untouched h.writable hearlier]

/-- Two settings are stored in either order. -/
theorem Tractable.document_write_comm (h : Tractable store folder) (hfirst : Storable key first)
    (hsecond : Storable other second) (hne : other ≠ key) :
    document (write (write store folder key first).1 folder other second).1 (folderFile folder) =
      document (write (write store folder other second).1 folder key first).1
        (folderFile folder) := by
  by_cases hkey : (write store folder key first).2 = .ok ()
  · by_cases hother : (write store folder other second).2 = .ok ()
    · rcases exists_of_write h.writable hkey with ⟨afterFirst, hedited⟩
      rcases exists_of_write h.writable hother with ⟨afterOther, hbeside⟩
      have hboth := h.bind_edited_comm hfirst hsecond hne hedited hbeside
      have hsome : (write (write store folder key first).1 folder other second).2 = .ok () :=
        (h.outcome_beside hfirst hne).trans hother
      rcases exists_of_write (h.after_write hfirst).writable hsome with ⟨both, hmade⟩
      rw [((h.after_write hfirst).write_of_ok hsecond hmade).1,
        ((h.after_write hsecond).write_of_ok hfirst (hboth.symm.trans hmade)).1]
    · have hagain : (write (write store folder key first).1 folder other second).2 ≠ .ok () := by
        rwa [h.outcome_beside hfirst hne]
      rw [write_untouched (h.after_write hfirst).writable hagain, write_untouched h.writable hother]
  · have hagain : (write (write store folder other second).1 folder key first).2 ≠ .ok () := by
      rwa [h.outcome_beside hsecond hne.symm]
    rw [write_untouched h.writable hkey, write_untouched (h.after_write hsecond).writable hagain]

/-- Whether a value is stored does not depend on an earlier one of the same setting. -/
theorem Tractable.outcome_same (h : Tractable store folder) (hfirst : Storable key first) :
    (write (write store folder key first).1 folder key second).2 =
      (write store folder key second).2 := by
  rw [write_outcome (h.after_write hfirst).writable, write_outcome h.writable,
    h.bind_edited_same hfirst]

end Twice

/-- Where a settings file can be written, and the numbers that it holds already are integers of 64
bits, storing settings is lawful. -/
theorem lawfulEdits_of_integral (hwritable : Writable store folder)
    (hintegral : ∀ old, document store (folderFile folder) = .ok old → old.Integral) :
    LawfulEdits store folder := by
  have h : Tractable store folder :=
    ⟨hwritable, fun old hold => Json.legible_of_integral old (hintegral old hold)⟩
  refine ⟨?_, ?_, ?_, ?_, ?_⟩
  · intro key value
    exact write_eq_ok_iff hwritable
  · intro key value hfailed
    exact write_untouched hwritable hfailed
  · intro key value old hvalue hdocument hstored
    rcases exists_of_write hwritable hstored with ⟨new, hedited⟩
    rcases exists_of_bind_edited hedited with ⟨found, hfound, hassign⟩
    have hold : found = old := Except.ok.inj (hfound.symm.trans hdocument)
    rw [hold] at hassign
    exact ⟨new, (h.write_of_ok hvalue hedited).1, amended_of_assign? hassign⟩
  · intro key first second hfirst hsecond
    exact ⟨h.outcome_same hfirst, h.document_write_write hfirst hsecond⟩
  · intro key other first second hne hfirst hsecond
    exact ⟨h.outcome_beside hfirst hne.symm, h.document_write_comm hfirst hsecond hne.symm⟩

/-- The laws hold of a folder whose settings stand beside those of another tool. -/
theorem lawfulEdits_practiceShared :
    Writable practiceShared practiceFolder ∧
      document practiceShared (folderFile practiceFolder) = .ok (.obj practiceMembers) ∧
      (Json.obj practiceMembers).Integral ∧ LawfulEdits practiceShared practiceFolder := by
  have hwritable : Writable practiceShared practiceFolder :=
    writable_of_isSome (by decide +kernel) (by decide +kernel)
  have hintegral : (Json.obj practiceMembers).Integral :=
    ⟨⟨⟨by decide, by decide⟩, trivial⟩, trivial, trivial⟩
  refine ⟨hwritable, document_practiceShared, hintegral, ?_⟩
  apply lawfulEdits_of_integral hwritable
  intro old hold
  rwa [← Except.ok.inj (document_practiceShared.symm.trans hold)]

end NplLifecycle.Settings
