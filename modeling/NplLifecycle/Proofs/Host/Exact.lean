import NplLifecycle.Proofs.Host.Notice
import NplLifecycle.Proofs.Settings.Spelling

/-!
# What a reload tells

A reload that cannot read a scope changes nothing and tells nothing.  Otherwise every scope is
remembered as it was read, the keys that changed for any scope are told once and together, and a
second reload of the same files has nothing to tell.

This needs one thing of the roots: those that spell one path differently must be read alike.  They
are remembered in one place, but each is read by its own text; where the text of one is too long for
a path, its settings file is not found, and every reload finds the other's settings changed.
-/

namespace NplLifecycle

open Files (Store)

namespace Settings

theorem str_injective : Function.Injective Json.str := fun _ _ => Json.str.inj

theorem ofStrings_injective : Function.Injective Json.ofStrings := fun _ _ h =>
  List.map_injective_iff.mpr str_injective (Json.arr.inj h)

/-- A value that is not `null` is told from one that is missing. -/
theorem eq_of_ofOption_map {α : Type} {toJson : α → Json} {first second : Option α}
    (hinjective : Function.Injective toJson) (hnull : ∀ a, toJson a ≠ .null)
    (h : Json.ofOption (first.map toJson) = Json.ofOption (second.map toJson)) :
    first = second := by
  cases first with
  | none =>
      cases second with
      | none => rfl
      | some b => exact absurd h.symm (hnull b)
  | some a =>
      cases second with
      | none => exact absurd h (hnull a)
      | some b => exact congrArg some (hinjective h)

/-- Settings are told apart by their values. -/
theorem eq_of_value {before after : Settings} (h : ∀ key, before.value key = after.value key) :
    before = after := by
  have hstr : ∀ text : String, Json.str text ≠ .null := by simp
  have hsources := eq_of_ofOption_map str_injective hstr (h .sources)
  have htestSources := eq_of_ofOption_map str_injective hstr (h .testSources)
  have hlibraries := eq_of_ofOption_map ofStrings_injective (by simp [Json.ofStrings])
    (h .contribLibraries)
  have hfrontend := eq_of_ofOption_map str_injective hstr (h .frontendSources)
  have hdebounce : before.debounceMs = after.debounceMs :=
    Int.ofNat.inj (Json.int.inj (h .debounceMs))
  cases before
  cases after
  simp_all

theorem changedKeys_eq_nil_iff {before after : Settings} :
    changedKeys before after = [] ↔ before = after := by
  constructor
  · intro hnone
    refine eq_of_value fun key => ?_
    by_contra hne
    have hmem := mem_changedKeys.mpr hne
    rw [hnone] at hmem
    exact List.not_mem_nil hmem
  · rintro rfl
    simp [changedKeys]

end Settings

namespace LocalHost

variable {files : Store} {environment : Environment} {host next : LocalHost}
  {changed : List SettingKey} {scope : Scope} {key : SettingKey} {settings : Settings}
  {readings : List (Scope × Settings)}

theorem refresh_eq (host : LocalHost) (changed : List SettingKey) (reading : Scope × Settings) :
    refresh (host, changed) reading = (host.remember reading.1 reading.2, changed ++
      (Settings.changedKeys (host.recorded reading.1) reading.2).filter
        fun key => ! changed.contains key) :=
  rfl

theorem nodup_refresh {reading : Scope × Settings} (hnodup : changed.Nodup) :
    (refresh (host, changed) reading).2.Nodup := by
  refine List.Nodup.append hnodup (((show SettingKey.all.Nodup by decide).filter _).filter _) ?_
  intro key hold hnew
  have hfresh := (List.mem_filter.mp hnew).2
  simp [hold] at hfresh

/-- No key is given twice. -/
theorem nodup_foldl_refresh (hnodup : changed.Nodup) :
    (readings.foldl refresh (host, changed)).2.Nodup := by
  induction readings generalizing host changed with
  | nil => exact hnodup
  | cons reading rest ih => exact ih (nodup_refresh hnodup)

/-- A scope is remembered as it was read, if all its spellings were read alike. -/
theorem lookup?_foldl_refresh
    (halike : ∀ reading ∈ readings, scope.agrees reading.1 = true → reading.2 = settings)
    (hread : (∃ reading ∈ readings, scope.agrees reading.1 = true) ∨
      Scope.lookup? scope host.snapshots = some settings) :
    Scope.lookup? scope (readings.foldl refresh (host, changed)).1.snapshots = some settings := by
  induction readings generalizing host changed with
  | nil =>
      obtain ⟨reading, hreading, -⟩ | hfound := hread
      · exact absurd hreading List.not_mem_nil
      · exact hfound
  | cons reading rest ih =>
      obtain ⟨hnow, hlater⟩ := List.forall_mem_cons.mp halike
      rw [foldl_refresh_cons]
      refine ih hlater ?_
      rw [remember, Scope.lookup?_assign]
      cases hagrees : scope.agrees reading.1 with
      | true => exact .inr (by rw [if_pos rfl, hnow hagrees])
      | false =>
          refine hread.imp ?_ fun hfound => by rw [if_neg (by simp), hfound]
          rintro ⟨other, hother, hsame⟩
          rcases List.mem_cons.mp hother with rfl | hrest
          · rw [hagrees] at hsame
            exact absurd hsame Bool.false_ne_true
          · exact ⟨other, hrest, hsame⟩

/-- Are the scopes that spell one path read alike? -/
def Consistent (files : Store) (environment : Environment) (host : LocalHost) : Prop :=
  ∀ first ∈ host.scopes, ∀ second ∈ host.scopes, first.agrees second = true →
    host.read files environment first = host.read files environment second

/-- Is the settings file of a scope found by the scope's text: is its path short enough, and no
directory in its place? -/
def Plain (files : Store) (scope : Scope) : Prop :=
  ∀ folder, scope = some folder →
    Settings.Reachable folder ∧ files.isDirectory (Settings.folderFile folder) = false

/-- Roots that are given twice in the same words do no harm, nor do other words that are short. -/
theorem consistent_of_plain
    (hplain : ∀ first ∈ host.scopes, ∀ second ∈ host.scopes, first.agrees second = true →
      first = second ∨ Plain files first ∧ Plain files second) :
    Consistent files environment host := by
  intro first hfirst second hsecond hagrees
  rcases hplain first hfirst second hsecond hagrees with rfl | ⟨hshort, hother⟩
  · rfl
  · cases first with
    | none =>
        cases second with
        | none => rfl
        | some folder => exact absurd hagrees Bool.false_ne_true
    | some folder =>
        cases second with
        | none => exact absurd hagrees Bool.false_ne_true
        | some spelling =>
            exact Settings.load_of_agrees hagrees (hshort folder rfl).1 (hother spelling rfl).1
              (hother spelling rfl).2

/-- A reload is an exact difference: every scope is remembered as it is in the files, the keys are
those whose value is another now for some scope, and the same files have nothing more to tell. -/
structure Exact (files : Store) (environment : Environment) (host next : LocalHost)
    (changed : List SettingKey) : Prop where
  fresh : ∀ scope ∈ host.scopes, ∃ settings, host.read files environment scope = .ok settings ∧
    Scope.lookup? scope next.snapshots = some settings
  differs : ∀ key, key ∈ changed ↔
    ∃ scope ∈ host.scopes, (host.recorded scope).value key ≠ (next.recorded scope).value key
  silent : ∃ later, next.reload files environment = .ok (later, []) ∧
    next? environment (files, next) .reload = some ((files, later), [.reloaded]) ∧
    ∀ scope, Scope.lookup? scope later.snapshots = Scope.lookup? scope next.snapshots

theorem userFile_foldl_refresh :
    (readings.foldl refresh (host, changed)).1.userFile = host.userFile := by
  induction readings generalizing host changed with
  | nil => rfl
  | cons reading rest ih => exact ih

theorem lookup?_foldl_refresh_of_not
    (hnone : ∀ reading ∈ readings, scope.agrees reading.1 = false) :
    Scope.lookup? scope (readings.foldl refresh (host, changed)).1.snapshots =
      Scope.lookup? scope host.snapshots := by
  induction readings generalizing host changed with
  | nil => rfl
  | cons reading rest ih =>
      obtain ⟨hnow, hlater⟩ := List.forall_mem_cons.mp hnone
      rw [foldl_refresh_cons, ih hlater, remember, Scope.lookup?_assign, hnow]
      rfl

section Reload

variable (hreads : host.Reads files environment readings)
  (hconsistent : Consistent files environment host)

include hreads hconsistent

/-- Readings of one scope are the same. -/
theorem eq_of_consistent {reading other : Scope × Settings} (hreading : reading ∈ readings)
    (hother : other ∈ readings) (hagrees : reading.1.agrees other.1 = true) :
    other.2 = reading.2 := by
  have hscope : reading.1 ∈ host.scopes := hreads.1 ▸ List.mem_map_of_mem hreading
  have hspelling : other.1 ∈ host.scopes := hreads.1 ▸ List.mem_map_of_mem hother
  have hsame := hconsistent _ hscope _ hspelling hagrees
  rw [hreads.2 reading hreading, hreads.2 other hother] at hsame
  exact (Except.ok.inj hsame).symm

theorem lookup?_of_consistent {reading : Scope × Settings} (hreading : reading ∈ readings) :
    Scope.lookup? reading.1 (readings.foldl refresh (host, changed)).1.snapshots =
      some reading.2 := by
  have hself : reading.1.agrees reading.1 = true := by
    cases reading.1 <;> simp [Scope.agrees, Path.agrees]
  exact lookup?_foldl_refresh
    (fun other hother hagrees => eq_of_consistent hreads hconsistent hreading hother hagrees)
    (.inl ⟨reading, hreading, hself⟩)

end Reload

/-! After a reload the host reads as before. -/

theorem read_foldl_refresh (scope : Scope) :
    (readings.foldl refresh (host, changed)).1.read files environment scope =
      host.read files environment scope := by
  rw [read, read, userFile_foldl_refresh]

theorem reads_foldl_refresh (hreads : host.Reads files environment readings) :
    (readings.foldl refresh (host, changed)).1.Reads files environment readings :=
  ⟨hreads.1.trans scopes_foldl_refresh.symm, fun reading hreading =>
    (read_foldl_refresh reading.1).trans (hreads.2 reading hreading)⟩

theorem consistent_foldl_refresh (hconsistent : Consistent files environment host) :
    Consistent files environment (readings.foldl refresh (host, changed)).1 := by
  intro first hfirst second hsecond hagrees
  rw [scopes_foldl_refresh] at hfirst hsecond
  rw [read_foldl_refresh, read_foldl_refresh]
  exact hconsistent first hfirst second hsecond hagrees

/-- A host that remembers what it reads has nothing to tell, and goes on remembering it. -/
theorem foldl_refresh_of_recorded (hreads : host.Reads files environment readings)
    (hconsistent : Consistent files environment host)
    (hfound : ∀ reading ∈ readings, Scope.lookup? reading.1 host.snapshots = some reading.2) :
    (readings.foldl refresh (host, [])).2 = [] ∧
      ∀ scope, Scope.lookup? scope (readings.foldl refresh (host, [])).1.snapshots =
        Scope.lookup? scope host.snapshots := by
  constructor
  · refine List.eq_nil_iff_forall_not_mem.mpr fun key => ?_
    refine (foldl_refresh_of_eq List.not_mem_nil fun reading hreading => ?_).1
    rw [recorded, hfound reading hreading, Option.getD_some]
  · intro scope
    by_cases hread : ∃ reading ∈ readings, scope.agrees reading.1 = true
    · obtain ⟨reading, hreading, hagrees⟩ := hread
      rw [Scope.lookup?_congr hagrees, Scope.lookup?_congr hagrees, hfound reading hreading,
        lookup?_of_consistent hreads hconsistent hreading]
    · push Not at hread
      exact lookup?_foldl_refresh_of_not fun reading hreading =>
        Bool.not_eq_true _ ▸ hread reading hreading

theorem exact_of_consistent (hreads : host.Reads files environment readings)
    (hfold : readings.foldl refresh (host, []) = (next, changed))
    (hconsistent : Consistent files environment host) :
    Exact files environment host next changed := by
  have hfound : ∀ reading ∈ readings,
      Scope.lookup? reading.1 next.snapshots = some reading.2 := by
    intro reading hreading
    have hnow : Scope.lookup? reading.1 (readings.foldl refresh (host, [])).1.snapshots =
        some reading.2 :=
      lookup?_of_consistent hreads hconsistent hreading
    rwa [hfold] at hnow
  have hagain : next.Reads files environment readings := by
    have hlater : (readings.foldl refresh (host, [])).1.Reads files environment readings :=
      reads_foldl_refresh hreads
    rwa [hfold] at hlater
  have hstill : Consistent files environment next := by
    have hlater : Consistent files environment (readings.foldl refresh (host, [])).1 :=
      consistent_foldl_refresh hconsistent
    rwa [hfold] at hlater
  refine ⟨?_, ?_, ?_⟩
  · intro scope hscope
    rw [← hreads.1] at hscope
    obtain ⟨reading, hreading, rfl⟩ := List.mem_map.mp hscope
    exact ⟨reading.2, hreads.2 reading hreading, hfound reading hreading⟩
  · intro key
    constructor
    · intro hmem
      by_contra hnone
      push Not at hnone
      have hkept : key ∉ (readings.foldl refresh (host, [])).2 := by
        refine (foldl_refresh_of_eq List.not_mem_nil fun reading hreading => ?_).1
        rw [hnone reading.1 (hreads.1 ▸ List.mem_map_of_mem hreading), recorded,
          hfound reading hreading, Option.getD_some]
      rw [hfold] at hkept
      exact hkept hmem
    · rintro ⟨scope, -, hne⟩
      have hadded : key ∈ (readings.foldl refresh (host, [])).2 := by
        apply mem_foldl_refresh_of_ne
        rw [hfold]
        exact Ne.symm hne
      rwa [hfold] at hadded
  · obtain ⟨hnone, hkept⟩ := foldl_refresh_of_recorded hagain hstill hfound
    have hreload : next.reload files environment =
        .ok ((readings.foldl refresh (next, [])).1, []) :=
      reload_eq_ok_iff.mpr ⟨readings, hagain, Prod.ext rfl hnone⟩
    refine ⟨_, hreload, ?_, hkept⟩
    rw [next?, hreload]
    rfl

/-- Spellings of one path are remembered in one place, so they must have been read alike. -/
theorem consistent_of_fresh (hfresh : ∀ scope ∈ host.scopes, ∃ settings,
    host.read files environment scope = .ok settings ∧
      Scope.lookup? scope next.snapshots = some settings) :
    Consistent files environment host := by
  intro first hfirst second hsecond hagrees
  obtain ⟨settings, hread, hfound⟩ := hfresh first hfirst
  obtain ⟨others, hother, hsame⟩ := hfresh second hsecond
  rw [Scope.lookup?_congr hagrees, hsame] at hfound
  rw [hread, hother, Option.some.inj hfound]

/-- The announcement of a reload: one of all keys that changed, or none. -/
theorem settle_reload {Failure : Type} :
    host.settle (.ok (next, changed) : Except Failure _) =
      (next, (if changed = [] then [] else [.announced (.ofSettings changed)]) ++ [.reloaded]) := by
  cases changed <;> rfl

/-- A scope that cannot be read stops the reload. -/
theorem exists_reload_eq_error {failure : LoadError} (hscope : scope ∈ host.scopes)
    (hread : host.read files environment scope = .error failure) :
    ∃ failure, host.reload files environment = .error failure := by
  cases hreload : host.reload files environment with
  | error failure => exact ⟨failure, rfl⟩
  | ok reloaded =>
      obtain ⟨readings, ⟨hscopes, hfound⟩, -⟩ := reload_eq_ok_iff.mp hreload
      rw [← hscopes] at hscope
      obtain ⟨reading, hreading, rfl⟩ := List.mem_map.mp hscope
      rw [hfound reading hreading] at hread
      simp at hread

/-- A reload that cannot read a scope changes nothing and tells nothing.  Any other takes over and
tells the keys that changed together; and it is an exact difference exactly if the spellings of one
path are read alike, which they are unless one is too long or a directory is in a file's place. -/
theorem reload_exact_iff_consistent (files : Store) (environment : Environment)
    (host : LocalHost) :
    (∀ scope ∈ host.scopes, ∀ failure, host.read files environment scope = .error failure →
      (∃ failure, host.reload files environment = .error failure) ∧
        next? environment (files, host) .reload = some ((files, host), [])) ∧
    ((∀ scope ∈ host.scopes, ∃ settings, host.read files environment scope = .ok settings) →
      ∃ next changed, host.reload files environment = .ok (next, changed) ∧ changed.Nodup ∧
        next? environment (files, host) .reload = some ((files, next),
          (if changed = [] then [] else [.announced (.ofSettings changed)]) ++ [.reloaded]) ∧
        (Exact files environment host next changed ↔ Consistent files environment host)) ∧
    ((∀ first ∈ host.scopes, ∀ second ∈ host.scopes, first.agrees second = true →
        first = second ∨ Plain files first ∧ Plain files second) →
      Consistent files environment host) ∧
    ∀ before after, Settings.changedKeys before after = [] ↔ before = after := by
  refine ⟨?_, ?_, consistent_of_plain, fun _ _ => Settings.changedKeys_eq_nil_iff⟩
  · intro scope hscope failure hread
    obtain ⟨first, hreload⟩ := exists_reload_eq_error hscope hread
    refine ⟨⟨first, hreload⟩, ?_⟩
    rw [next?, hreload]
    rfl
  · intro hread
    choose! found hfound using hread
    let readings := host.scopes.map fun scope => (scope, found scope)
    have hreads : host.Reads files environment readings := reads_of_read hfound
    have hreload : host.reload files environment =
        .ok ((readings.foldl refresh (host, [])).1, (readings.foldl refresh (host, [])).2) :=
      reload_eq_ok_iff.mpr ⟨readings, hreads, rfl⟩
    refine ⟨_, _, hreload, nodup_foldl_refresh List.nodup_nil, ?_, ?_⟩
    · rw [next?, hreload, settle_reload]
    · exact ⟨fun hexact => consistent_of_fresh hexact.fresh, exact_of_consistent hreads rfl⟩

section Practice

open Settings (practiceFolder)

/-- The practice folder with more slashes behind it than a path may have bytes. -/
def practiceSprawl : Path :=
  ⟨practiceFolder.bytes ++ List.replicate 4200 Path.slash⟩

/-- A host of which the two roots are one folder. -/
def practiceTwins : LocalHost :=
  ⟨[.ofDirectory practiceFolder 0, .ofDirectory practiceSprawl 1], none, [], []⟩

theorem agrees_practiceSprawl : practiceFolder.agrees practiceSprawl = true :=
  Path.agrees_append_slashes (by decide +kernel) 4200

theorem read_practiceSprawl :
    practiceTwins.read practiceGiving [] (some practiceSprawl) = .ok {} := by
  have hlong : ¬Settings.Reachable practiceSprawl := by
    refine Settings.not_reachable_of_length ?_
    rw [practiceSprawl, List.length_append, List.length_replicate]
    exact Nat.lt_of_lt_of_le (by decide) (Nat.le_add_left 4200 _)
  rw [read, Settings.load_of_not_reachable hlong]
  decide +kernel

def practiceReadings : List (Scope × Settings) :=
  [(none, {}), (some practiceFolder, { sources := some "/s" }), (some practiceSprawl, {})]

theorem reads_practiceTwins : practiceTwins.Reads practiceGiving [] practiceReadings := by
  have hfolder : practiceTwins.read practiceGiving [] (some practiceFolder) =
      .ok { sources := some "/s" } := by
    decide +kernel
  have hglobal : practiceTwins.read practiceGiving [] none = .ok {} := by
    decide +kernel
  refine ⟨rfl, ?_⟩
  simp only [practiceReadings, List.forall_mem_cons]
  exact ⟨hglobal, hfolder, read_practiceSprawl, by simp⟩

/-- A host that goes by the defaults finds the sources in the one spelling, and goes by the defaults
again once it has read the other. -/
theorem exists_reload_practiceReadings
    (hreads : host.Reads practiceGiving [] practiceReadings)
    (hglobal : host.recorded none = {}) (hfolder : host.recorded (some practiceFolder) = {}) :
    ∃ next, host.reload practiceGiving [] = .ok (next, [.sources]) ∧
      next.Reads practiceGiving [] practiceReadings ∧
      next.recorded none = {} ∧ next.recorded (some practiceFolder) = {} := by
  have hspelling : Scope.agrees (some practiceFolder) (some practiceSprawl) = true :=
    agrees_practiceSprawl
  have hback : Scope.agrees (some practiceSprawl) (some practiceFolder) = true := by
    rw [Scope.agrees_comm, hspelling]
  have hglobals : ∀ folder, Scope.agrees none (some folder) = false ∧
      Scope.agrees (some folder) none = false := fun _ => ⟨rfl, rfl⟩
  have htold : (practiceReadings.foldl refresh (host, [])).2 = [.sources] := by
    simp only [practiceReadings, List.foldl_cons, List.foldl_nil, refresh_eq, hglobal,
      recorded_remember, hglobals, hback, hfolder, if_true, Bool.false_eq_true, if_false]
    decide +kernel
  refine ⟨(practiceReadings.foldl refresh (host, [])).1,
    reload_eq_ok_iff.mpr ⟨_, hreads, Prod.ext rfl htold⟩, reads_foldl_refresh hreads, ?_, ?_⟩
  · simp only [practiceReadings, List.foldl_cons, List.foldl_nil, refresh_eq, recorded_remember,
      hglobals, Bool.false_eq_true, if_false]
    rfl
  · simp only [practiceReadings, List.foldl_cons, List.foldl_nil, refresh_eq, recorded_remember,
      hspelling, if_true]

/-- Nobody touches the files, and the second reload tells the same as the first. -/
theorem told_again_of_practiceTwins :
    ∃ next later, practiceTwins.reload practiceGiving [] = .ok (next, [.sources]) ∧
      next.reload practiceGiving [] = .ok (later, [.sources]) := by
  obtain ⟨next, hfirst, hreads, hglobal, hfolder⟩ :=
    exists_reload_practiceReadings reads_practiceTwins rfl rfl
  obtain ⟨later, hsecond, -⟩ := exists_reload_practiceReadings hreads hglobal hfolder
  exact ⟨next, later, hfirst, hsecond⟩

end Practice

end LocalHost

end NplLifecycle
