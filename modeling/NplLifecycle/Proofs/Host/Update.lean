import NplLifecycle.Proofs.Host.Exact

/-!
# Whether an update happens as a whole

An update of a setting first writes the settings file of a folder and then reloads the host.  If the
file cannot be edited nothing happens; if both succeed, the file holds the value, the host has what
is in the files, and those who read the setting are told.  But a reload that fails leaves the file
as it was written: what has been done is not all, and not nothing.
-/

namespace NplLifecycle

open Files (Store)

def Json.valueAt? : List String → Json → Option Json
  | [], value => some value
  | name :: rest, .obj members => (members.lookup name).bind (valueAt? rest)
  | _ :: _, _ => none

namespace Settings

variable {store after : Store} {folder : Path} {key : SettingKey} {value old new : Json}
  {path : List String}

/-- What was put at a path is there. -/
theorem valueAt?_of_assign? (h : assign? value path old = some new) :
    new.valueAt? path = some value := by
  induction path generalizing old new with
  | nil =>
      obtain rfl := Option.some.inj h
      rfl
  | cons name rest ih =>
      obtain ⟨members, inner, rfl, hinner, rfl⟩ := assign?_cons_eq_some_iff.mp h
      rw [Json.valueAt?, Json.lookup_insertMember, if_pos rfl, Option.bind_some]
      exact ih hinner

/-- Where a settings file can be written, an edit that is refused leaves everything as it was. -/
theorem eq_of_write_eq_error {error : EditError} (hwritable : Writable store folder)
    (h : write store folder key value = (after, .error error)) : after = store := by
  cases hdocument : document store (folderFile folder) with
  | error failure =>
      rw [write, hdocument] at h
      exact (Prod.mk.inj h).1.symm
  | ok old =>
      cases hassign : assign? value key.segments old with
      | none =>
          rw [write, hdocument] at h
          dsimp only at h
          rw [hassign] at h
          exact (Prod.mk.inj h).1.symm
      | some new =>
          obtain ⟨written, hwrite, -⟩ := exists_write hwritable hdocument hassign
          rw [hwrite] at h
          simp at h

/-- The content of a settings file that was written holds the value. -/
theorem read?_of_write (hwritable : Writable store folder)
    (h : write store folder key value = (after, .ok ())) :
    ∃ old new, document store (folderFile folder) = .ok old ∧
      assign? value key.segments old = some new ∧ new.valueAt? key.segments = some value ∧
      after.read? (folderFile folder) = some (Text.encode new.pretty) := by
  obtain ⟨old, new, hdocument, hassign⟩ := document_of_write (congrArg Prod.snd h)
  obtain ⟨written, hwrite, -, hread⟩ := exists_write hwritable hdocument hassign
  obtain rfl := (Prod.mk.inj (hwrite.symm.trans h)).1
  exact ⟨old, new, hdocument, hassign, valueAt?_of_assign? hassign, hread⟩

end Settings

namespace LocalHost

variable {environment : Environment} {host next before : LocalHost} {files after : Store}
  {changed : List SettingKey} {scope : Scope} {key : SettingKey} {folder : Path} {value : Json}
  {error : UpdateError}

/-- A host goes by the settings of its own scopes only. -/
def Faithful (host : LocalHost) : Prop :=
  ∀ scope, host.Records scope → host.Serves scope

theorem faithful_of_reload (hfaithful : host.Faithful)
    (hreload : host.reload files environment = .ok (next, changed)) : next.Faithful := by
  obtain ⟨readings, ⟨hscopes, -⟩, hfold⟩ := reload_eq_ok_iff.mp hreload
  obtain ⟨rfl, rfl⟩ := Prod.mk.inj hfold.symm
  intro scope hrecords
  rw [Serves, scopes_foldl_refresh]
  rcases records_foldl_refresh.mp hrecords with ⟨reading, hreading, hagrees⟩ | hold
  · exact ⟨reading.1, hscopes ▸ List.mem_map_of_mem hreading, hagrees⟩
  · exact hfaithful scope hold

theorem faithful_settle {Failure : Type} {result : Except Failure (LocalHost × List SettingKey)}
    (hfaithful : host.Faithful) (hreload : ∀ next changed, result = .ok (next, changed) →
      host.reload files environment = .ok (next, changed)) : (host.settle result).1.Faithful := by
  cases result with
  | error failure => exact hfaithful
  | ok reloaded => exact faithful_of_reload hfaithful (hreload reloaded.1 reloaded.2 rfl)

theorem faithful_next? {move : Move} {later : Store} {events : List Event}
    (hfaithful : before.Faithful) (hmove : LocalHost.next? environment (files, before) move =
      some ((later, host), events)) : host.Faithful := by
  cases move with
  | edit other =>
      obtain ⟨⟨-, rfl⟩, -⟩ : (_ ∧ before = host) ∧ [] = events := by
        simpa [LocalHost.next?] using hmove
      exact hfaithful
  | read scope =>
      obtain ⟨⟨-, rfl⟩, -⟩ : (_ ∧ before = host) ∧ _ = events := by
        simpa [LocalHost.next?] using hmove
      exact hfaithful
  | reload =>
      obtain ⟨⟨-, rfl⟩, -⟩ : (_ ∧ _ = host) ∧ _ = events := by
        simpa [LocalHost.next?] using hmove
      exact faithful_settle hfaithful fun next changed hreload => hreload
  | update folder key value =>
      obtain ⟨⟨-, rfl⟩, -⟩ : (_ ∧ _ = host) ∧ _ = events := by
        simpa [LocalHost.next?] using hmove
      exact faithful_settle hfaithful fun next changed hreload => reload_of_update hreload

theorem faithful_foldl_readQuietly {scopes : List Scope} {state : LocalHost × List LogLine}
    (hscopes : ∀ scope ∈ scopes, scope ∈ state.1.scopes) (hfaithful : state.1.Faithful) :
    (scopes.foldl (readQuietly files environment) state).1.Faithful := by
  induction scopes generalizing state with
  | nil => exact hfaithful
  | cons scope rest ih =>
      obtain ⟨hnow, hlater⟩ := List.forall_mem_cons.mp hscopes
      rw [List.foldl_cons]
      cases hread : state.1.read files environment scope with
      | error failure =>
          have hsame : (readQuietly files environment state scope).1 = state.1 := by
            rw [readQuietly, hread]
          exact ih (hsame ▸ hlater) (hsame ▸ hfaithful)
      | ok settings =>
          have hremember : (readQuietly files environment state scope).1 =
              state.1.remember scope settings := by
            rw [readQuietly, hread]
          refine ih (hremember ▸ hlater) ?_
          rw [hremember]
          intro other hrecords
          rcases records_remember.mp hrecords with hagrees | hold
          · exact ⟨scope, hnow, hagrees⟩
          · exact hfaithful other hold

/-- Was a host made from files, and has anything happened to it and to the files since then? -/
def Reached (environment : Environment) (files : Store) (host : LocalHost) : Prop :=
  ∃ first directories userFile moves trace,
    Run.follow (next? environment) (first, (create first environment directories userFile).1)
      moves = some ((files, host), trace)

theorem faithful_of_reached (hreached : Reached environment files host) : host.Faithful := by
  obtain ⟨first, directories, userFile, moves, trace, hrun⟩ := hreached
  refine Run.follow_induction (fun state _ => state.2.Faithful) ?_ ?_ hrun
  · refine faithful_foldl_readQuietly (fun _ hscope => hscope) fun scope hrecords => ?_
    exact absurd hrecords Bool.false_ne_true
  · intro before past move last effects _ hfaithful hmove
    exact faithful_next? hfaithful hmove

/-- Is a scope read as those of the host's scopes that spell it otherwise? -/
def ReadAlike (files : Store) (environment : Environment) (host : LocalHost) (scope : Scope) :
    Prop :=
  ∀ own ∈ host.scopes, scope.agrees own = true →
    host.read files environment scope = host.read files environment own

/-- After a reload the host gives as the settings what is in the files. -/
theorem settings_of_reload (hfaithful : host.Faithful)
    (hreload : host.reload files environment = .ok (next, changed))
    (halike : ReadAlike files environment host scope) :
    next.settings files environment scope = host.read files environment scope := by
  obtain ⟨readings, hreads, hfold⟩ := reload_eq_ok_iff.mp hreload
  obtain ⟨rfl, rfl⟩ := Prod.mk.inj hfold.symm
  have hread : ∀ reading ∈ readings, scope.agrees reading.1 = true →
      host.read files environment scope = .ok reading.2 := by
    intro reading hreading hagrees
    rw [halike _ (hreads.1 ▸ List.mem_map_of_mem hreading) hagrees, hreads.2 reading hreading]
  by_cases hserved : ∃ reading ∈ readings, scope.agrees reading.1 = true
  · obtain ⟨reading, hreading, hagrees⟩ := hserved
    have hfound : Scope.lookup? scope (readings.foldl refresh (host, [])).1.snapshots =
        some reading.2 := by
      refine lookup?_foldl_refresh (fun other hother hsame => ?_)
        (.inl ⟨reading, hreading, hagrees⟩)
      have hboth := (hread other hother hsame).symm.trans (hread reading hreading hagrees)
      exact Except.ok.inj hboth
    rw [settings, hfound, hread reading hreading hagrees]
  · -- The scope is none of the host's: nothing is remembered for it, before and after.
    have hnone : ¬host.Records scope := by
      intro hrecords
      obtain ⟨own, hown, hagrees⟩ := hfaithful scope hrecords
      rw [← hreads.1] at hown
      obtain ⟨reading, hreading, rfl⟩ := List.mem_map.mp hown
      exact hserved ⟨reading, hreading, hagrees⟩
    have hmissing : Scope.lookup? scope (readings.foldl refresh (host, [])).1.snapshots = none := by
      push Not at hserved
      rw [lookup?_foldl_refresh_of_not fun reading hreading =>
        Bool.not_eq_true _ ▸ hserved reading hreading]
      exact Option.not_isSome_iff_eq_none.mp hnone
    rw [settings, hmissing]
    exact read_foldl_refresh scope

/-- What an update has done when it succeeds: the file holds the value, the host gives what is in
the files, and a scope for which the setting is another now was told. -/
structure Done (environment : Environment) (files after : Store) (host next : LocalHost)
    (folder : Path) (key : SettingKey) (value : Json) (events : List Event) : Prop where
  stored : ∃ old new, Settings.document files (Settings.folderFile folder) = .ok old ∧
    Settings.assign? value key.segments old = some new ∧ new.valueAt? key.segments = some value ∧
    after.read? (Settings.folderFile folder) = some (Text.encode new.pretty)
  reflected : ∀ scope ∈ some folder :: host.scopes,
    next.settings after environment scope = host.read after environment scope
  announced : ∀ scope, host.Serves scope → ∀ old new,
    host.settings files environment scope = .ok old →
    next.settings after environment scope = .ok new →
    key ∈ Settings.changedKeys old new → key.qualified ∈ keysIn events

/-- An update happens as a whole: where it fails, the settings file is as it was, the host is too,
and nobody was told anything; where it succeeds, everything is done. -/
structure AllOrNothing (environment : Environment) (files : Store) (host : LocalHost)
    (folder : Path) (key : SettingKey) (value : Json) : Prop where
  nothing : ∀ error, (host.update files environment folder key value).2 = .error error →
    (host.update files environment folder key value).1.node? (Settings.folderFile folder) =
        files.node? (Settings.folderFile folder) ∧
      next? environment (files, host) (.update folder key value) =
        some (((host.update files environment folder key value).1, host), [])
  all : ∀ next changed, (host.update files environment folder key value).2 = .ok (next, changed) →
    ∃ events, next? environment (files, host) (.update folder key value) =
        some (((host.update files environment folder key value).1, next), events) ∧
      Done environment files (host.update files environment folder key value).1 host next folder
        key value events

/-- Can all scopes be read once the settings file is written, or is it already as it would be? -/
def Safe (environment : Environment) (files : Store) (host : LocalHost) (folder : Path)
    (key : SettingKey) (value : Json) : Prop :=
  ∀ after, Settings.write files folder key value = (after, .ok ()) →
    (∀ scope ∈ host.scopes, ∃ settings, host.read after environment scope = .ok settings) ∨
      after.node? (Settings.folderFile folder) = files.node? (Settings.folderFile folder)

/-- How an update can end: the edit is refused, or the file is written and the reload fails, or both
succeed. -/
inductive Ends (environment : Environment) (files : Store) (host : LocalHost) (folder : Path)
    (key : SettingKey) (value : Json) :
    Store × Except UpdateError (LocalHost × List SettingKey) → Prop where
  | refused {after : Store} {failure : EditError}
    (hwrite : Settings.write files folder key value = (after, .error failure)) :
    Ends environment files host folder key value (after, .error (.edit failure))
  | unread {after : Store} {failure : LoadError}
    (hwrite : Settings.write files folder key value = (after, .ok ()))
    (hreload : host.reload after environment = .error failure) :
    Ends environment files host folder key value (after, .error (.load failure))
  | reloaded {after : Store} {next : LocalHost} {changed : List SettingKey}
    (hwrite : Settings.write files folder key value = (after, .ok ()))
    (hreload : host.reload after environment = .ok (next, changed)) :
    Ends environment files host folder key value (after, .ok (next, changed))

theorem ends_update : Ends environment files host folder key value
    (host.update files environment folder key value) := by
  rw [update]
  cases hwrite : Settings.write files folder key value with
  | mk after result =>
      cases result with
      | error failure => exact .refused hwrite
      | ok _ =>
          dsimp only
          cases hreload : host.reload after environment with
          | error failure => exact .unread hwrite hreload
          | ok reloaded => exact .reloaded hwrite hreload

/-- All scopes can be read exactly if a reload succeeds. -/
theorem exists_reload_iff :
    (∃ next changed, host.reload files environment = .ok (next, changed)) ↔
      ∀ scope ∈ host.scopes, ∃ settings, host.read files environment scope = .ok settings := by
  constructor
  · rintro ⟨next, changed, hreload⟩ scope hscope
    cases hread : host.read files environment scope with
    | error failure =>
        obtain ⟨first, herror⟩ := exists_reload_eq_error hscope hread
        rw [herror] at hreload
        simp at hreload
    | ok settings => exact ⟨settings, rfl⟩
  · intro hread
    choose! found hfound using hread
    exact ⟨_, _, reload_eq_ok_iff.mpr ⟨_, reads_of_read hfound, rfl⟩⟩

theorem done_of_reload (hfaithful : host.Faithful) (hwritable : Settings.Writable files folder)
    (hwrite : Settings.write files folder key value = (after, .ok ()))
    (hreload : host.reload after environment = .ok (next, changed))
    (halike : ∀ scope ∈ some folder :: host.scopes, ReadAlike after environment host scope)
    (hknows : ∀ scope, host.Serves scope → Knows environment files host scope key) :
    Done environment files after host next folder key value
      (host.settle (.ok (next, changed) : Except UpdateError _)).2 where
  stored := Settings.read?_of_write hwritable hwrite
  reflected scope hscope := settings_of_reload hfaithful hreload (halike scope hscope)
  announced scope hserves old new hold hnew hchanged := by
    have htells : Tells host next (host.settle (.ok (next, changed) : Except UpdateError _)).2 :=
      tells_reload hreload
    have hrecords : next.Records scope := htells.filled (by simp [settle]) scope hserves
    rw [settings_of_records hrecords] at hnew
    refine htells.told scope key fun hsame => Settings.mem_changedKeys.mp hchanged ?_
    rw [hknows scope hserves old hold, ← Except.ok.inj hnew, hsame]

theorem allOrNothing_of_safe (hfaithful : host.Faithful)
    (hwritable : Settings.Writable files folder)
    (halike : ∀ after, Settings.write files folder key value = (after, .ok ()) →
      ∀ scope ∈ some folder :: host.scopes, ReadAlike after environment host scope)
    (hknows : ∀ scope, host.Serves scope → Knows environment files host scope key)
    (hsafe : Safe environment files host folder key value) :
    AllOrNothing environment files host folder key value := by
  have hends : Ends environment files host folder key value
      (host.update files environment folder key value) :=
    ends_update
  constructor
  · intro error herror
    rw [next?]
    cases hupdate : host.update files environment folder key value with
    | mk after result =>
        rw [hupdate] at hends herror
        obtain rfl : result = .error error := herror
        refine ⟨?_, rfl⟩
        cases hends with
        | refused hwrite => rw [Settings.eq_of_write_eq_error hwritable hwrite]
        | unread hwrite hreload =>
            refine (hsafe after hwrite).resolve_left fun hread => ?_
            obtain ⟨next, changed, hok⟩ := exists_reload_iff.mpr hread
            rw [hreload] at hok
            simp at hok
  · intro next changed hok
    rw [next?]
    cases hupdate : host.update files environment folder key value with
    | mk after result =>
        rw [hupdate] at hends hok
        obtain rfl : result = .ok (next, changed) := hok
        cases hends with
        | reloaded hwrite hreload =>
            exact ⟨_, rfl, done_of_reload hfaithful hwritable hwrite hreload
              (halike after hwrite) hknows⟩

theorem safe_of_allOrNothing (hwhole : AllOrNothing environment files host folder key value) :
    Safe environment files host folder key value := by
  intro after hwrite
  cases hreload : host.reload after environment with
  | ok reloaded => exact .inl (exists_reload_iff.mp ⟨_, _, hreload⟩)
  | error failure =>
      have hupdate : host.update files environment folder key value =
          (after, .error (.load failure)) := by
        rw [update, hwrite]
        dsimp only
        rw [hreload]
        rfl
      have hnothing := hwhole.nothing (.load failure) (by rw [hupdate])
      rw [hupdate] at hnothing
      exact .inr hnothing.1

/-- In a folder that can be written, an update happens as a whole exactly if all scopes can be read
afterwards or the file is already as it would be written.  The host must know what it gave as the
settings, and read the spellings of one path alike. -/
theorem update_whole_iff_safe (hreached : Reached environment files host)
    (hwritable : Settings.Writable files folder)
    (halike : ∀ after, Settings.write files folder key value = (after, .ok ()) →
      ∀ scope ∈ some folder :: host.scopes, ReadAlike after environment host scope)
    (hknows : ∀ scope, host.Serves scope → Knows environment files host scope key) :
    AllOrNothing environment files host folder key value ↔
      Safe environment files host folder key value :=
  ⟨safe_of_allOrNothing,
    allOrNothing_of_safe (faithful_of_reached hreached) hwritable halike hknows⟩

section Practice

open Settings (practiceFolder)

theorem reached_practiceSighted : Reached [] practiceGiving practiceSighted :=
  ⟨practiceGiving, [practiceFolder], none, [], [], rfl⟩

theorem serves_practiceSighted (hserves : practiceSighted.Serves scope) :
    practiceSighted.Records scope := by
  obtain ⟨own, hown, hagrees⟩ := hserves
  have hrecords : ∀ own ∈ practiceSighted.scopes,
      (Scope.lookup? own practiceSighted.snapshots).isSome := by
    decide +kernel
  rw [Records, Scope.lookup?_congr hagrees]
  exact hrecords own hown

theorem readAlike_practiceSighted :
    ∀ scope ∈ some practiceFolder :: practiceSighted.scopes,
      ReadAlike files environment practiceSighted scope := by
  have hspelled : ∀ scope ∈ some practiceFolder :: practiceSighted.scopes,
      ∀ own ∈ practiceSighted.scopes, Scope.agrees scope own = true → scope = own := by
    decide +kernel
  intro scope hscope own hown hagrees
  rw [hspelled scope hscope own hown hagrees]

def practiceWritten (value : Json) : Store :=
  (Settings.write practiceGiving practiceFolder .sources value).1

/-- The sources are set to a text, which is done, and to a list with a number, which is neither done
nor left. -/
theorem whole_of_practiceUpdates :
    AllOrNothing [] practiceGiving practiceSighted practiceFolder .sources (.str "/t") ∧
      ¬AllOrNothing [] practiceGiving practiceSighted practiceFolder .sources
        (.arr [.int 1]) := by
  have hwritable : Settings.Writable practiceGiving practiceFolder :=
    Settings.writable_of_isSome (by decide +kernel) (by decide +kernel)
  have hwhole (value : Json) :
      AllOrNothing [] practiceGiving practiceSighted practiceFolder .sources value ↔
        Safe [] practiceGiving practiceSighted practiceFolder .sources value :=
    update_whole_iff_safe reached_practiceSighted hwritable
      (fun _ _ => readAlike_practiceSighted)
      fun _ hserves => knows_of_records (serves_practiceSighted hserves)
  constructor
  · refine (hwhole _).mpr fun after hwrite => .inl fun scope hscope => ?_
    have hread : ∀ scope ∈ practiceSighted.scopes,
        (practiceSighted.read (practiceWritten (.str "/t")) [] scope).isOk = true := by
      decide +kernel
    obtain rfl : practiceWritten (.str "/t") = after := congrArg Prod.fst hwrite
    have hok := hread scope hscope
    cases hfound : practiceSighted.read (practiceWritten (.str "/t")) [] scope with
    | error failure => simp [hfound, Except.isOk, Except.toBool] at hok
    | ok settings => exact ⟨settings, rfl⟩
  · intro hnothing
    have hwrite : Settings.write practiceGiving practiceFolder .sources (.arr [.int 1]) =
        (practiceWritten (.arr [.int 1]), .ok ()) :=
      Prod.ext rfl (by decide +kernel)
    rcases (hwhole _).mp hnothing _ hwrite with hread | hsame
    · obtain ⟨settings, hfound⟩ := hread (some practiceFolder) (by decide +kernel)
      have hrefused : practiceSighted.read (practiceWritten (.arr [.int 1])) []
          (some practiceFolder) = .error .read := by
        decide +kernel
      rw [hrefused] at hfound
      simp at hfound
    · revert hsame
      decide +kernel

/-- The update fails, nobody is told, and the list is in the file. -/
theorem not_whole_of_practiceList :
    (practiceSighted.update practiceGiving [] practiceFolder .sources (.arr [.int 1])).2.map
        Prod.snd = .error (.load .read) ∧
      practiceGiving.read? (Settings.folderFile practiceFolder) =
        some (Text.encode "\x7b\"sources\":\"/s\"\x7d") ∧
      (practiceSighted.update practiceGiving [] practiceFolder .sources (.arr [.int 1])).1.read?
          (Settings.folderFile practiceFolder) =
        some (Text.encode "\x7b\n  \"sources\": [\n    1\n  ]\n\x7d") := by
  decide +kernel

end Practice

end LocalHost

end NplLifecycle
