import NplLifecycle.Proofs.Host.Reload
import NplLifecycle.Proofs.Run
import NplLifecycle.Proofs.Settings.Persistence

/-!
# Who reads a setting is told when it changes

Whoever has read the settings of a scope from a host on disk wants to be told when they are no
longer what was read.  A host tells about a key when a reload finds another value than the one
remembered for it.  So a reader is told of every change if what was read is what the host remembers.
It is not where the host could not read the scope: then the settings are taken from the files and
not remembered, and a reload that finds the defaults has nothing to tell.
-/

namespace NplLifecycle.LocalHost

open Files (Store)

/-- What can happen to a host on disk and to the files. -/
inductive Move where
  /-- Somebody changes files. -/
  | edit (files : Store)
  | read (scope : Scope)
  | reload
  | update (folder : Path) (key : SettingKey) (value : Json)

inductive Event where
  | announced (change : SettingsChange)
  | answered (scope : Scope) (result : Except LoadError Settings)
  /-- All scopes were read again. -/
  | reloaded
  deriving DecidableEq, Repr

def settle {Failure : Type} (host : LocalHost) :
    Except Failure (LocalHost × List SettingKey) → LocalHost × List Event
  | .error _ => (host, [])
  | .ok (host, changed) =>
    (host, ((announcement? changed).map Event.announced).toList ++ [.reloaded])

/-- Makes a move; the environment stays the same. -/
def next? (environment : Environment) :
    Store × LocalHost → Move → Option ((Store × LocalHost) × List Event)
  | (_, host), .edit files => some ((files, host), [])
  | (files, host), .read scope =>
    some ((files, host), [.answered scope (host.settings files environment scope)])
  | (files, host), .reload =>
    let (host, events) := host.settle (host.reload files environment)
    some ((files, host), events)
  | (files, host), .update folder key value =>
    let (files, result) := host.update files environment folder key value
    let (host, events) := host.settle result
    some ((files, host), events)

def keysIn (trace : List Event) : List String :=
  trace.flatMap fun event =>
    match event with
    | .announced change => change.keys
    | _ => []

theorem keysIn_append (first second : List Event) :
    keysIn (first ++ second) = keysIn first ++ keysIn second :=
  List.flatMap_append

variable {environment : Environment} {host next before after : LocalHost} {files later : Store}
  {changed : List SettingKey} {scope : Scope} {key : SettingKey} {events : List Event}

theorem keysIn_settle {Failure : Type} (host : LocalHost) (changed : List SettingKey) :
    keysIn (host.settle (.ok (next, changed) : Except Failure _)).2 =
      changed.map SettingKey.qualified := by
  rw [settle, keysIn_append, announcement?]
  cases changed with
  | nil => rfl
  | cons key rest => simp [keysIn, SettingsChange.ofSettings]

/-- What happens to a host tells of every key whose remembered value it changes; nothing that was
read is forgotten, and after a reload every scope has been read. -/
structure Tells (before after : LocalHost) (events : List Event) : Prop where
  scopes : after.scopes = before.scopes
  told : ∀ scope key, (after.recorded scope).value key ≠ (before.recorded scope).value key →
    key.qualified ∈ keysIn events
  kept : ∀ scope, before.Records scope → after.Records scope
  filled : .reloaded ∈ events → ∀ scope, before.Serves scope → after.Records scope

theorem tells_of_silent (hsilent : .reloaded ∉ events) : Tells host host events :=
  ⟨rfl, fun _ _ hne => absurd rfl hne, fun _ hrecords => hrecords,
    fun hreloaded => absurd hreloaded hsilent⟩

theorem Tells.trans {middle : LocalHost} {more : List Event} (hfirst : Tells before middle events)
    (hsecond : Tells middle after more) : Tells before after (events ++ more) where
  scopes := hsecond.scopes.trans hfirst.scopes
  told scope key hne := by
    rw [keysIn_append, List.mem_append]
    by_cases hsame : (middle.recorded scope).value key = (before.recorded scope).value key
    · exact .inr (hsecond.told scope key fun hlast => hne (hlast.trans hsame))
    · exact .inl (hfirst.told scope key hsame)
  kept scope hrecords := hsecond.kept scope (hfirst.kept scope hrecords)
  filled hreloaded scope hserves := by
    rcases List.mem_append.mp hreloaded with hearly | hlate
    · exact hsecond.kept scope (hfirst.filled hearly scope hserves)
    · refine hsecond.filled hlate scope ?_
      rwa [Serves, hfirst.scopes]

theorem tells_reload {Failure : Type}
    (hreload : host.reload files environment = .ok (next, changed)) :
    Tells host next (host.settle (.ok (next, changed) : Except Failure _)).2 := by
  obtain ⟨readings, ⟨hscopes, -⟩, hfold⟩ := reload_eq_ok_iff.mp hreload
  obtain ⟨rfl, rfl⟩ := Prod.mk.inj hfold.symm
  refine ⟨scopes_foldl_refresh, ?_, ?_, ?_⟩
  · intro scope key hne
    rw [keysIn_settle]
    exact List.mem_map_of_mem (mem_foldl_refresh_of_ne hne)
  · exact fun scope hrecords => records_foldl_refresh.mpr (.inr hrecords)
  · rintro - scope ⟨own, hown, hagrees⟩
    rw [← hscopes] at hown
    obtain ⟨reading, hreading, rfl⟩ := List.mem_map.mp hown
    exact records_foldl_refresh.mpr (.inl ⟨reading, hreading, hagrees⟩)

/-- A reload that fails changes nothing. -/
theorem tells_settle {Failure : Type} {result : Except Failure (LocalHost × List SettingKey)}
    (hreload : ∀ next changed, result = .ok (next, changed) →
      host.reload files environment = .ok (next, changed)) :
    Tells host (host.settle result).1 (host.settle result).2 := by
  cases result with
  | error failure => exact tells_of_silent List.not_mem_nil
  | ok reloaded => exact tells_reload (hreload reloaded.1 reloaded.2 rfl)

/-- An update that succeeds has reloaded the host after the file was written. -/
theorem reload_of_update {folder : Path} {value : Json}
    (hupdate : (host.update files environment folder key value).2 = .ok (next, changed)) :
    host.reload (host.update files environment folder key value).1 environment =
      .ok (next, changed) := by
  rw [update] at hupdate ⊢
  split at hupdate
  · simp at hupdate
  · rename_i written hwrite
    cases hreload : host.reload written environment with
    | error failure => simp [hreload, Except.mapError] at hupdate
    | ok reloaded =>
        simp only [hreload, Except.mapError, Except.ok.injEq] at hupdate
        rw [hupdate]

theorem tells_next? {move : Move} (hmove : LocalHost.next? environment (files, before) move =
    some ((later, after), events)) : Tells before after events := by
  cases move with
  | edit other =>
      obtain ⟨⟨-, rfl⟩, rfl⟩ : (_ ∧ before = after) ∧ [] = events := by
        simpa [LocalHost.next?] using hmove
      exact tells_of_silent List.not_mem_nil
  | read scope =>
      obtain ⟨⟨-, rfl⟩, rfl⟩ : (_ ∧ before = after) ∧ _ = events := by
        simpa [LocalHost.next?] using hmove
      exact tells_of_silent (by simp)
  | reload =>
      obtain ⟨⟨-, rfl⟩, rfl⟩ : (_ ∧ _ = after) ∧ _ = events := by
        simpa [LocalHost.next?] using hmove
      exact tells_settle fun next changed hreload => hreload
  | update folder key value =>
      obtain ⟨⟨-, rfl⟩, rfl⟩ : (_ ∧ _ = after) ∧ _ = events := by
        simpa [LocalHost.next?] using hmove
      exact tells_settle fun next changed hreload => reload_of_update hreload

theorem tells_of_run {moves : List Move} {first last : Store × LocalHost} {trace : List Event}
    (hrun : Run.follow (LocalHost.next? environment) first moves = some (last, trace)) :
    Tells first.2 last.2 trace := by
  refine Run.follow_induction (fun state trace => Tells first.2 state.2 trace)
    (tells_of_silent List.not_mem_nil) ?_ hrun
  intro before past move after effects _ htells hmove
  exact htells.trans (tells_next? hmove)

/-- Is whoever reads the settings of a scope now told when a key is no longer what was read?  It is
looked at after a reload has succeeded, however much happens before and after that. -/
def Announces (environment : Environment) (files : Store) (host : LocalHost) (scope : Scope)
    (key : SettingKey) : Prop :=
  ∀ between last middle read again,
    Run.follow (next? environment) (files, host) (.read scope :: between ++ [.read scope]) =
      some (last, .answered scope (.ok read) :: middle ++ [.answered scope (.ok again)]) →
    .reloaded ∈ middle → key ∈ Settings.changedKeys read again → key.qualified ∈ keysIn middle

/-- Does the host remember of a key what is read of it now? -/
def Knows (environment : Environment) (files : Store) (host : LocalHost) (scope : Scope)
    (key : SettingKey) : Prop :=
  ∀ read, host.settings files environment scope = .ok read →
    read.value key = (host.recorded scope).value key

/-- Could the files come to give a key, for every scope, the value that the host remembers? -/
def Restorable (environment : Environment) (host : LocalHost) (key : SettingKey) : Prop :=
  ∃ files, ∀ scope ∈ host.scopes, ∃ found, host.read files environment scope = .ok found ∧
    found.value key = (host.recorded scope).value key

theorem settings_of_records (hrecords : host.Records scope) :
    host.settings files environment scope = .ok (host.recorded scope) := by
  obtain ⟨found, hfound⟩ := Option.isSome_iff_exists.mp hrecords
  simp [settings, recorded, hfound]

/-- What a host has read it knows. -/
theorem knows_of_records (hrecords : host.Records scope) :
    Knows environment files host scope key := by
  intro read hread
  rw [settings_of_records hrecords] at hread
  rw [← Except.ok.inj hread]

/-- Settings are read, then other things happen, and they are read again. -/
theorem follow_readings {between : List Move} {last : Store × LocalHost} {middle : List Event}
    {read again : Settings} :
    Run.follow (next? environment) (files, host) (.read scope :: between ++ [.read scope]) =
        some (last, .answered scope (.ok read) :: middle ++ [.answered scope (.ok again)]) ↔
      host.settings files environment scope = .ok read ∧
        Run.follow (next? environment) (files, host) between = some (last, middle) ∧
        last.2.settings last.1 environment scope = .ok again := by
  rw [List.cons_append, List.cons_append, Run.follow_cons_eq_some]
  simp only [Run.follow_append_eq_some]
  constructor
  · rintro ⟨first, effects, more, hfirst, ⟨later, events, rest, hrun, hlast, rfl⟩, hsame⟩
    obtain ⟨rfl, rfl⟩ := Prod.mk.inj (Option.some.inj hfirst)
    obtain ⟨rfl, rfl⟩ : later = last ∧
        [.answered scope (later.2.settings later.1 environment scope)] = rest := by
      simpa [Run.follow, next?] using hlast
    obtain ⟨hread, hmore⟩ := List.cons.inj hsame
    have hparts : middle ++ [Event.answered scope (.ok again)] =
        events ++ [.answered scope (later.2.settings later.1 environment scope)] := hmore
    obtain ⟨rfl, hend⟩ := List.append_inj' hparts rfl
    simp only [Event.answered.injEq, true_and, List.cons.injEq, and_true] at hread hend
    exact ⟨hread.symm, hrun, hend.symm⟩
  · rintro ⟨hread, hrun, hagain⟩
    refine ⟨(files, host), [.answered scope (.ok read)], _, ?_,
      ⟨last, middle, _, hrun, ?_, rfl⟩, rfl⟩
    · simp [next?, hread]
    · simp [Run.follow, next?, hagain]

theorem announces_of_knows (hserves : host.Serves scope)
    (hknows : Knows environment files host scope key) :
    Announces environment files host scope key := by
  intro between last middle read again hrun hreloaded hchanged
  obtain ⟨hread, hrun, hagain⟩ := follow_readings.mp hrun
  have htells := tells_of_run hrun
  refine htells.told scope key fun hsame => Settings.mem_changedKeys.mp hchanged ?_
  rw [settings_of_records (htells.filled hreloaded scope hserves)] at hagain
  rw [hknows read hread, ← Except.ok.inj hagain, hsame]

theorem exists_reload_of_restorable (hrestorable : Restorable environment host key) :
    ∃ files next changed, host.reload files environment = .ok (next, changed) ∧ key ∉ changed ∧
      ∀ scope, (next.recorded scope).value key = (host.recorded scope).value key := by
  obtain ⟨files, hfound⟩ := hrestorable
  choose! found hread hvalue using hfound
  let readings := host.scopes.map fun scope => (scope, found scope)
  have hreads : host.Reads files environment readings := reads_of_read hread
  have hsame : ∀ reading ∈ readings,
      reading.2.value key = (host.recorded reading.1).value key := by
    intro reading hreading
    obtain ⟨scope, hscope, rfl⟩ := List.mem_map.mp hreading
    exact hvalue scope hscope
  exact ⟨files, _, _, reload_eq_ok_iff.mpr ⟨readings, hreads, rfl⟩,
    foldl_refresh_of_eq List.not_mem_nil hsame⟩

theorem qualified_injective : Function.Injective SettingKey.qualified := by
  intro first second hsame
  revert hsame
  cases first <;> cases second <;> decide +kernel

/-- Where the files can be put back, a reader is not told of what the host never knew. -/
theorem knows_of_announces (hserves : host.Serves scope)
    (hrestorable : Restorable environment host key)
    (hannounces : Announces environment files host scope key) :
    Knows environment files host scope key := by
  obtain ⟨restored, next, changed, hreload, hnone, hvalue⟩ :=
    exists_reload_of_restorable hrestorable
  intro read hread
  by_contra hne
  have htells : Tells host next (host.settle (.ok (next, changed) : Except LoadError _)).2 :=
    tells_reload hreload
  have hrecords := htells.filled (by simp [settle]) scope hserves
  have hrun : Run.follow (next? environment) (files, host) [.edit restored, .reload] =
      some ((restored, next), (host.settle (.ok (next, changed) : Except LoadError _)).2) := by
    simp [Run.follow, next?, hreload, settle]
  have hchanged : key ∈ Settings.changedKeys read (next.recorded scope) := by
    rw [Settings.mem_changedKeys, hvalue]
    exact hne
  have htold := hannounces _ _ _ _ _
    (follow_readings.mpr ⟨hread, hrun, settings_of_records hrecords⟩) (by simp [settle]) hchanged
  rw [keysIn_settle] at htold
  obtain ⟨other, hother, hsame⟩ := List.mem_map.mp htold
  exact hnone (qualified_injective hsame ▸ hother)

/-- A reader of a setting is told of every change of it if the host remembers what was read, and
only then if the files can come to give what the host remembers. -/
theorem announces_exactly_of_knows (hserves : host.Serves scope) :
    (Knows environment files host scope key → Announces environment files host scope key) ∧
      (Restorable environment host key → Announces environment files host scope key →
        Knows environment files host scope key) :=
  ⟨announces_of_knows hserves, knows_of_announces hserves⟩

section Practice

open Settings (practiceFile practiceFolder)

/-- The practice folder's file gives the sources, and nothing else. -/
def practiceGiving : Store :=
  practiceFile "\x7b\"sources\":\"/s\"\x7d"

/-- A host that could not read the practice folder's file when it was made. -/
def practiceBlind : LocalHost :=
  (create (practiceFile "\x7b") [] [practiceFolder] none).1

/-- A host that read the practice folder's file when it was made. -/
def practiceSighted : LocalHost :=
  (create practiceGiving [] [practiceFolder] none).1

theorem announces_of_practiceHosts :
    (practiceSighted.Serves (some practiceFolder) ∧
      Announces [] practiceGiving practiceSighted (some practiceFolder) .sources) ∧
    practiceBlind.Serves (some practiceFolder) ∧ Restorable [] practiceBlind .sources ∧
      ¬Announces [] practiceGiving practiceBlind (some practiceFolder) .sources := by
  have hsighted : practiceSighted.Serves (some practiceFolder) :=
    ⟨some practiceFolder, by decide +kernel, by decide +kernel⟩
  have hrecords : (Scope.lookup? (some practiceFolder) practiceSighted.snapshots).isSome := by
    decide +kernel
  have hblind : practiceBlind.Serves (some practiceFolder) :=
    ⟨some practiceFolder, by decide +kernel, by decide +kernel⟩
  have hrestorable : Restorable [] practiceBlind .sources := by
    refine ⟨practiceFile "\x7b\x7d", fun scope hscope => ⟨{}, ?_, ?_⟩⟩
    · revert scope
      decide +kernel
    · revert scope
      decide +kernel
  have hread : practiceBlind.settings practiceGiving [] (some practiceFolder) =
      .ok { sources := some "/s" } := by
    decide +kernel
  refine ⟨⟨hsighted, (announces_exactly_of_knows hsighted).1 (knows_of_records hrecords)⟩,
    hblind, hrestorable, fun hannounces => ?_⟩
  have hknows := (announces_exactly_of_knows hblind).2 hrestorable hannounces _ hread
  revert hknows
  decide +kernel

/-- The file is repaired and read, then emptied: the reload finds the defaults, which is what the
host went by, and says nothing. -/
theorem not_announced_of_practiceRepair :
    (Run.follow (next? []) (practiceFile "\x7b", practiceBlind)
      [.edit practiceGiving, .read (some practiceFolder), .edit (practiceFile "\x7b\x7d"), .reload,
        .read (some practiceFolder)]).map Prod.snd =
      some [.answered (some practiceFolder) (.ok { sources := some "/s" }), .reloaded,
        .answered (some practiceFolder) (.ok {})] ∧
    .sources ∈ Settings.changedKeys { sources := some "/s" } {} := by
  decide +kernel

end Practice

end NplLifecycle.LocalHost
