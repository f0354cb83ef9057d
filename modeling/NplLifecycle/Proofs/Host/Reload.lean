import NplLifecycle.Host.Local
import NplLifecycle.Proofs.Outcome
import NplLifecycle.Proofs.Settings.Reading

/-!
# What a host on disk remembers

A host remembers the settings of each of its scopes as it read them last; where it has not read any,
it goes by the defaults when it looks for changes.  A reload that succeeds has read every scope, and
a key whose remembered value it changes for any scope is among the keys that it gives.
-/

namespace NplLifecycle

open Files (Store)

namespace Scope

variable {α : Type} {first second : Scope}

theorem agrees_comm (first second : Scope) : first.agrees second = second.agrees first := by
  cases first <;> cases second <;> simp [agrees, Path.agrees, eq_comm]

/-- Scopes that stand for one agree with the same scopes. -/
theorem agrees_congr (hagrees : first.agrees second = true) (scope : Scope) :
    first.agrees scope = second.agrees scope := by
  cases first <;> cases second <;> cases scope <;> simp_all [agrees, Path.agrees]

theorem lookup?_congr (hagrees : first.agrees second = true) (entries : List (Scope × α)) :
    lookup? first entries = lookup? second entries := by
  simp only [lookup?, agrees_congr hagrees]

theorem lookup?_assign (scope assigned : Scope) (value : α) (entries : List (Scope × α)) :
    lookup? scope (assign assigned value entries) =
      if scope.agrees assigned then some value else lookup? scope entries := by
  cases hagrees : scope.agrees assigned with
  | true => simp [lookup?, assign, hagrees]
  | false =>
      -- What agrees with the one scope does not agree with the other, so it is kept.
      have hkept (entry : Scope × α) (hfound : scope.agrees entry.1 = true) :
          assigned.agrees entry.1 = false := by
        rw [agrees_comm assigned, ← agrees_congr hfound, hagrees]
      simp only [lookup?, assign, List.find?_cons, hagrees, List.find?_filter,
        Bool.false_eq_true, if_false]
      congr 2
      funext entry
      cases hfound : scope.agrees entry.1 with
      | true => simp [hkept entry hfound]
      | false => simp

end Scope

theorem Settings.mem_changedKeys {before after : Settings} {key : SettingKey} :
    key ∈ changedKeys before after ↔ before.value key ≠ after.value key := by
  simp [changedKeys, key.mem_all]

namespace LocalHost

variable {store : Store} {environment : Environment} {host next : LocalHost}
  {changed : List SettingKey} {scope : Scope} {key : SettingKey}

/-- The settings that a host remembers for a scope; the defaults where it has read none. -/
def recorded (host : LocalHost) (scope : Scope) : Settings :=
  (Scope.lookup? scope host.snapshots).getD {}

/-- Has the host read the settings of a scope? -/
def Records (host : LocalHost) (scope : Scope) : Prop :=
  (Scope.lookup? scope host.snapshots).isSome

/-- Is a scope one of the host's, in any spelling? -/
def Serves (host : LocalHost) (scope : Scope) : Prop :=
  ∃ own ∈ host.scopes, scope.agrees own = true

theorem recorded_congr {other : Scope} (hagrees : scope.agrees other = true) :
    host.recorded scope = host.recorded other := by
  rw [recorded, recorded, Scope.lookup?_congr hagrees]

theorem recorded_remember (host : LocalHost) (scope read : Scope) (settings : Settings) :
    (host.remember read settings).recorded scope =
      if scope.agrees read then settings else host.recorded scope := by
  rw [recorded, remember, Scope.lookup?_assign]
  split <;> rfl

theorem mem_refresh {reading : Scope × Settings} :
    key ∈ (refresh (host, changed) reading).2 ↔
      key ∈ changed ∨ (host.recorded reading.1).value key ≠ reading.2.value key := by
  by_cases hmem : key ∈ changed <;>
    simp [refresh, recorded, Settings.mem_changedKeys, hmem]

/-- A key that is read with the value remembered for it keeps that value for every scope. -/
theorem value_remember {read : Scope} {settings : Settings}
    (hsame : settings.value key = (host.recorded read).value key) (scope : Scope) :
    ((host.remember read settings).recorded scope).value key =
      (host.recorded scope).value key := by
  rw [recorded_remember]
  split
  · rename_i hagrees
    rw [recorded_congr hagrees, hsame]
  · rfl

theorem records_remember {read : Scope} {settings : Settings} :
    (host.remember read settings).Records scope ↔
      scope.agrees read = true ∨ host.Records scope := by
  rw [Records, remember, Scope.lookup?_assign, Records]
  split <;> simp_all

/-! A reload takes over one reading after the other. -/

section Readings

variable {readings : List (Scope × Settings)}

theorem foldl_refresh_cons (reading : Scope × Settings) :
    (reading :: readings).foldl refresh (host, changed) =
      readings.foldl refresh
        (host.remember reading.1 reading.2, (refresh (host, changed) reading).2) :=
  rfl

theorem scopes_foldl_refresh : (readings.foldl refresh (host, changed)).1.scopes = host.scopes := by
  induction readings generalizing host changed with
  | nil => rfl
  | cons reading rest ih => exact ih

theorem mem_foldl_refresh_of_mem (hmem : key ∈ changed) :
    key ∈ (readings.foldl refresh (host, changed)).2 := by
  induction readings generalizing host changed with
  | nil => exact hmem
  | cons reading rest ih => exact ih (mem_refresh.mpr (.inl hmem))

/-- A key whose remembered value changes for any scope is among the keys that changed. -/
theorem mem_foldl_refresh_of_ne
    (hne : ((readings.foldl refresh (host, changed)).1.recorded scope).value key ≠
      (host.recorded scope).value key) :
    key ∈ (readings.foldl refresh (host, changed)).2 := by
  induction readings generalizing host changed with
  | nil => exact absurd rfl hne
  | cons reading rest ih =>
      rw [foldl_refresh_cons] at hne ⊢
      by_cases hsame : reading.2.value key = (host.recorded reading.1).value key
      · exact ih fun hrest => hne (hrest.trans (value_remember hsame scope))
      · exact mem_foldl_refresh_of_mem (mem_refresh.mpr (.inr (Ne.symm hsame)))

/-- A key that is read with the value remembered for it wherever it is read has not changed. -/
theorem foldl_refresh_of_eq (hmem : key ∉ changed)
    (hsame : ∀ reading ∈ readings, reading.2.value key = (host.recorded reading.1).value key) :
    key ∉ (readings.foldl refresh (host, changed)).2 ∧
      ∀ scope, ((readings.foldl refresh (host, changed)).1.recorded scope).value key =
        (host.recorded scope).value key := by
  induction readings generalizing host changed with
  | nil => exact ⟨hmem, fun _ => rfl⟩
  | cons reading rest ih =>
      rw [foldl_refresh_cons]
      obtain ⟨hnow, hlater⟩ := List.forall_mem_cons.mp hsame
      have hkept : key ∉ (refresh (host, changed) reading).2 := fun hadded =>
        (mem_refresh.mp hadded).elim hmem fun hne => hne hnow.symm
      obtain ⟨hnone, hvalue⟩ := ih hkept fun later hlast =>
        (hlater later hlast).trans (value_remember hnow later.1).symm
      exact ⟨hnone, fun scope => (hvalue scope).trans (value_remember hnow scope)⟩

theorem records_foldl_refresh :
    (readings.foldl refresh (host, changed)).1.Records scope ↔
      (∃ reading ∈ readings, scope.agrees reading.1 = true) ∨ host.Records scope := by
  induction readings generalizing host changed with
  | nil => simp
  | cons reading rest ih =>
      rw [foldl_refresh_cons, ih, records_remember]
      grind

end Readings

/-- What a host reads of its scopes, one after the other. -/
def Reads (store : Store) (environment : Environment) (host : LocalHost)
    (readings : List (Scope × Settings)) : Prop :=
  readings.map Prod.fst = host.scopes ∧
    ∀ reading ∈ readings, host.read store environment reading.1 = .ok reading.2

theorem reads_of_read {found : Scope → Settings}
    (hread : ∀ scope ∈ host.scopes, host.read store environment scope = .ok (found scope)) :
    host.Reads store environment (host.scopes.map fun scope => (scope, found scope)) := by
  refine ⟨by simp [Function.comp_def], fun reading hreading => ?_⟩
  obtain ⟨scope, hscope, rfl⟩ := List.mem_map.mp hreading
  exact hread scope hscope

theorem mapM_read_eq_ok_iff {scopes : List Scope} {readings : List (Scope × Settings)} :
    (scopes.mapM fun scope =>
      (host.read store environment scope).map fun settings => (scope, settings)) = .ok readings ↔
      readings.map Prod.fst = scopes ∧
        ∀ reading ∈ readings, host.read store environment reading.1 = .ok reading.2 := by
  have hread (scope : Scope) (reading : Scope × Settings) :
      (host.read store environment scope).map (fun settings => (scope, settings)) = .ok reading ↔
        reading.1 = scope ∧ host.read store environment reading.1 = .ok reading.2 := by
    constructor
    · intro hmap
      cases hfound : host.read store environment scope with
      | error failure => simp [hfound, Except.map] at hmap
      | ok settings =>
          obtain rfl : (scope, settings) = reading := by simpa [hfound, Except.map] using hmap
          exact ⟨rfl, hfound⟩
    · rintro ⟨rfl, hfound⟩
      simp [hfound, Except.map]
  simp only [mapM_eq_ok_iff, hread]
  induction scopes generalizing readings with
  | nil => cases readings <;> simp
  | cons scope rest ih =>
      cases readings with
      | nil => simp
      | cons reading readings => simp [ih, and_assoc, and_left_comm]

/-- A reload that succeeds has read every scope, and takes over what it read. -/
theorem reload_eq_ok_iff :
    host.reload store environment = .ok (next, changed) ↔
      ∃ readings, host.Reads store environment readings ∧
        readings.foldl refresh (host, []) = (next, changed) := by
  simp only [Reads, ← mapM_read_eq_ok_iff]
  rw [reload]
  cases host.scopes.mapM fun scope =>
      (host.read store environment scope).map fun settings => (scope, settings) with
  | error failure => simp [Except.map]
  | ok readings => simp [Except.map]

end LocalHost

end NplLifecycle
