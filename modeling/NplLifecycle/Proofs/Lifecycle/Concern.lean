import NplLifecycle.Proofs.Lifecycle.Freshness
import NplLifecycle.Proofs.Settings.Comparable

/-!
# Changes that concern the client

A listener that reads a change begins a restart exactly if the change names a key that is comparable
with one whose value the client was built from: the same key, a section around it, or a place inside
it.  Nobody else begins such a restart, so in every run each of them goes back to a reading of that
kind, or to one that said that changes were lost.
-/

namespace NplLifecycle

namespace Controller

open SettingsChange (Comparable)

theorem qualified_restartKeys : restartKeys.map SettingKey.qualified =
    ["NPL.sources", "NPL.testSources", "NPL.contribLibraries"] := by
  decide

/-- What rebuilds the client is what concerns it. -/
theorem isRelevant_iff (change : SettingsChange) :
    isRelevant change = true ↔ change.Concerns := by
  rw [isRelevant, List.any_eq_true, SettingsChange.Concerns, ← qualified_restartKeys]
  constructor
  · intro h
    obtain ⟨key, hkey, haffects⟩ := h
    obtain ⟨changed, hchanged, hcomparable⟩ := (change.affects_iff key).mp haffects
    exact ⟨changed, hchanged, key.qualified, List.mem_map_of_mem hkey, hcomparable⟩
  · intro h
    obtain ⟨changed, hchanged, name, hname, hcomparable⟩ := h
    obtain ⟨key, hkey, hqualified⟩ := List.mem_map.mp hname
    rw [← hqualified] at hcomparable
    exact ⟨key, hkey, (change.affects_iff key).mpr ⟨changed, hchanged, hcomparable⟩⟩

end Controller

namespace Lifecycle

open Controller (Errand)

/-- A restart after a change has been begun, and nothing else has become of the controller. -/
def Begins (before after : Lifecycle) : Prop :=
  after.controller = (before.controller.begin .settle).1

/-- The reading says that the client has to be rebuilt. -/
def Urges : Inbox.Reading → Prop
  | .change change => change.Concerns
  | .missed _ => True

/-- The listener that a move lets read finds this reading. -/
def Reads (before : Lifecycle) (move : Move) (reading : Inbox.Reading) : Prop :=
  ∃ around client inbox rest, move = .task around (.listener client) ∧
    before.listeners.lookup client = some inbox ∧ inbox.next? = some (reading, rest)

/-- In some moves, the restart of this number was begun by a listener whose reading urged it. -/
def UrgedIn (options : Controller.Options) (moves : List Move) (id : JobId) : Prop :=
  ∃ early move late before past reading, moves = early ++ move :: late ∧
    Run.follow next? (idle options) early = some (before, past) ∧
    before.controller.nextJob = id ∧ before.Reads move reading ∧ Urges reading

section Reading

variable {before after : Lifecycle} {around : Surroundings} {client : ClientId}
  {inbox rest : Inbox} {reading : Inbox.Reading} {effects : List Effect} {move : Move}

theorem ne_begin (controller : Controller) (errand : Errand) :
    (controller.begin errand).1 ≠ controller := by
  intro h
  have hnext := congrArg Controller.nextJob h
  exact absurd hnext (Nat.succ_ne_self _)

theorem begins_react (lifecycle : Lifecycle) (hurges : Urges reading) :
    lifecycle.Begins (lifecycle.react reading).1 := by
  have hrelevant : reading.isRelevant = true := by
    cases reading with
    | change change => exact (Controller.isRelevant_iff change).mpr hurges
    | missed count => rfl
  rw [react_of_isRelevant lifecycle hrelevant]
  rfl

theorem controller_react (lifecycle : Lifecycle) (hurges : ¬Urges reading) :
    (lifecycle.react reading).1.controller = lifecycle.controller := by
  cases reading with
  | change change =>
      have hrelevant : ¬Controller.isRelevant change = true :=
        fun h => hurges ((Controller.isRelevant_iff change).mp h)
      simp only [react, if_neg hrelevant]
  | missed count => exact absurd trivial hurges

/-- A listener that has something to read reads it, and begins a restart exactly if it is urged
to. -/
theorem exists_next?_of_reading (hinbox : before.listeners.lookup client = some inbox)
    (hnext : inbox.next? = some (reading, rest)) :
    ∃ after effects, before.next? (.task around (.listener client)) = some (after, effects) ∧
      (before.Begins after ↔ Urges reading) ∧
      (after.controller = before.controller ↔ ¬Urges reading) := by
  let read : Lifecycle := { before with listeners := assign client rest before.listeners }
  have hstep : before.next? (.task around (.listener client)) = some (read.react reading) := by
    simp only [next?, step, stepListener, hinbox, Option.bind_some, hnext]
    rfl
  refine ⟨_, _, hstep, ?_⟩
  by_cases hurges : Urges reading
  · have hbegins : before.Begins (read.react reading).1 := begins_react read hurges
    have hother : (read.react reading).1.controller ≠ before.controller := by
      rw [hbegins]
      exact ne_begin before.controller .settle
    exact ⟨iff_of_true hbegins hurges, iff_of_false hother (not_not_intro hurges)⟩
  · have hsame : (read.react reading).1.controller = before.controller :=
      controller_react read hurges
    have hnot : ¬before.Begins (read.react reading).1 := by
      intro hbegins
      exact ne_begin before.controller .settle (hbegins.symm.trans hsame)
    exact ⟨iff_of_false hnot hurges, iff_of_true hsame hurges⟩

theorem eq_of_begin_eq {controller : Controller} {errand other : Errand}
    (h : (controller.begin errand).1 = (controller.begin other).1) : errand = other := by
  have hjobs := congrArg Controller.jobs h
  have hlast := List.append_cancel_left hjobs
  exact congrArg Controller.Job.errand (List.cons.inj hlast).1

/-- Only a reading that urges to it begins a restart. -/
theorem urges_of_begins (hsound : before.controller.Sound)
    (hmove : before.next? move = some (after, effects)) (hbegins : before.Begins after) :
    ∃ reading, before.Reads move reading ∧ Urges reading := by
  have hchanged : after.controller ≠ before.controller := by
    rw [hbegins]
    exact ne_begin before.controller .settle
  cases advance_of_next? hsound hmove with
  | rest hawaits hsame hlisteners hcontrols hsession => exact absurd hsame hchanged
  | call herrand => exact absurd (eq_of_begin_eq hbegins) herrand
  | announce => exact absurd rfl hchanged
  | turn hjob harrives hlisteners hperformed =>
      have hnext := harrives.1.nextJob
      rw [hbegins] at hnext
      exact absurd hnext (Nat.succ_ne_self _)
  | @read around listener inbox rest reading hinbox hnext =>
      refine ⟨reading, ⟨around, listener, inbox, rest, rfl, hinbox, hnext⟩, ?_⟩
      by_contra hurges
      exact hchanged (controller_react _ hurges)
  | hush hclosed hinbox hnext => exact absurd rfl hchanged

end Reading

section Running

variable {options : Controller.Options} {before after : Lifecycle} {move : Move}
  {moves : List Move} {past effects trace : List Effect} {id : JobId}

theorem UrgedIn.append (hurged : UrgedIn options moves id) (more : List Move) :
    UrgedIn options (moves ++ more) id := by
  obtain ⟨early, move, late, before, past, reading, rfl, hreading⟩ := hurged
  exact ⟨early, move, late ++ more, before, past, reading, by simp, hreading⟩

/-- A restart that is there after a move was there before, or the move began it. -/
theorem urgedIn_of_next? (hrun : Run.follow next? (idle options) moves = some (before, past))
    (hsound : before.controller.Sound) (hmove : before.next? move = some (after, effects))
    (hurged : ∀ job ∈ before.controller.jobs, job.errand = .settle → UrgedIn options moves job.id)
    (job : Controller.Job) (hmem : job ∈ after.controller.jobs) (herrand : job.errand = .settle) :
    UrgedIn options (moves ++ [move]) job.id := by
  have hold (old : Controller.Job) (hbefore : old ∈ before.controller.jobs)
      (hsettle : old.errand = .settle) : UrgedIn options (moves ++ [move]) old.id :=
    (hurged old hbefore hsettle).append [move]
  rcases (advance_of_next? hsound hmove).shadow with ⟨-, hsame⟩ | ⟨-, errand, hbegun, -⟩ |
    ⟨around, worker, -, hworker, harrives⟩
  · rw [hsame] at hmem
    exact hold job hmem herrand
  · have hjobs := hmem
    rw [hbegun] at hjobs
    cases Controller.mem_begin.mp hjobs with
    | inl hbefore => exact hold job hbefore herrand
    | inr hnew =>
        rw [hnew] at herrand ⊢
        have hsettle : errand = .settle := herrand
        rw [hsettle] at hbegun
        obtain ⟨reading, hreads, hurges⟩ := urges_of_begins hsound hmove hbegun
        exact ⟨moves, move, [], before, past, reading, rfl, hrun, rfl, hreads, hurges⟩
  · have hworks := (Controller.mem_of_job? hworker).1
    rcases harrives.2.mem_jobs hsound.orderly hworks hmem with ⟨hbefore, -⟩ | ⟨stage, rfl⟩
    · exact hold job hbefore herrand
    · exact hold worker hworks herrand

/-- In every run, whoever restarts the client after a change was begun by a reading that urged to
it. -/
theorem urgedIn_of_run (options : Controller.Options)
    (hrun : Run.follow next? (idle options) moves = some (after, trace)) :
    ∀ job ∈ after.controller.jobs, job.errand = .settle → UrgedIn options moves job.id := by
  have hholds := Run.follow_history_induction
    (fun done lifecycle past => Run.follow next? (idle options) done = some (lifecycle, past) ∧
      lifecycle.Sound ∧
      ∀ job ∈ lifecycle.controller.jobs, job.errand = .settle → UrgedIn options done job.id)
    ⟨rfl, sound_idle options, by simp [idle, Controller.idle]⟩ ?_ hrun
  · exact hholds.2.2
  · intro done before past move after effects hmem hbefore hmove
    obtain ⟨hdone, hsound, hurged⟩ := hbefore
    refine ⟨?_, hsound.step hmove, urgedIn_of_next? hdone hsound.controller hmove hurged⟩
    exact Run.follow_append_eq_some.mpr
      ⟨before, past, effects, hdone, Run.follow_singleton hmove, rfl⟩

end Running

section Concern

/-- A change touches a setting exactly if it names a key that is comparable with the setting's.  A
listener that reads the change begins a restart exactly if it names a key comparable with one of the
three whose values the client is built from, and leaves the controller alone otherwise; and whoever
restarts the client after a change, in any run, was begun by such a reading, or by one that said
that changes were lost. -/
theorem begins_iff_comparable (change : SettingsChange) :
    (∀ key : SettingKey, change.affects key = true ↔
      ∃ changed ∈ change.keys, SettingsChange.Comparable changed key.qualified) ∧
    (∀ (around : Surroundings) (before : Lifecycle) (client : ClientId) (inbox rest : Inbox),
      before.listeners.lookup client = some inbox → inbox.next? = some (.change change, rest) →
      ∃ after effects, before.next? (.task around (.listener client)) = some (after, effects) ∧
        (before.Begins after ↔ change.Concerns) ∧
        (after.controller = before.controller ↔ ¬change.Concerns)) ∧
    ∀ options moves after trace, Run.follow next? (idle options) moves = some (after, trace) →
      ∀ job ∈ after.controller.jobs, job.errand = .settle → UrgedIn options moves job.id := by
  refine ⟨change.affects_iff, ?_, ?_⟩
  · intro around before client inbox rest hinbox hnext
    exact exists_next?_of_reading hinbox hnext
  · intro options moves after trace hrun
    exact urgedIn_of_run options hrun

/-- Names the section around all settings behind a key that is none of them. -/
def practiceSection : SettingsChange :=
  ⟨["NPL.sourcesExtra", "NPL"]⟩

def practiceAnnounced : List Move :=
  practiceStart ++ [.announce 64 practiceSection]

def practiceReading : Move :=
  .task (practiceSurroundings {} 0 none) (.listener 0)

set_option maxRecDepth 100000 in
theorem practiceAnnounced_inbox : (Run.follow next? (idle ⟨500, 3⟩) practiceAnnounced).bind
    (fun result => result.1.listeners.lookup 0) = some ⟨[practiceSection], 0⟩ := by
  decide +kernel

theorem begins_of_practiceSection : ∃ before past after effects,
    Run.follow next? (idle ⟨500, 3⟩) practiceAnnounced = some (before, past) ∧
      before.next? practiceReading = some (after, effects) ∧ before.Begins after ∧
      practiceSection.affects .debounceMs = true ∧
      UrgedIn ⟨500, 3⟩ (practiceAnnounced ++ [practiceReading]) before.controller.nextJob := by
  obtain ⟨hkeys, hreads, hurged⟩ := begins_iff_comparable practiceSection
  have haffects := (hkeys .debounceMs).mpr ⟨"NPL", by decide, by decide⟩
  have hconcerns : practiceSection.Concerns :=
    ⟨"NPL", by decide, "NPL.sources", by decide, by decide⟩
  obtain ⟨⟨before, past⟩, hrun, hinbox⟩ := Option.bind_eq_some_iff.mp practiceAnnounced_inbox
  obtain ⟨after, effects, hmove, hbegins, -⟩ :=
    hreads (practiceSurroundings {} 0 none) before 0 ⟨[practiceSection], 0⟩ .empty hinbox rfl
  have hbegun : before.Begins after := hbegins.mpr hconcerns
  have hwhole : Run.follow next? (idle ⟨500, 3⟩) (practiceAnnounced ++ [practiceReading]) =
      some (after, past ++ effects) :=
    Run.follow_append_eq_some.mpr ⟨before, past, effects, hrun, Run.follow_singleton hmove, rfl⟩
  have hmem : ⟨before.controller.nextJob, .settle, .arriving⟩ ∈ after.controller.jobs := by
    rw [hbegun]
    exact Controller.mem_begin.mpr (Or.inr rfl)
  exact ⟨before, past, after, effects, hrun, hmove, hbegun, haffects,
    hurged _ _ _ _ hwhole _ hmem rfl⟩

end Concern

end Lifecycle

end NplLifecycle
