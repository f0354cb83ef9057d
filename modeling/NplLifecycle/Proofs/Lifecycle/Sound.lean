import NplLifecycle.Proofs.Lifecycle.Move

/-!
# Sound lifecycles

In every run the controller is sound, and only the client that the controller has, or the one that
it is about to have, is listened for.
-/

namespace NplLifecycle

namespace Controller

/-- The controller has the client, or a job is starting it. -/
def Keeps (controller : Controller) (client : Client) : Prop :=
  controller.client = some client ∨ ∃ job ∈ controller.jobs, job.stage = .opening client

/-- A restart after a change has not worked yet. -/
def Alarmed (controller : Controller) : Prop :=
  ∃ job ∈ controller.jobs, job.errand = .settle ∧ job.stage.isNew = true

variable {controller : Controller} {client other : Client} {job : Job}

/-- Where something is still, there is no client. -/
theorem Sound.not_keeps (hsound : controller.Sound) (hstill : controller.Still) :
    ¬ controller.Keeps client := by
  have hstate : controller.client = none ∧ controller.state ≠ .starting := by
    rcases hstill with ⟨hstate, hclient, -⟩ | ⟨hstate, hclient, -⟩
    · exact ⟨hclient, by simp [hstate]⟩
    · exact ⟨hclient, by simp [hstate]⟩
  rintro (hclient | ⟨job, hjob, hstage⟩)
  · rw [hstate.1] at hclient
    exact absurd hclient (by simp)
  · exact hstate.2 (hsound.ledger.opening job hjob client hstage).1.1

/-- While a job starts a client, there is no other. -/
theorem Sound.keeps_of_opening (hsound : controller.Sound) (hjob : job ∈ controller.jobs)
    (hstage : job.stage = .opening client) (hkeeps : controller.Keeps other) : other = client := by
  rcases hkeeps with hclient | ⟨job', hjob', hstage'⟩
  · rw [(hsound.ledger.opening job hjob client hstage).1.2.1] at hclient
    exact absurd hclient (by simp)
  · have hholder := hsound.orderly.holder_of_busy job hjob (by rw [hstage]; rfl)
    have hholder' := hsound.orderly.holder_of_busy job' hjob' (by rw [hstage']; rfl)
    have hid : job'.id = job.id := Option.some.inj (hholder'.symm.trans hholder)
    rw [hsound.orderly.eq_of_id hjob hjob' hid, hstage] at hstage'
    exact (Stage.opening.inj hstage').symm

/-- While the controller has a client, no job starts one. -/
theorem Sound.keeps_of_client (hsound : controller.Sound)
    (hclient : controller.client = some client) (hkeeps : controller.Keeps other) :
    other = client := by
  rcases hkeeps with hother | ⟨job, hjob, hstage⟩
  · exact (Option.some.inj (hclient.symm.trans hother)).symm
  · rw [(hsound.ledger.opening job hjob other hstage).1.2.1] at hclient
    exact absurd hclient (by simp)

theorem Sound.keeps_unique (hsound : controller.Sound) (hkeeps : controller.Keeps client)
    (hother : controller.Keeps other) : other = client := by
  rcases hkeeps with hclient | ⟨job, hjob, hstage⟩
  · exact hsound.keeps_of_client hclient hother
  · exact hsound.keeps_of_opening hjob hstage hother

theorem Sound.context_of_keeps (hsound : controller.Sound) (hkeeps : controller.Keeps client) :
    controller.context.isSome := by
  rcases hkeeps with hclient | ⟨job, hjob, hstage⟩
  · exact hsound.informed (Or.inl (by rw [hclient]; rfl))
  · exact hsound.informed (Or.inr ⟨job, hjob, Or.inl (by rw [hstage]; rfl)⟩)

/-- The listener of the controller is that of its client. -/
theorem Sound.subscription_of_client (hsound : controller.Sound)
    (hclient : controller.client = some client) : controller.subscription = some client.id := by
  have hrested : controller.Rested := by
    apply hsound.ledger.rested
    intro job hjob
    cases hstage : job.stage with
    | opening opened =>
        rw [(hsound.ledger.opening job hjob opened hstage).1.2.1] at hclient
        exact absurd hclient (by simp)
    | closing closed aftermath =>
        rw [(hsound.ledger.closing job hjob closed aftermath hstage).1.2.1] at hclient
        exact absurd hclient (by simp)
    | arriving => rfl
    | inLine => rfl
    | settling generation wake => rfl
    | returning generation => rfl
  rcases hrested with ⟨found, -, hfound, hsubscription⟩ | ⟨-, hnone, -⟩
  · rw [hsubscription, Option.some.inj (hfound.symm.trans hclient)]
  · rw [hnone] at hclient
    exact absurd hclient (by simp)

end Controller

namespace Lifecycle

open Controller (Action Errand)

def Attended (controller : Controller) (listeners : List (ClientId × Inbox)) : Prop :=
  ∀ entry ∈ listeners, ∃ client, controller.Keeps client ∧ client.id = entry.1

/-- What holds of a lifecycle between any two moves. -/
structure Sound (lifecycle : Lifecycle) : Prop where
  controller : lifecycle.controller.Sound
  attended : Attended lifecycle.controller lifecycle.listeners

/-- What a turn does to the client that is kept, and to the listeners. -/
inductive Handover (situation : Controller.Situation) (before : Controller)
    (job : Controller.Job) (listeners : List (ClientId × Inbox)) (after : Controller) :
    List (ClientId × Inbox) → Prop
  /-- Nothing; nor is a restart forgotten that has not worked yet. -/
  | keep (hkeeps : ∀ client, after.Keeps client ↔ before.Keeps client)
      (halarmed : before.Alarmed → after.Alarmed) :
      Handover situation before job listeners after listeners
  /-- Nobody is kept any more. -/
  | drop (hkeeps : ∀ client, ¬ after.Keeps client) :
      Handover situation before job listeners after []
  /-- A new client is kept, and nothing has been announced to its listener. -/
  | renew {scope : Path} {roots : List Root} {folder : Settings} (workspace : Settings)
      (hkeeps : ∀ client, after.Keeps client ↔ client = ⟨before.nextClient,
        Controller.configure situation before.options roots folder workspace⟩)
      (hfound : Controller.Found situation job scope roots)
      (hfolder : situation.settings (some scope) = .ok folder) :
      Handover situation before job listeners after [(before.nextClient, .empty)]

section Handing

variable {situation : Controller.Situation} {before after : Controller}
  {job : Controller.Job} {actions : List Action} {listeners : List (ClientId × Inbox)}

theorem eq_nil_of_attended (hattended : Attended before listeners)
    (hnobody : ∀ client, ¬ before.Keeps client) : listeners = [] := by
  rw [List.eq_nil_iff_forall_not_mem]
  intro entry hentry
  obtain ⟨client, hkeeps, -⟩ := hattended entry hentry
  exact hnobody client hkeeps

/-- All listeners are those of the client that is kept, so none is left without them. -/
theorem filter_eq_nil_of_attended (hsound : before.Sound) (hattended : Attended before listeners)
    {client : Controller.Client} (hkept : before.Keeps client) :
    listeners.filter (·.1 ≠ client.id) = [] := by
  rw [List.filter_eq_nil_iff]
  intro entry hentry
  obtain ⟨other, hkeeps, hid⟩ := hattended entry hentry
  rw [← hid, hsound.keeps_unique hkept hkeeps]
  simp

theorem ne_opening_of_idle {stage : Controller.Stage} (hidle : stage.isBusy = false)
    {client : Controller.Client} : stage ≠ .opening client := by
  rintro rfl
  exact absurd hidle (by simp [Controller.Stage.isBusy])

theorem not_isNew_of_recorded {stage : Controller.Stage} (hrecorded : stage.recorded?.isSome) :
    stage.isNew ≠ true := by
  intro hnew
  rw [Controller.Stage.not_recorded_of_isNew hnew] at hrecorded
  exact absurd hrecorded (by simp)

/-- Where there is no client and the job with the lock starts none, nobody is kept. -/
theorem not_keeps_of_moved (h : before.Orderly) (hmem : job ∈ before.jobs)
    (hopen : before.Open job.id) (stage : Controller.Stage)
    (hjobs : after.jobs = (before.moveJob job.id stage).jobs) (hnone : after.client = none)
    (hstage : ∀ client, stage ≠ .opening client) (client : Controller.Client) :
    ¬ after.Keeps client := by
  rintro (hclient | ⟨other, hother, hopening⟩)
  · exact absurd hclient (by simp [hnone])
  · rw [hjobs] at hother
    rcases (h.mem_moveJob_iff hmem).mp hother with ⟨hold, hne⟩ | rfl
    · exact ne_opening_of_idle (h.other_idle hopen hold hne) hopening
    · exact hstage client hopening

/-- Where the job with the lock has ended, nobody starts a client. -/
theorem not_opening_of_retired (h : before.Orderly) (hopen : before.Open job.id)
    {client : Controller.Client} :
    ¬ ∃ other ∈ (before.retire job.id).jobs, other.stage = .opening client := by
  rintro ⟨other, hother, hopening⟩
  obtain ⟨hold, hne⟩ := Controller.mem_retire.mp hother
  exact ne_opening_of_idle (h.other_idle hopen hold hne) hopening

/-- A restart that has not worked yet is still there when another job has ended. -/
theorem alarmed_of_retired (h : before.Orderly) (hmem : job ∈ before.jobs)
    (hserved : job.errand = .settle → job.stage.isNew ≠ true) (halarmed : before.Alarmed) :
    (before.retire job.id).Alarmed := by
  obtain ⟨other, hother, herrand, hnew⟩ := halarmed
  refine ⟨other, Controller.mem_retire.mpr ⟨hother, ?_⟩, herrand, hnew⟩
  intro hid
  rw [h.eq_of_id hmem hother hid] at herrand hnew
  exact hserved herrand hnew

/-- Getting in line changes nothing about who is kept, and forgets no restart. -/
theorem handover_of_wait (h : before.Orderly) (hmem : job ∈ before.jobs) {stage : Controller.Stage}
    (hstage : (job.stage = .arriving ∧ stage = .inLine) ∨
      ∃ generation wake, job.stage = .settling generation wake ∧ stage = .returning generation) :
    Handover situation before job listeners
      ({ before with line := before.line ++ [job.id] }.moveJob job.id stage) listeners := by
  obtain ⟨hidle, hwaits⟩ := Controller.Turn.idle_of_wait hstage
  refine .keep (fun client => or_congr Iff.rfl ⟨?_, ?_⟩) ?_
  · rintro ⟨other, hother, hopening⟩
    rcases (h.mem_moveJob_iff hmem).mp hother with ⟨hold, -⟩ | rfl
    · exact ⟨other, hold, hopening⟩
    · exact absurd hopening (ne_opening_of_idle hwaits)
  · rintro ⟨other, hother, hopening⟩
    refine ⟨other, Controller.mem_moveJob_of_ne hother ?_, hopening⟩
    intro hid
    rw [h.eq_of_id hmem hother hid] at hopening
    exact ne_opening_of_idle hidle hopening
  · rintro ⟨other, hother, herrand, hnew⟩
    by_cases hid : other.id = job.id
    · rw [h.eq_of_id hmem hother hid] at herrand hnew
      refine ⟨_, Controller.mem_moveJob_self hmem, herrand, ?_⟩
      rcases hstage with ⟨-, rfl⟩ | ⟨generation, wake, hold, -⟩
      · rfl
      · rw [hold] at hnew
        exact absurd hnew (by simp [Controller.Stage.isNew])
    · exact ⟨other, Controller.mem_moveJob_of_ne hother hid, herrand, hnew⟩

/-- A job that ends without a client to start changes nothing about who is kept. -/
theorem keeps_of_retired (h : before.Orderly) (hmem : job ∈ before.jobs)
    (hidle : job.stage.isBusy = false) {client : Controller.Client} :
    (before.retire job.id).Keeps client ↔ before.Keeps client := by
  refine or_congr Iff.rfl ⟨?_, ?_⟩
  · rintro ⟨other, hother, hopening⟩
    exact ⟨other, (Controller.mem_retire.mp hother).1, hopening⟩
  · rintro ⟨other, hother, hopening⟩
    refine ⟨other, Controller.mem_retire.mpr ⟨hother, ?_⟩, hopening⟩
    intro hid
    rw [h.eq_of_id hmem hother hid] at hopening
    exact ne_opening_of_idle hidle hopening

/-- Once a start has failed, nobody is kept. -/
theorem not_keeps_of_fallen (h : before.Orderly) (hopen : before.Open job.id)
    (context : Option ActivationContext) (generation : Nat) (client : Controller.Client) :
    ¬ (((before.hold job.id).vacate .idle context generation).retire job.id).Keeps client := by
  rintro (hclient | hopening)
  · exact absurd hclient (by simp [Controller.retire, Controller.vacate, Controller.release])
  · exact not_opening_of_retired h hopen hopening

theorem handover_of_turn (hsound : before.Sound) (hattended : Attended before listeners)
    (hjob : before.job? job.id = some job)
    (hturn : Controller.Turn situation before job after actions) :
    Handover situation before job listeners after
      ((Controller.outward actions).foldl attend listeners) := by
  have hmem := (Controller.mem_of_job? hjob).1
  have horderly := hsound.orderly
  cases hturn with
  | wait hheld hstage => exact handover_of_wait horderly hmem hstage
  | leave hopen hidle hserved hstop houtward hfinish =>
      rw [houtward]
      exact .keep (fun client => keeps_of_retired horderly hmem hidle)
        (alarmed_of_retired horderly hmem fun herrand => not_isNew_of_recorded (hserved herrand))
  | @close _ client aftermath _ _ hopen hclient hlt hcause hcontext hfits hfound houtward =>
      have hnobody := filter_eq_nil_of_attended hsound hattended (Or.inl hclient)
      rw [houtward, hsound.subscription_of_client hclient]
      simp only [Option.map_some, Option.toList_some, List.cons_append, List.nil_append,
        List.foldl_cons, List.foldl_nil, attend, hnobody]
      exact .drop (not_keeps_of_moved horderly hmem hopen (.closing client.id aftermath) rfl rfl
        (by simp))
  | @launch _ _ _ _ _ _ workspace asker hopen hstill hcontext hle hlt hcause hfits hfound hfolder
      houtward =>
      rw [houtward, eq_nil_of_attended hattended fun _ => hsound.not_keeps hstill]
      refine .renew workspace (fun client => ⟨?_, ?_⟩) hfound hfolder
      · rintro (hnone | ⟨other, hother, hopening⟩)
        · exact absurd hnone (by simp [Controller.moveJob, Controller.vacate])
        · rcases (horderly.mem_moveJob_iff hmem).mp hother with ⟨hold, hne⟩ | rfl
          · exact absurd hopening (ne_opening_of_idle (horderly.other_idle hopen hold hne))
          · exact (Controller.Stage.opening.inj hopening).symm
      · rintro rfl
        exact Or.inr ⟨_, Controller.mem_moveJob_self hmem, rfl⟩
  | pause hopen hstill hle hlt herrand hstage hserver houtward =>
      rw [houtward, eq_nil_of_attended hattended fun _ => hsound.not_keeps hstill]
      exact .drop (not_keeps_of_moved horderly hmem hopen (.settling _ _) rfl rfl (by simp))
  | @fall _ _ context generation hopen hle hcause hcontext houtward hfinish =>
      have hafter := not_keeps_of_fallen horderly hopen context generation
      rcases houtward with ⟨hstill, houtward⟩ | ⟨client, hstage, houtward⟩
      · rw [houtward, eq_nil_of_attended hattended fun _ => hsound.not_keeps hstill]
        exact .drop hafter
      · have hnobody :=
          filter_eq_nil_of_attended hsound hattended (Or.inr ⟨job, hmem, hstage⟩)
        rw [houtward]
        simp only [List.foldl_cons, List.foldl_nil, attend, hnobody]
        exact .drop hafter
  | rise hopen hstage houtward hfinish =>
      rw [houtward]
      refine .keep (fun other => ⟨?_, ?_⟩) ?_
      · rintro (hclient | hopening)
        · rw [← Option.some.inj hclient]
          exact Or.inr ⟨job, hmem, hstage⟩
        · exact absurd hopening (not_opening_of_retired horderly hopen)
      · intro hkeeps
        rw [hsound.keeps_of_opening hmem hstage hkeeps]
        exact Or.inl rfl
      · exact alarmed_of_retired horderly hmem fun _ => by
          rw [hstage]
          simp [Controller.Stage.isNew]

theorem Attended.handover (hattended : Attended before listeners)
    {rest : List (ClientId × Inbox)}
    (hhandover : Handover situation before job listeners after rest) : Attended after rest := by
  cases hhandover with
  | keep hkeeps halarmed =>
      intro entry hentry
      obtain ⟨client, hkept, hid⟩ := hattended entry hentry
      exact ⟨client, (hkeeps client).mpr hkept, hid⟩
  | drop hkeeps => exact fun entry hentry => absurd hentry List.not_mem_nil
  | renew workspace hkeeps hfound hfolder =>
      intro entry hentry
      rw [List.mem_singleton.mp hentry]
      exact ⟨_, (hkeeps _).mpr rfl, rfl⟩

end Handing

section Keeping

variable {before after : Lifecycle} {move : Move} {effects : List Effect}

/-- A new job changes nothing about who is kept. -/
theorem keeps_begin {controller : Controller} {errand : Errand} {client : Controller.Client} :
    (controller.begin errand).1.Keeps client ↔ controller.Keeps client := by
  refine or_congr Iff.rfl ⟨?_, ?_⟩
  · rintro ⟨job, hjob, hstage⟩
    exact ⟨job, Controller.mem_of_begin hjob (by simp [hstage]), hstage⟩
  · rintro ⟨job, hjob, hstage⟩
    exact ⟨job, Controller.mem_begin.mpr (Or.inl hjob), hstage⟩

theorem mem_of_lookup {α : Type} {id : Nat} {value : α} {entries : List (Nat × α)}
    (hlookup : entries.lookup id = some value) : (id, value) ∈ entries := by
  obtain ⟨early, late, rfl, -⟩ := List.lookup_eq_some_iff.mp hlookup
  simp

theorem lookup_of_mem {α : Type} {id : Nat} {value : α} {entries : List (Nat × α)}
    (hnodup : (entries.map Prod.fst).Nodup) (hmem : (id, value) ∈ entries) :
    entries.lookup id = some value := by
  obtain ⟨early, late, rfl⟩ := List.append_of_mem hmem
  refine List.lookup_eq_some_iff.mpr ⟨early, late, rfl, ?_⟩
  intro entry hentry
  rw [List.map_append, List.map_cons] at hnodup
  have hdistinct := (List.nodup_append.mp hnodup).2.2 entry.1
    (List.mem_map_of_mem hentry) id List.mem_cons_self
  simpa using Ne.symm hdistinct

theorem mem_assign {α : Type} {id : Nat} {value : α} {entries : List (Nat × α)}
    {entry : Nat × α} :
    entry ∈ assign id value entries ↔ (entry ∈ entries ∧ entry.1 ≠ id) ∨ entry = (id, value) := by
  simp [assign]

theorem lookup_assign_self {α : Type} (id : Nat) (value : α) (entries : List (Nat × α)) :
    (assign id value entries).lookup id = some value := by
  induction entries with
  | nil => simp [assign]
  | cons entry rest ih =>
      obtain ⟨key, kept⟩ := entry
      by_cases hid : key = id
      · simpa [assign, hid] using ih
      · have hne : (id == key) = false := by simpa using fun h => hid h.symm
        simpa [assign, hid, List.lookup_cons, hne] using ih

theorem lookup_filter_of_ne {α : Type} {id other : Nat} (hne : id ≠ other)
    (entries : List (Nat × α)) :
    (entries.filter (·.1 ≠ other)).lookup id = entries.lookup id := by
  induction entries with
  | nil => rfl
  | cons entry rest ih =>
      obtain ⟨key, value⟩ := entry
      by_cases hkey : key = other
      · have hskip : (id == key) = false := by simpa [hkey] using hne
        rw [List.filter_cons_of_neg (by simp [hkey]), ih, List.lookup_cons, hskip]
      · rw [List.filter_cons_of_pos (by simp [hkey]), List.lookup_cons, List.lookup_cons, ih]

theorem lookup_assign_of_ne {α : Type} {id other : Nat} (hne : id ≠ other) (value : α)
    (entries : List (Nat × α)) : (assign other value entries).lookup id = entries.lookup id := by
  have hskip : (id == other) = false := by simpa using hne
  rw [assign, List.lookup_append, lookup_filter_of_ne hne, List.lookup_cons, hskip]
  simp

theorem Attended.assign {controller : Controller} {listeners : List (ClientId × Inbox)}
    (hattended : Attended controller listeners) {client : ClientId} {inbox : Inbox}
    (hlookup : listeners.lookup client = some inbox) (rest : Inbox) :
    Attended controller (assign client rest listeners) := by
  intro entry hentry
  rcases mem_assign.mp hentry with ⟨hold, -⟩ | rfl
  · exact hattended entry hold
  · exact hattended (client, inbox) (mem_of_lookup hlookup)

/-- What a listener's reading does: it begins a restart, or nothing. -/
theorem react_eq (lifecycle : Lifecycle) (reading : Inbox.Reading) :
    (lifecycle.react reading).1 = lifecycle ∨
      (lifecycle.react reading).1 =
        { lifecycle with controller := (lifecycle.controller.begin .settle).1 } := by
  cases reading with
  | change change =>
      simp only [react]
      split
      · exact Or.inr rfl
      · exact Or.inl rfl
  | missed count =>
      simp only [react]
      split
      · exact Or.inr rfl
      · exact Or.inl rfl

/-- All that comes of what a listener reads is lines of the log. -/
theorem exists_lines_react (lifecycle : Lifecycle) (reading : Inbox.Reading) :
    ∃ lines : List LogLine, (lifecycle.react reading).2 = lines.map .log := by
  cases reading with
  | change change =>
      simp only [react]
      split
      · exact ⟨[restartLine], rfl⟩
      · exact ⟨[], rfl⟩
  | missed count =>
      simp only [react]
      split
      · exact ⟨[missedLine count, restartLine], rfl⟩
      · exact ⟨[missedLine count], rfl⟩

theorem controls_react (lifecycle : Lifecycle) (reading : Inbox.Reading) :
    controls (lifecycle.react reading).2 = [] := by
  obtain ⟨lines, hlines⟩ := lifecycle.exists_lines_react reading
  rw [hlines, controls_map_log]

/-- What a move does to the controller alone: nothing, or it adds a job, or a job gets on. -/
theorem Advance.shadow (hadvance : Advance before move after effects) :
    (controls effects = [] ∧ after.controller = before.controller) ∨
      (controls effects = [] ∧ ∃ errand, after.controller = (before.controller.begin errand).1 ∧
        (move = .call errand ∨ errand = .settle)) ∨
      ∃ around job, move = .task around (.job job.id) ∧
        before.controller.job? job.id = some job ∧
        Controller.Arrives around.situation before.controller job
          (after.controller, controls effects) := by
  cases hadvance with
  | rest hawaits hcontroller hlisteners hcontrols => exact Or.inl ⟨hcontrols, hcontroller⟩
  | @call errand herrand => exact Or.inr (Or.inl ⟨rfl, errand, rfl, Or.inl rfl⟩)
  | announce => exact Or.inl ⟨rfl, rfl⟩
  | @turn around id job _ _ hjob harrives hlisteners =>
      obtain ⟨-, rfl⟩ := Controller.mem_of_job? hjob
      exact Or.inr (Or.inr ⟨around, job, rfl, hjob, harrives⟩)
  | @read _ client _ rest reading hinbox hnext =>
      have hcontrols := controls_react
        { before with listeners := assign client rest before.listeners } reading
      have hreact := react_eq { before with listeners := assign client rest before.listeners }
        reading
      cases hreact with
      | inl hsame =>
          rw [hsame]
          exact Or.inl ⟨hcontrols, rfl⟩
      | inr hbegun =>
          rw [hbegun]
          exact Or.inr (Or.inl ⟨hcontrols, .settle, rfl, Or.inr rfl⟩)
  | hush hclosed hinbox hnext => exact Or.inl ⟨rfl, rfl⟩

/-- Every move keeps a lifecycle sound. -/
theorem Sound.step (hsound : before.Sound) (hmove : before.next? move = some (after, effects)) :
    after.Sound := by
  obtain ⟨hcontroller, hattended⟩ := hsound
  cases advance_of_next? hcontroller hmove with
  | rest hawaits hsame hlisteners hcontrols =>
      rw [← hsame] at hcontroller hattended
      rw [← hlisteners] at hattended
      exact ⟨hcontroller, hattended⟩
  | call herrand =>
      refine ⟨hcontroller.begin fun hsettle => absurd hsettle herrand, ?_⟩
      intro entry hentry
      obtain ⟨client, hkeeps, hid⟩ := hattended entry hentry
      exact ⟨client, keeps_begin.mpr hkeeps, hid⟩
  | announce =>
      refine ⟨hcontroller, ?_⟩
      intro entry hentry
      obtain ⟨old, hold, rfl⟩ := List.mem_map.mp hentry
      exact hattended old hold
  | turn hjob harrives hlisteners =>
      obtain ⟨-, rfl⟩ := Controller.mem_of_job? hjob
      refine ⟨hcontroller.turn hjob harrives, ?_⟩
      rw [hlisteners]
      exact hattended.handover (handover_of_turn hcontroller hattended hjob harrives.2)
  | @read _ client inbox rest reading hinbox hnext =>
      have hassigned := hattended.assign hinbox rest
      have hreact := react_eq { before with listeners := assign client rest before.listeners }
        reading
      cases hreact with
      | inl hsame =>
          rw [hsame]
          exact ⟨hcontroller, hassigned⟩
      | inr hbegun =>
          rw [hbegun]
          obtain ⟨kept, hkeeps, -⟩ := hattended (client, inbox) (mem_of_lookup hinbox)
          refine ⟨hcontroller.begin fun _ => hcontroller.context_of_keeps hkeeps, ?_⟩
          intro entry hentry
          obtain ⟨other, hother, hid⟩ := hassigned entry hentry
          exact ⟨other, keeps_begin.mpr hother, hid⟩
  | hush hclosed hinbox hnext =>
      exact ⟨hcontroller, fun entry hentry => hattended entry (List.mem_filter.mp hentry).1⟩

theorem sound_idle (options : Controller.Options) : (idle options).Sound where
  controller := Controller.sound_idle options
  attended := fun _ hentry => absurd hentry List.not_mem_nil

/-- Every run keeps a lifecycle sound. -/
theorem Sound.run (hsound : before.Sound) {moves : List Move}
    (hrun : Run.follow next? before moves = some (after, effects)) : after.Sound :=
  Run.follow_induction (fun lifecycle _ => lifecycle.Sound) hsound
    (fun _ _ _ _ _ _ hbefore hmove => hbefore.step hmove) hrun

end Keeping

end Lifecycle

end NplLifecycle
