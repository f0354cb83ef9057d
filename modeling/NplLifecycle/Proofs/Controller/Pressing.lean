import NplLifecycle.Proofs.Controller.Burst
import NplLifecycle.Proofs.Controller.Calm

/-!
# Pressing controllers

A deserted controller is pressing as long as a start is still to come, or a restart after a change
that no stop in line forestalls.  The job at the head of the line can always work, and where the
host has a root it makes a client or leaves the controller pressing.  So a pressing controller
makes a client in the end if only its jobs are let work.
-/

namespace NplLifecycle.Controller

/-- The host has a root, and settings to read. -/
def Situation.Hospitable (situation : Situation) : Prop :=
  (∃ root, situation.roots.head? = some root) ∧
    ∀ folder, ∃ settings, situation.settings folder = .ok settings

/-- Nobody is to start the client, and every restart after a change that has not worked yet stands
in line with an explicit stop behind it. -/
structure Served (controller : Controller) : Prop where
  unopened : ∀ job ∈ controller.jobs, job.errand.opens = false
  forestalled : ∀ job ∈ controller.jobs, job.errand = .settle → job.stage.isNew = true →
    job.stage = .inLine ∧ controller.StopFollows job.id

/-- Something would still make a client. -/
inductive Pressing (controller : Controller) : Prop
  | opening {job : Job} (hmem : job ∈ controller.jobs) (hopens : job.errand.opens = true)
  | arriving {job : Job} (hmem : job ∈ controller.jobs) (herrand : job.errand = .settle)
      (hstage : job.stage = .arriving)
  | inLine {job : Job} (hmem : job ∈ controller.jobs) (herrand : job.errand = .settle)
      (hstage : job.stage = .inLine) (hstop : ¬ controller.StopFollows job.id)
  | due {job : Job} (hmem : job ∈ controller.jobs)
      (hrecorded : job.stage.recorded? = some controller.generation)
      (hstop : ¬ controller.StopWaits)

/-- Every generation that a job has recorded is past. -/
def Past (controller : Controller) : Prop :=
  ∀ job ∈ controller.jobs, ∀ recorded, job.stage.recorded? = some recorded →
    recorded < controller.generation

section Serving

variable {situation : Situation} {before after controller : Controller} {job : Job}
  {actions : List Action}

/-- A stop that returns leaves a controller deserted, and has counted the generation up. -/
theorem Turn.deserted (hturn : Turn situation before job after actions) (hsound : before.Sound)
    (hmem : job ∈ before.jobs) (herrand : job.errand = .stop)
    (hgone : ∀ other ∈ after.jobs, other.id ≠ job.id) : after.Deserted ∧ after.Past := by
  have hfits := hsound.fits job hmem
  cases hturn with
  | @wait stage hheld hstage =>
      exact absurd rfl (hgone { job with stage := stage } (mem_moveJob_self hmem))
  | leave hopen hidle hserved hstop houtward hfinish => exact absurd herrand hstop
  | @close _ client aftermath _ _ hopen hclient hlt hcause hcontext hfits hfound houtward =>
      exact absurd rfl (hgone { job with stage := .closing client.id aftermath }
        (mem_moveJob_self hmem))
  | launch asker hopen hstill hcontext hle hlt hcause hopens hfound hfolder houtward =>
      rw [herrand] at hopens
      exact absurd hopens (by simp [Errand.opens])
  | pause hopen hstill hle hlt hsettle hstage hserver houtward =>
      rw [herrand] at hsettle
      exact absurd hsettle (by simp)
  | fall hopen hle hcause hcontext houtward hfinish hstop =>
      refine ⟨⟨⟨rfl, rfl, rfl⟩, ?_⟩, ?_⟩
      · intro other hother
        obtain ⟨hold, hne⟩ := mem_retire.mp hother
        exact hsound.orderly.other_idle hopen hold hne
      · intro other hother recorded hrecorded
        have hold := (mem_retire.mp hother).1
        exact hsound.counted.other_lt hmem hle (hstop herrand) hold hrecorded
  | rise hopen hstage houtward hfinish =>
      simp only [Job.Fits, hstage, herrand] at hfits
      exact absurd hfits (by simp [Errand.opens])

/-- Where all recorded generations are past, a controller is calm if everybody is served. -/
theorem Served.calm (hserved : controller.Served) (hdeserted : controller.Deserted)
    (hpast : controller.Past) : controller.Calm where
  toDeserted := hdeserted
  unopened := hserved.unopened
  spent := by
    intro job hmem herrand
    have hidle := hdeserted.idle job hmem
    cases hstage : job.stage with
    | arriving =>
        have hline := (hserved.forestalled job hmem herrand (by rw [hstage]; rfl)).1
        rw [hstage] at hline
        exact absurd hline (by simp)
    | inLine =>
        exact .inLine hstage (hserved.forestalled job hmem herrand (by rw [hstage]; rfl)).2
    | settling generation wake =>
        have hrecorded : job.stage.recorded? = some generation := by rw [hstage]; rfl
        exact .past hrecorded (hpast job hmem generation hrecorded)
    | returning generation =>
        have hrecorded : job.stage.recorded? = some generation := by rw [hstage]; rfl
        exact .past hrecorded (hpast job hmem generation hrecorded)
    | closing client aftermath =>
        rw [hstage] at hidle
        exact absurd hidle (by simp [Stage.isBusy])
    | opening client =>
        rw [hstage] at hidle
        exact absurd hidle (by simp [Stage.isBusy])

/-- Whoever is not served presses. -/
theorem pressing_of_not_served (hserved : ¬ controller.Served) : controller.Pressing := by
  by_contra hpressing
  apply hserved
  constructor
  · intro job hmem
    cases hopens : job.errand.opens with
    | false => rfl
    | true => exact absurd (.opening hmem hopens) hpressing
  · intro job hmem herrand hnew
    rcases Stage.arriving_or_inLine hnew with hstage | hstage
    · exact absurd (.arriving hmem herrand hstage) hpressing
    · refine ⟨hstage, ?_⟩
      by_contra hstop
      exact hpressing (.inLine hmem herrand hstage hstop)

theorem Past.begin (hpast : controller.Past) {errand : Errand} :
    (controller.begin errand).1.Past := by
  intro job hmem recorded hrecorded
  rcases mem_begin.mp hmem with hold | rfl
  · exact hpast job hold recorded hrecorded
  · exact absurd hrecorded (by simp [Stage.recorded?])

theorem Pressing.begin (hpressing : controller.Pressing) (h : controller.Orderly)
    (errand : Errand) : (controller.begin errand).1.Pressing := by
  have hkept : ∀ job ∈ controller.jobs, job ∈ (controller.begin errand).1.jobs :=
    fun job hmem => mem_begin.mpr (Or.inl hmem)
  cases hpressing with
  | opening hmem hopens => exact .opening (hkept _ hmem) hopens
  | arriving hmem herrand hstage => exact .arriving (hkept _ hmem) herrand hstage
  | inLine hmem herrand hstage hstop =>
      refine .inLine (hkept _ hmem) herrand hstage ?_
      rintro ⟨stop, hstop_mem, hstop_errand, hbehind⟩
      exact hstop ⟨stop, h.mem_of_queue hstop_mem (hbehind.subset (by simp)), hstop_errand,
        hbehind⟩
  | due hmem hrecorded hstop =>
      refine .due (hkept _ hmem) hrecorded ?_
      rintro ⟨stop, hstop_mem, hstop_errand, hqueue⟩
      exact hstop ⟨stop, h.mem_of_queue hstop_mem hqueue, hstop_errand, hqueue⟩

end Serving

section Opening

variable {situation : Situation} {controller : Controller} {job : Job}
  {context : ActivationContext}

/-- A start that finds nothing in its way makes a client. -/
theorem openClient_mem_continueStart (hhost : situation.Hospitable) (scope : Path)
    (roots : List Root) : ∃ client, .openClient client context ∈
      (controller.continueStart situation job context scope roots).2 := by
  obtain ⟨folder, hfolder⟩ := hhost.2 (some scope)
  obtain ⟨workspace, hworkspace⟩ := hhost.2 none
  simp [continueStart, hfolder, hworkspace, enter]

theorem openClient_mem_runStart (hhost : situation.Hospitable)
    (hclient : controller.client = none) :
    ∃ client, .openClient client context ∈ (controller.runStart situation job context).2 := by
  obtain ⟨root, hroot⟩ := hhost.1
  simp only [runStart, hroot, hclient]
  exact openClient_mem_continueStart hhost root.path situation.roots

/-- Whoever is to start a client makes one when nothing is in the way. -/
theorem openClient_mem_run (hhost : situation.Hospitable) (hclient : controller.client = none)
    (hopens : job.errand.opens = true) : ∃ client context, .openClient client context ∈
      (controller.run situation job).2 := by
  cases herrand : job.errand with
  | start context =>
      simp only [run, herrand]
      obtain ⟨client, hmem⟩ := openClient_mem_runStart hhost hclient
      exact ⟨client, context, hmem⟩
  | restart context =>
      have hstopped : (controller.enterStop.1.enter .idle).1.client = none := rfl
      obtain ⟨client, hmem⟩ := openClient_mem_runStart hhost hstopped
      simp only [run, herrand, runStop, hclient, concludeStop, afterStop]
      exact ⟨client, context, List.mem_append_right _ (List.mem_append_right _
        (List.mem_append_right _ hmem))⟩
  | stop => simp [herrand, Errand.opens] at hopens
  | settle => simp [herrand, Errand.opens] at hopens
  | inspect => simp [herrand, Errand.opens] at hopens

/-- Where the lock is open to a job that is not in line yet, nobody has it. -/
theorem Orderly.not_held_of_wait (h : controller.Orderly) (hmem : job ∈ controller.jobs)
    (hopen : controller.Open job.id) {stage : Stage}
    (hstage : (job.stage = .arriving ∧ stage = .inLine) ∨
      ∃ generation wake, job.stage = .settling generation wake ∧ stage = .returning generation) :
    ¬ controller.holder.isSome := by
  have hqueued : job.stage.isQueued = false := by
    rcases hstage with ⟨hold, -⟩ | ⟨generation, wake, hold, -⟩
    · rw [hold]
      rfl
    · rw [hold]
      rfl
  rw [h.holder_of_open hmem hopen, hqueued]
  simp

/-- A job that gets the lock for the first time runs. -/
theorem Orderly.step_of_new (h : controller.Orderly) (hmem : job ∈ controller.jobs)
    (hopen : controller.Open job.id) (hnew : job.stage.isNew = true) :
    controller.step situation job.id = some ((controller.hold job.id).run situation job) := by
  have hholder := h.holder_of_open hmem hopen
  rcases Stage.arriving_or_inLine hnew with hstage | hstage
  · rw [hstage] at hholder
    simp only [Stage.isQueued, Bool.false_eq_true, if_false] at hholder
    simp only [step, h.job?_of_mem hmem, Option.bind_some, hstage, acquire, hholder]
    rfl
  · rw [hstage] at hholder
    simp only [Stage.isQueued, if_true] at hholder
    simp only [step, h.job?_of_mem hmem, Option.bind_some, hstage, hholder, if_true,
      hold_of_holder hholder]

/-- Whose pause is over goes on when the lock is its own or free. -/
theorem Orderly.mayResume (h : controller.Orderly) (hmem : job ∈ controller.jobs)
    (hopen : controller.Open job.id) (hrecorded : job.stage.recorded?.isSome)
    (hwake : ∀ generation wake, job.stage = .settling generation wake → wake ≤ situation.now) :
    controller.mayResume situation job = true := by
  have hholder := h.holder_of_open hmem hopen
  cases hstage : job.stage with
  | settling generation wake =>
      rw [hstage] at hholder
      simp only [Stage.isQueued, Bool.false_eq_true, if_false] at hholder
      simp [Controller.mayResume, hstage, hholder, hwake generation wake hstage]
  | returning generation =>
      rw [hstage] at hholder
      simp only [Stage.isQueued, if_true] at hholder
      simp [Controller.mayResume, hstage, hholder]
  | arriving => simp [hstage, Stage.recorded?] at hrecorded
  | inLine => simp [hstage, Stage.recorded?] at hrecorded
  | closing client aftermath => simp [hstage, Stage.recorded?] at hrecorded
  | opening client => simp [hstage, Stage.recorded?] at hrecorded

end Opening

section Draining

variable {situation : Situation} {before after : Controller} {job : Job} {actions : List Action}

/-- A job that has the lock of a deserted controller makes a client, or gives the lock back and
leaves the controller deserted. -/
theorem Turn.stays_deserted (hturn : Turn situation before job after actions)
    (hsound : before.Sound) (hmem : job ∈ before.jobs) (hdeserted : before.Deserted)
    (hopen : before.Open job.id) : (∃ client context, .openClient client context ∈ actions) ∨
      (after.Deserted ∧ after.queue = before.line) := by
  have hidle := hdeserted.idle job hmem
  have hretired : ∀ other ∈ (before.retire job.id).jobs, other.stage.isBusy = false :=
    fun other hother => hdeserted.idle other (mem_retire.mp hother).1
  cases hturn with
  | wait hheld hstage => exact absurd hheld (hsound.orderly.not_held_of_wait hmem hopen hstage)
  | leave _ hidle hserved hstop houtward hfinish =>
      exact Or.inr ⟨⟨hdeserted.vacant, hretired⟩, queue_release _⟩
  | close _ hclient hlt hcause hcontext hfits hfound houtward =>
      rw [hdeserted.vacant.2.1] at hclient
      exact absurd hclient (by simp)
  | launch asker _ hstill hcontext hle hlt hcause hfits hfound hfolder houtward =>
      have hopened : ∃ client, .openClient client asker ∈ outward actions := by
        rw [houtward]
        exact ⟨_, List.mem_cons_of_mem _ (List.mem_singleton_self _)⟩
      obtain ⟨client, hclient⟩ := hopened
      exact Or.inl ⟨client, asker, (List.mem_filter.mp hclient).1⟩
  | pause _ hstill hle hlt herrand hstage hserver houtward =>
      refine Or.inr ⟨⟨⟨rfl, rfl, rfl⟩, ?_⟩, queue_release _⟩
      intro other hother
      rcases (hsound.orderly.mem_moveJob_iff hmem).mp hother with ⟨hold, -⟩ | rfl
      · exact hdeserted.idle other hold
      · rfl
  | fall _ hle hcause hcontext houtward hfinish =>
      exact Or.inr ⟨⟨⟨rfl, rfl, rfl⟩, hretired⟩, queue_release _⟩
  | rise _ hstage houtward hfinish =>
      rw [hstage] at hidle
      exact absurd hidle (by simp [Stage.isBusy])

/-- A restart after a change that works for the first time, where nothing runs, begins its pause. -/
theorem Turn.due_of_new (hturn : Turn situation before job after actions)
    (hsound : before.Sound) (hmem : job ∈ before.jobs) (hdeserted : before.Deserted)
    (hopen : before.Open job.id) (herrand : job.errand = .settle)
    (hnew : job.stage.isNew = true) :
    ∃ waiting ∈ after.jobs, waiting.stage.recorded? = some after.generation := by
  have hrecorded := Stage.not_recorded_of_isNew hnew
  have hidle := hdeserted.idle job hmem
  cases hturn with
  | wait hheld hstage => exact absurd hheld (hsound.orderly.not_held_of_wait hmem hopen hstage)
  | leave _ hidle hserved hstop houtward hfinish =>
      have hsome := hserved herrand
      rw [hrecorded] at hsome
      exact absurd hsome (by simp)
  | close _ hclient hlt hcause hcontext hfits hfound houtward =>
      rw [hdeserted.vacant.2.1] at hclient
      exact absurd hclient (by simp)
  | launch asker _ hstill hcontext hle hlt hcause hfits hfound hfolder houtward =>
      rw [hidle, herrand, hrecorded] at hcause
      exact absurd hcause (by simp [Errand.opens])
  | pause _ hstill hle hlt herrand hstage hserver houtward =>
      exact ⟨_, mem_moveJob_self hmem, rfl⟩
  | fall _ hle hcause hcontext houtward hfinish =>
      rw [hidle, herrand, hrecorded] at hcause
      exact absurd hcause (by simp [Errand.isExplicit])
  | rise _ hstage houtward hfinish =>
      rw [hstage] at hidle
      exact absurd hidle (by simp [Stage.isBusy])

/-- A stop that has the lock, where nothing runs, returns. -/
theorem Turn.finish_of_stop (hturn : Turn situation before job after actions)
    (hsound : before.Sound) (hmem : job ∈ before.jobs) (hdeserted : before.Deserted)
    (hopen : before.Open job.id) (herrand : job.errand = .stop) :
    ∃ outcome, .finish job.id outcome ∈ actions := by
  cases hturn with
  | wait hheld hstage => exact absurd hheld (hsound.orderly.not_held_of_wait hmem hopen hstage)
  | leave _ hidle hserved hstop houtward hfinish => exact ⟨_, hfinish⟩
  | close _ hclient hlt hcause hcontext hfits hfound houtward =>
      rw [hdeserted.vacant.2.1] at hclient
      exact absurd hclient (by simp)
  | launch asker _ hstill hcontext hle hlt hcause hfits hfound hfolder houtward =>
      rw [herrand] at hfits
      exact absurd hfits (by simp [Errand.opens])
  | pause _ hstill hle hlt hsettle hstage hserver houtward =>
      rw [herrand] at hsettle
      exact absurd hsettle (by simp)
  | fall _ hle hcause hcontext houtward hfinish => exact ⟨_, hfinish⟩
  | rise _ hstage houtward hfinish => exact ⟨_, hfinish⟩

/-- In a deserted controller only restarts after changes have worked before. -/
theorem Sound.isNew_of_deserted (hsound : before.Sound) (hdeserted : before.Deserted)
    (hmem : job ∈ before.jobs) (hsettle : job.errand ≠ .settle) : job.stage.isNew = true := by
  have hfits := hsound.fits job hmem
  have hidle := hdeserted.idle job hmem
  cases hstage : job.stage with
  | arriving => rfl
  | inLine => rfl
  | settling generation wake => exact absurd (by simpa [Job.Fits, hstage] using hfits) hsettle
  | returning generation => exact absurd (by simpa [Job.Fits, hstage] using hfits) hsettle
  | closing client aftermath => simp [hstage, Stage.isBusy] at hidle
  | opening client => simp [hstage, Stage.isBusy] at hidle

/-- Whoever is to start a client, and whoever's generation is the present one, makes a client as
soon as he has the lock. -/
theorem Sound.openClient_of_cause (hsound : before.Sound) (hhost : situation.Hospitable)
    (hmem : job ∈ before.jobs) (hdeserted : before.Deserted) (hopen : before.Open job.id)
    (hwake : ∀ generation wake, job.stage = .settling generation wake → wake ≤ situation.now)
    (hcause : job.errand.opens = true ∨ job.stage.recorded? = some before.generation) :
    ∃ after actions, before.step situation job.id = some (after, actions) ∧
      ∃ client context, .openClient client context ∈ actions := by
  have horderly := hsound.orderly
  have hclient : (before.hold job.id).client = none := hdeserted.vacant.2.1
  cases hcause with
  | inl hopens =>
      have hsettle : job.errand ≠ .settle := by
        intro hsame
        rw [hsame] at hopens
        exact absurd hopens (by simp [Errand.opens])
      have hnew := hsound.isNew_of_deserted hdeserted hmem hsettle
      exact ⟨_, _, horderly.step_of_new hmem hopen hnew,
        openClient_mem_run hhost hclient hopens⟩
  | inr hcurrent =>
      have hmay := horderly.mayResume hmem hopen (by rw [hcurrent]; rfl) hwake
      obtain ⟨context, -, hstep⟩ :=
        hsound.resume (horderly.job?_of_mem hmem) hcurrent hmay
      rw [if_pos rfl] at hstep
      obtain ⟨client, hopened⟩ := openClient_mem_runStart hhost hclient
      exact ⟨_, _, hstep, client, context, hopened⟩

/-- Who has the lock of a deserted controller can work. -/
theorem Sound.step_of_holder (hsound : before.Sound) (situation : Situation)
    (hmem : job ∈ before.jobs) (hdeserted : before.Deserted)
    (hholder : before.holder = some job.id) :
    ∃ after actions, before.step situation job.id = some (after, actions) := by
  have horderly := hsound.orderly
  have hopen : before.Open job.id := Or.inr hholder
  have hidle := hdeserted.idle job hmem
  have hqueued := horderly.isQueued_of_holder hmem hholder
  cases hstage : job.stage with
  | inLine => exact ⟨_, _, horderly.step_of_new hmem hopen (by rw [hstage]; rfl)⟩
  | returning generation =>
      have hrecorded : job.stage.recorded? = some generation := by rw [hstage]; rfl
      have hmay : before.mayResume situation job = true :=
        horderly.mayResume hmem hopen (by rw [hrecorded]; rfl)
          (fun generation wake hsame => by simp [hstage] at hsame)
      obtain ⟨context, -, hstep⟩ :=
        hsound.resume (horderly.job?_of_mem hmem) hrecorded hmay
      exact ⟨_, _, hstep⟩
  | arriving => simp [hstage, Stage.isQueued] at hqueued
  | settling generation wake => simp [hstage, Stage.isQueued] at hqueued
  | closing client aftermath => simp [hstage, Stage.isBusy] at hidle
  | opening client => simp [hstage, Stage.isBusy] at hidle

/-- A stop that is there after a turn was there before. -/
theorem Turn.stop_of_after (hturn : Turn situation before job after actions)
    (h : before.Orderly) (hmem : job ∈ before.jobs) {stop : Job} (hstop : stop ∈ after.jobs)
    (herrand : stop.errand = .stop) :
    ∃ old ∈ before.jobs, old.errand = .stop ∧ old.id = stop.id := by
  rcases hturn.mem_jobs h hmem hstop with ⟨hold, -⟩ | ⟨stage, rfl⟩
  · exact ⟨stop, hold, herrand, rfl⟩
  · exact ⟨job, hmem, herrand, rfl⟩

/-- A stop that is in line behind somebody when the head of the line has gone was so before. -/
theorem Turn.stopFollows (hturn : Turn situation before job after actions) (h : before.Orderly)
    (hmem : job ∈ before.jobs) (hbefore : before.queue = job.id :: before.line)
    (hqueue : after.queue = before.line) {id : JobId} (hfollows : after.StopFollows id) :
    before.StopFollows id := by
  obtain ⟨stop, hstop, herrand, hbehind⟩ := hfollows
  obtain ⟨old, hold, hold_errand, hid⟩ := hturn.stop_of_after h hmem hstop herrand
  rw [hqueue] at hbehind
  refine ⟨old, hold, hold_errand, ?_⟩
  rw [hid, hbefore]
  exact hbehind.cons _

/-- A stop that is in line when the head of the line has gone was in line behind the head. -/
theorem Turn.stopFollows_of_stopWaits (hturn : Turn situation before job after actions)
    (h : before.Orderly) (hmem : job ∈ before.jobs)
    (hbefore : before.queue = job.id :: before.line) (hqueue : after.queue = before.line)
    (hwaits : after.StopWaits) : before.StopFollows job.id := by
  obtain ⟨stop, hstop, herrand, hwaiting⟩ := hwaits
  obtain ⟨old, hold, hold_errand, hid⟩ := hturn.stop_of_after h hmem hstop herrand
  rw [hqueue] at hwaiting
  refine ⟨old, hold, hold_errand, ?_⟩
  rw [hid, hbefore]
  exact (List.singleton_sublist.mpr hwaiting).cons_cons _

/-- If the head of the line has no cause for a start itself, it leaves the controller pressing. -/
theorem Pressing.stays (hpressing : before.Pressing) (hsound : before.Sound)
    (hmem : job ∈ before.jobs) (hdeserted : before.Deserted)
    (hholder : before.holder = some job.id)
    (hcause : ¬ (job.errand.opens = true ∨ job.stage.recorded? = some before.generation))
    (hturn : Turn situation before job after actions) (hqueue : after.queue = before.line) :
    after.Pressing := by
  have horderly := hsound.orderly
  have hqueued := horderly.isQueued_of_holder hmem hholder
  have hbefore : before.queue = job.id :: before.line := by
    rw [queue, hholder]
    rfl
  have hfollows : ∀ {id}, ¬ before.StopFollows id → ¬ after.StopFollows id := fun hnone hlater =>
    hnone (hturn.stopFollows horderly hmem hbefore hqueue hlater)
  have hwaits : ¬ before.StopFollows job.id → ¬ after.StopWaits := fun hnone hlater =>
    hnone (hturn.stopFollows_of_stopWaits horderly hmem hbefore hqueue hlater)
  cases hpressing with
  | @opening other hother hopens =>
      refine .opening (hturn.other_mem_jobs hother ?_) hopens
      intro hid
      rw [horderly.eq_of_id hmem hother hid] at hopens
      exact hcause (Or.inl hopens)
  | @arriving other hother herrand hstage =>
      refine .arriving (hturn.other_mem_jobs hother ?_) herrand hstage
      intro hid
      rw [horderly.eq_of_id hmem hother hid] at hstage
      rw [hstage] at hqueued
      exact absurd hqueued (by simp [Stage.isQueued])
  | @inLine other hother herrand hstage hstop =>
      by_cases hid : other.id = job.id
      · rw [horderly.eq_of_id hmem hother hid] at herrand hstage hstop
        obtain ⟨waiting, hwaiting, hcurrent⟩ := hturn.due_of_new hsound hmem hdeserted
          (Or.inr hholder) herrand (by rw [hstage]; rfl)
        exact .due hwaiting hcurrent (hwaits hstop)
      · exact .inLine (hturn.other_mem_jobs hother hid) herrand hstage (hfollows hstop)
  | @due other hother hrecorded hstop =>
      have hfree : ¬ before.StopFollows job.id := by
        rintro ⟨stop, hmem, herrand, hbehind⟩
        exact hstop ⟨stop, hmem, herrand, hbehind.subset (by simp)⟩
      have hne : other.id ≠ job.id := by
        intro hid
        rw [horderly.eq_of_id hmem hother hid] at hrecorded
        exact hcause (Or.inr hrecorded)
      -- The job counts nothing up: it is no start, and it is no stop, which would be in line.
      have hasked : job.errand.isExplicit = false := by
        cases herrand : job.errand with
        | stop =>
            exact absurd ⟨job, hmem, herrand, by rw [hbefore]; exact List.mem_cons_self⟩ hstop
        | start context => exact absurd (Or.inl (by rw [herrand]; rfl)) hcause
        | restart context => exact absurd (Or.inl (by rw [herrand]; rfl)) hcause
        | settle => rfl
        | inspect => rfl
      have hdue : before.recorded? other.id = some before.generation :=
        horderly.recorded?_eq_some.mpr ⟨other, hother, rfl, hrecorded⟩
      obtain ⟨id, hcurrent⟩ :=
        hturn.due_of_other hsound (horderly.job?_of_mem hmem) hdue hne hasked
      obtain ⟨waiting, hwaiting, -, hstage⟩ :=
        (hturn.orderly horderly hmem).recorded?_eq_some.mp hcurrent
      exact .due hwaiting hstage (hwaits hfree)

/-- The job at the head of the line makes a client, or leaves the controller pressing. -/
theorem Pressing.turn (hpressing : before.Pressing) (hsound : before.Sound)
    (hhost : situation.Hospitable) (hmem : job ∈ before.jobs) (hdeserted : before.Deserted)
    (hholder : before.holder = some job.id)
    (hstep : before.step situation job.id = some (after, actions))
    (hturn : Turn situation before job after actions) :
    (∃ client context, .openClient client context ∈ actions) ∨ after.Pressing := by
  have hopen : before.Open job.id := Or.inr hholder
  have hqueued := hsound.orderly.isQueued_of_holder hmem hholder
  by_cases hcause : job.errand.opens = true ∨ job.stage.recorded? = some before.generation
  · obtain ⟨_, _, hsame, hopened⟩ := hsound.openClient_of_cause hhost hmem hdeserted hopen
      (fun generation wake hstage => by simp [hstage, Stage.isQueued] at hqueued) hcause
    rw [hstep] at hsame
    obtain ⟨rfl, rfl⟩ := Prod.mk.inj (Option.some.inj hsame)
    exact Or.inl hopened
  · rcases hturn.stays_deserted hsound hmem hdeserted hopen with hopened | ⟨-, hqueue⟩
    · exact Or.inl hopened
    · exact Or.inr (hpressing.stays hsound hmem hdeserted hholder hcause hturn hqueue)

end Draining

end NplLifecycle.Controller
