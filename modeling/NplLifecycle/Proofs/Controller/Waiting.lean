import NplLifecycle.Proofs.Controller.Sound

/-!
# Waiting jobs

A job that waits out its pause has recorded the generation at the end of its own stop.  As long as
the generation is that one, nobody has started or stopped the client since, and only then does the
job go on with a start.
-/

namespace NplLifecycle.Controller

/-- The generation that a waiting job has recorded. -/
def recorded? (controller : Controller) (id : JobId) : Option Nat :=
  (controller.job? id).bind (·.stage.recorded?)

/-- Is the pause of a waiting job over, and the lock its own or free? -/
def mayResume (situation : Situation) (controller : Controller) (job : Job) : Bool :=
  match job.stage with
  | .settling _ wake => wake ≤ situation.now && controller.holder.isNone
  | .returning _ => controller.holder = some job.id
  | _ => false

section Waiting

variable {situation : Situation} {controller before after : Controller} {id other : JobId}
  {job : Job} {actions : List Action} {recorded found : Nat}

theorem Orderly.recorded?_eq_some (h : controller.Orderly) :
    controller.recorded? id = some recorded ↔
      ∃ job ∈ controller.jobs, job.id = id ∧ job.stage.recorded? = some recorded := by
  constructor
  · intro hrecorded
    obtain ⟨job, hjob, hstage⟩ := Option.bind_eq_some_iff.mp hrecorded
    obtain ⟨hmem, hid⟩ := mem_of_job? hjob
    exact ⟨job, hmem, hid, hstage⟩
  · rintro ⟨job, hmem, rfl, hstage⟩
    rw [recorded?, h.job?_of_mem hmem]
    exact hstage

theorem Orderly.recorded?_begin (h : controller.Orderly) {errand : Errand} :
    (controller.begin errand).1.recorded? id = some recorded ↔
      controller.recorded? id = some recorded := by
  rw [h.recorded?_eq_some, h.begin.recorded?_eq_some]
  constructor
  · rintro ⟨job, hmem, hid, hstage⟩
    refine ⟨job, mem_of_begin hmem ?_, hid, hstage⟩
    intro hnew
    simp [hnew, Stage.recorded?] at hstage
  · rintro ⟨job, hmem, hid, hstage⟩
    exact ⟨job, mem_begin.mpr (Or.inl hmem), hid, hstage⟩

theorem Sound.recorded_le (hsound : controller.Sound)
    (hrecorded : controller.recorded? id = some recorded) : recorded ≤ controller.generation := by
  obtain ⟨job, hmem, -, hstage⟩ := hsound.orderly.recorded?_eq_some.mp hrecorded
  exact hsound.counted.le job hmem recorded hstage

theorem Sound.recorded_injective (hsound : controller.Sound)
    (hrecorded : controller.recorded? id = some recorded)
    (hother : controller.recorded? other = some recorded) : id = other := by
  obtain ⟨job, hmem, rfl, hstage⟩ := hsound.orderly.recorded?_eq_some.mp hrecorded
  obtain ⟨job', hmem', rfl, hstage'⟩ := hsound.orderly.recorded?_eq_some.mp hother
  exact hsound.counted.injective job hmem job' hmem' recorded hstage hstage'

/-- While a client is there, or a job starts or stops one, the generation of a waiting job is
past. -/
theorem Sound.recorded_lt (hsound : controller.Sound)
    (hengaged : controller.client.isSome ∨
      ∃ job ∈ controller.jobs, job.stage.isBusy = true)
    (hrecorded : controller.recorded? id = some recorded) : recorded < controller.generation := by
  obtain ⟨job, hmem, -, hstage⟩ := hsound.orderly.recorded?_eq_some.mp hrecorded
  exact hsound.counted.lt hengaged job hmem recorded hstage

/-- Where the generation is still the recorded one, there is nothing that a start would have to
replace. -/
theorem Sound.vacant_of_current (hsound : controller.Sound)
    (hcurrent : controller.recorded? id = some controller.generation) :
    controller.Vacant .idle := by
  have hidle : ¬ (controller.client.isSome ∨
      ∃ job ∈ controller.jobs, job.stage.isBusy = true) :=
    fun hengaged => Nat.lt_irrefl _ (hsound.recorded_lt hengaged hcurrent)
  have hrested : controller.Rested := by
    apply hsound.ledger.rested
    intro job hmem
    by_contra hbusy
    exact hidle (Or.inr ⟨job, hmem, by simpa using hbusy⟩)
  rcases hrested with ⟨client, -, hclient, -⟩ | hvacant
  · exact absurd (Or.inl (by rw [hclient]; rfl)) hidle
  · exact hvacant

/-- After a turn a job waits that waited before, or the turn's own job at the end of its stop. -/
theorem Turn.recorded?_after (hturn : Turn situation before job after actions) (h : before.Orderly)
    (hjob : before.job? job.id = some job) (hrecorded : after.recorded? id = some recorded) :
    before.recorded? id = some recorded ∨
      (id = job.id ∧ before.recorded? id = none ∧ after.generation = recorded ∧
        .stopServer ∈ actions ∧ job.errand = .settle ∧ before.Still ∧
        (before.generation < after.generation ∨ job.stage.isBusy = true)) := by
  have hmem := (mem_of_job? hjob).1
  have hself : before.recorded? job.id = job.stage.recorded? := by
    rw [recorded?, hjob]
    rfl
  obtain ⟨holder, hholder, rfl, hstage⟩ :=
    (hturn.orderly h hmem).recorded?_eq_some.mp hrecorded
  have hold : holder ∈ before.jobs → before.recorded? holder.id = some recorded :=
    fun hbefore => h.recorded?_eq_some.mpr ⟨holder, hbefore, rfl, hstage⟩
  cases hturn with
  | wait hheld hnew =>
      rcases (h.mem_moveJob_iff hmem).mp hholder with ⟨hbefore, -⟩ | rfl
      · exact Or.inl (hold hbefore)
      · apply Or.inl
        rw [hself, ← Turn.recorded_of_wait hnew]
        exact hstage
  | leave hopen hidle hserved hstop houtward hfinish =>
      exact Or.inl (hold (mem_retire.mp hholder).1)
  | close hopen hclient hlt hcause hcontext hfits hfound houtward =>
      rcases (h.mem_moveJob_iff hmem).mp hholder with ⟨hbefore, -⟩ | rfl
      · exact Or.inl (hold hbefore)
      · exact absurd hstage (by simp [Stage.recorded?])
  | launch asker hopen hstill hcontext hle hlt hcause hfits hfound hfolder houtward =>
      rcases (h.mem_moveJob_iff hmem).mp hholder with ⟨hbefore, -⟩ | rfl
      · exact Or.inl (hold hbefore)
      · exact absurd hstage (by simp [Stage.recorded?])
  | pause hopen hstill hle hlt herrand hnone hserver houtward =>
      rcases (h.mem_moveJob_iff hmem).mp hholder with ⟨hbefore, -⟩ | rfl
      · exact Or.inl (hold hbefore)
      · exact Or.inr ⟨rfl, hself.trans hnone, Option.some.inj hstage, hserver, herrand, hstill,
          hlt⟩
  | fall hopen hle hcause hcontext houtward hfinish =>
      exact Or.inl (hold (mem_retire.mp hholder).1)
  | rise hopen hstage houtward hfinish => exact Or.inl (hold (mem_retire.mp hholder).1)

/-- The generation stays the recorded one exactly as long as no turn touches the client. -/
theorem Sound.current_iff (hsound : before.Sound) (hjob : before.job? job.id = some job)
    (hrecorded : before.recorded? id = some recorded)
    (harrives : Arrives situation before job (after, actions)) :
    after.generation = recorded ↔ before.generation = recorded ∧ ¬ Touches (entries actions) := by
  have hcourse := harrives.1
  have hgrown : before.generation ≤ after.generation := hcourse.generation_le
  have hle := hsound.recorded_le hrecorded
  constructor
  · rintro rfl
    have hsame : before.generation = after.generation := Nat.le_antisymm hgrown hle
    refine ⟨hsame, fun htouches => ?_⟩
    cases hcourse.lt_of_touches htouches with
    | inl hlt =>
        exact Nat.ne_of_lt hlt hsame
    | inr hbusy =>
        have hlt := hsound.recorded_lt (Or.inr ⟨job, (mem_of_job? hjob).1, hbusy⟩) hrecorded
        exact Nat.ne_of_lt hlt hsame.symm
  · rintro ⟨rfl, huntouched⟩
    by_contra hne
    exact huntouched (hcourse.touches_of_lt (Nat.lt_of_le_of_ne hgrown (Ne.symm hne)))

/-- A job that gets the lock after its pause goes on with a start, or is superseded. -/
theorem Sound.resume (hsound : controller.Sound) (hjob : controller.job? job.id = some job)
    (hrecorded : job.stage.recorded? = some recorded)
    (hmay : controller.mayResume situation job = true) :
    ∃ context, controller.context = some context ∧
      controller.step situation job.id = some (
        if controller.generation = recorded then
          (controller.hold job.id).runStart situation job context
        else (controller.hold job.id).finish job.id .superseded) := by
  have hmem := (mem_of_job? hjob).1
  have herrand := errand_of_recorded (hsound.fits job hmem) hrecorded
  obtain ⟨context, hcontext⟩ := Option.isSome_iff_exists.mp
    (hsound.informed (Or.inr ⟨job, hmem, Or.inr herrand⟩))
  refine ⟨context, hcontext, ?_⟩
  have hresume : (controller.hold job.id).resumeSettling situation job recorded =
      if controller.generation = recorded then
        (controller.hold job.id).runStart situation job context
      else (controller.hold job.id).finish job.id .superseded := by
    by_cases hsame : controller.generation = recorded
    · simp [resumeSettling, hold, hsame, hcontext]
    · simp [resumeSettling, hold, hsame]
  rw [← hresume]
  cases hstage : job.stage with
  | settling generation wake =>
      rw [hstage] at hrecorded
      simp only [mayResume, hstage, Bool.and_eq_true, decide_eq_true_eq,
        Option.isNone_iff_eq_none] at hmay
      obtain ⟨hwake, hholder⟩ := hmay
      simp only [step, hjob, Option.bind_some, hstage, Nat.not_lt.mpr hwake, if_false, acquire,
        hholder, Option.some.inj hrecorded]
      rfl
  | returning generation =>
      rw [hstage] at hrecorded
      simp only [mayResume, hstage, decide_eq_true_eq] at hmay
      simp only [step, hjob, Option.bind_some, hstage, hmay, if_true,
        Option.some.inj hrecorded, hold_of_holder hmay]
  | arriving => simp [hstage, Stage.recorded?] at hrecorded
  | inLine => simp [hstage, Stage.recorded?] at hrecorded
  | closing client aftermath => simp [hstage, Stage.recorded?] at hrecorded
  | opening client => simp [hstage, Stage.recorded?] at hrecorded

/-- A job whose pause is not over does nothing; one that finds the lock taken gets in line. -/
theorem step_of_not_mayResume (hjob : controller.job? job.id = some job)
    (hrecorded : job.stage.recorded? = some recorded)
    (hmay : controller.mayResume situation job = false) {result : Controller × List Action}
    (hstep : controller.step situation job.id = some result) :
    result = ({ controller with line := controller.line ++ [job.id] }.moveJob job.id
      (.returning recorded), []) := by
  cases hstage : job.stage with
  | settling generation wake =>
      rw [hstage] at hrecorded
      simp only [step, hjob, Option.bind_some, hstage, Option.ite_none_left_eq_some,
        Nat.not_lt] at hstep
      obtain ⟨hwake, hstep⟩ := hstep
      cases hholder : controller.holder with
      | none => simp [mayResume, hstage, hwake, hholder] at hmay
      | some other =>
          simp only [acquire, hholder, Option.some.injEq] at hstep
          rw [← hstep, ← hholder, Option.some.inj hrecorded]
  | returning generation =>
      simp only [mayResume, hstage, decide_eq_false_iff_not] at hmay
      simp [step, hjob, hstage, hmay] at hstep
  | arriving => simp [hstage, Stage.recorded?] at hrecorded
  | inLine => simp [hstage, Stage.recorded?] at hrecorded
  | closing client aftermath => simp [hstage, Stage.recorded?] at hrecorded
  | opening client => simp [hstage, Stage.recorded?] at hrecorded

/-- Who pauses does nothing before the moment has come. -/
theorem wake_le_of_step (hjob : controller.job? job.id = some job) {wake : Nat}
    (hstage : job.stage = .settling recorded wake) {result : Controller × List Action}
    (hstep : controller.step situation job.id = some result) : wake ≤ situation.now := by
  simp only [step, hjob, Option.bind_some, hstage, Option.ite_none_left_eq_some, Nat.not_lt]
    at hstep
  exact hstep.1

end Waiting

end NplLifecycle.Controller
