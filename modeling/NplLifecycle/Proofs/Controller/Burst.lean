import NplLifecycle.Proofs.Controller.Waiting

/-!
# Bursts

While nobody starts or stops the client at somebody's wish, restarts after changes are among
themselves: as soon as one waits, one is due, and only its own going on ends that.
-/

namespace NplLifecycle.Controller

/-- Nobody is under way who starts or stops the client at somebody's wish. -/
def Unasked (controller : Controller) : Prop :=
  ∀ job ∈ controller.jobs, job.errand.isExplicit = false

/-- Every restart after a change has stopped the client already. -/
def Committed (controller : Controller) : Prop :=
  ∀ job ∈ controller.jobs, job.errand = .settle →
    job.stage.recorded?.isSome ∨ ∃ client, job.stage = .opening client

/-- A waiting job would go on with a start. -/
def Due (controller : Controller) : Prop :=
  ∃ id, controller.recorded? id = some controller.generation

def Action.isOpening : Action → Bool
  | .openClient .. => true
  | _ => false

section Bursts

variable {situation : Situation} {before after : Controller} {job : Job} {actions : List Action}
  {id : JobId}

theorem Turn.unasked (hturn : Turn situation before job after actions) (h : before.Orderly)
    (hmem : job ∈ before.jobs) (hunasked : before.Unasked) : after.Unasked := by
  intro other hother
  rcases hturn.mem_jobs h hmem hother with ⟨hold, -⟩ | ⟨stage, rfl⟩
  · exact hunasked other hold
  · exact hunasked job hmem

/-- The controller has nothing to stop and nobody works while a waiting job is due. -/
theorem Sound.idle_of_due (hsound : before.Sound)
    (hdue : before.recorded? id = some before.generation) (hmem : job ∈ before.jobs) :
    before.client = none ∧ job.stage.isBusy = false := by
  refine ⟨(hsound.vacant_of_current hdue).2.1, ?_⟩
  by_contra hbusy
  exact Nat.lt_irrefl _ (hsound.recorded_lt (Or.inr ⟨job, hmem, by simpa using hbusy⟩) hdue)

/-- Another job's turn leaves a waiting job due, or makes the other one due in its place. -/
theorem Turn.due_of_other (hturn : Turn situation before job after actions)
    (hsound : before.Sound) (hjob : before.job? job.id = some job)
    (hdue : before.recorded? id = some before.generation) (hne : id ≠ job.id)
    (hasked : job.errand.isExplicit = false) : after.Due := by
  have hmem := (mem_of_job? hjob).1
  have horderly := hsound.orderly
  have hafter := hturn.orderly horderly hmem
  obtain ⟨hclient, hidle⟩ := hsound.idle_of_due hdue hmem
  have hother : job.stage.recorded? ≠ some before.generation := by
    intro hsame
    refine hne (hsound.recorded_injective hdue ?_)
    rw [recorded?, hjob]
    exact hsame
  have hcalm : ¬ (job.stage.isBusy = true ∨ job.errand.isExplicit = true ∨
      job.stage.recorded? = some before.generation) := by
    rw [hidle, hasked]
    rintro (h | h | h)
    · exact absurd h (by simp)
    · exact absurd h (by simp)
    · exact hother h
  obtain ⟨waiting, hwaiting, rfl, hrecorded⟩ := horderly.recorded?_eq_some.mp hdue
  have hkept := hturn.other_mem_jobs hwaiting hne
  have hstays : after.generation = before.generation → after.Due := fun hsame =>
    ⟨waiting.id, hafter.recorded?_eq_some.mpr ⟨waiting, hkept, rfl, by rw [hsame, hrecorded]⟩⟩
  cases hturn with
  | wait hheld hnew => exact hstays rfl
  | leave hopen _ hserved hstop houtward hfinish => exact hstays rfl
  | close hopen hsome hlt hcause hcontext hfits hfound houtward =>
      rw [hclient] at hsome
      exact absurd hsome (by simp)
  | launch asker hopen hstill hcontext hle hlt hcause hfits hfound hfolder houtward =>
      exact absurd (hcause.imp_right (Or.imp_left Errand.isExplicit_of_opens)) hcalm
  | pause hopen hstill hle hlt herrand hnone hserver houtward =>
      exact ⟨job.id, hafter.recorded?_eq_some.mpr ⟨_, mem_moveJob_self hmem, rfl, rfl⟩⟩
  | fall hopen hle hcause hcontext houtward hfinish => exact absurd hcause hcalm
  | rise hopen hstage houtward hfinish =>
      rw [hstage] at hidle
      exact absurd hidle (by simp [Stage.isBusy])

/-- As soon as somebody waits, somebody is due, as long as nobody goes on after a pause. -/
theorem Turn.gathered (hturn : Turn situation before job after actions) (hsound : before.Sound)
    (hjob : before.job? job.id = some job) (hunasked : before.Unasked)
    (hfirst : job.stage.recorded? = none)
    (hgathered : ∀ id, (before.recorded? id).isSome → before.Due) :
    ∀ id, (after.recorded? id).isSome → after.Due := by
  intro id hsome
  obtain ⟨recorded, hrecorded⟩ := Option.isSome_iff_exists.mp hsome
  rcases hturn.recorded?_after hsound.orderly hjob hrecorded with hold |
    ⟨rfl, -, hgeneration, -⟩
  · obtain ⟨waiting, hdue⟩ := hgathered id (by rw [hold]; rfl)
    refine hturn.due_of_other hsound hjob hdue ?_ (hunasked job (mem_of_job? hjob).1)
    rintro rfl
    rw [recorded?, hjob] at hdue
    exact absurd (hfirst.symm.trans hdue) (by simp)
  · exact ⟨job.id, by rw [hrecorded, hgeneration]⟩

theorem Turn.committed (hturn : Turn situation before job after actions) (hsound : before.Sound)
    (hjob : before.job? job.id = some job) (hunasked : before.Unasked)
    (hcommitted : before.Committed) : after.Committed := by
  have hmem := (mem_of_job? hjob).1
  have hmoved : ∀ stage : Stage, (job.errand = .settle →
        stage.recorded?.isSome ∨ ∃ client, stage = .opening client) →
      ∀ other ∈ (before.moveJob job.id stage).jobs, other.errand = .settle →
        other.stage.recorded?.isSome ∨ ∃ client, other.stage = .opening client := by
    intro stage hstage other hother
    rcases (hsound.orderly.mem_moveJob_iff hmem).mp hother with ⟨hold, -⟩ | rfl
    · exact hcommitted other hold
    · exact hstage
  have hretired : (before.retire job.id).Committed :=
    fun other hother => hcommitted other (mem_retire.mp hother).1
  cases hturn with
  | wait hheld hnew =>
      refine hmoved _ fun herrand => ?_
      rcases hcommitted job hmem herrand with hrecorded | ⟨client, hopening⟩
      · left
        rw [Turn.recorded_of_wait hnew]
        exact hrecorded
      · rcases hnew with ⟨hstage, -⟩ | ⟨generation, wake, hstage, -⟩
        · rw [hopening] at hstage
          exact absurd hstage (by simp)
        · rw [hopening] at hstage
          exact absurd hstage (by simp)
  | leave hopen hidle hserved hstop houtward hfinish => exact hretired
  | @close _ client _ _ _ hopen hclient hlt hcause hcontext hfits hfound houtward =>
      refine hmoved _ fun herrand => ?_
      rcases hcommitted job hmem herrand with hrecorded | ⟨opened, hopening⟩
      · rcases hcause with hnone | hexplicit | hcurrent
        · rw [hnone] at hrecorded
          exact absurd hrecorded (by simp)
        · rw [hunasked job hmem] at hexplicit
          exact absurd hexplicit (by simp)
        · have hlt := hsound.counted.lt (Or.inl (by rw [hclient]; rfl)) job hmem _ hcurrent
          exact absurd hlt (Nat.lt_irrefl _)
      · rw [(hsound.ledger.opening job hmem opened hopening).1.2.1] at hclient
        exact absurd hclient (by simp)
  | launch asker hopen hstill hcontext hle hlt hcause hfits hfound hfolder houtward =>
      exact hmoved _ fun _ => Or.inr ⟨_, rfl⟩
  | pause hopen hstill hle hlt herrand hnone hserver houtward =>
      exact hmoved _ fun _ => Or.inl rfl
  | fall hopen hle hcause hcontext houtward hfinish => exact hretired
  | rise hopen hstage houtward hfinish => exact hretired

/-- Where every restart after a change has stopped the client, nobody becomes due any more. -/
theorem Turn.due_before (harrives : Arrives situation before job (after, actions))
    (hsound : before.Sound) (hjob : before.job? job.id = some job)
    (hcommitted : before.Committed) {recorded : Nat}
    (hrecorded : after.recorded? id = some recorded) (hcurrent : after.generation = recorded) :
    before.recorded? id = some recorded ∧ before.generation = recorded := by
  rcases harrives.2.recorded?_after hsound.orderly hjob hrecorded with hold |
    ⟨rfl, hnone, -, -, herrand, hstill, -⟩
  · exact ⟨hold, ((hsound.current_iff hjob hold harrives).mp hcurrent).1⟩
  · have hmem := (mem_of_job? hjob).1
    rcases hcommitted job hmem herrand with hsome | ⟨client, hopening⟩
    · rw [recorded?, hjob] at hnone
      rw [show job.stage.recorded? = none from hnone] at hsome
      exact absurd hsome (by simp)
    · exact absurd hstill (hsound.not_still_of_opening hmem hopening)

/-- A job that goes on after its pause waits no longer. -/
theorem Turn.recorded?_of_mayResume (hturn : Turn situation before job after actions)
    (hsound : before.Sound) (hjob : before.job? job.id = some job)
    (hrecorded : job.stage.recorded?.isSome)
    (hmay : before.mayResume situation job = true) : after.recorded? job.id = none := by
  have hmem := (mem_of_job? hjob).1
  have hafter := hturn.orderly hsound.orderly hmem
  by_contra hsome
  obtain ⟨recorded, hfound⟩ := Option.ne_none_iff_exists'.mp hsome
  obtain ⟨other, hother, hid, hstage⟩ := hafter.recorded?_eq_some.mp hfound
  have hmoved : ∀ stage : Stage, stage.recorded? = none →
      other ∉ (before.moveJob job.id stage).jobs := by
    intro stage hnone hmoved
    rcases (hsound.orderly.mem_moveJob_iff hmem).mp hmoved with ⟨-, hne⟩ | rfl
    · exact hne hid
    · exact absurd (hnone.symm.trans hstage) (by simp)
  cases hturn with
  | wait hheld hnew =>
      rcases hnew with ⟨harriving, -⟩ | ⟨generation, wake, hsettling, -⟩
      · rw [harriving] at hrecorded
        exact absurd hrecorded (by simp [Stage.recorded?])
      · simp only [mayResume, hsettling, Bool.and_eq_true, Option.isNone_iff_eq_none] at hmay
        rw [hmay.2] at hheld
        exact absurd hheld (by simp)
  | leave hopen hidle hserved hstop houtward hfinish => exact (mem_retire.mp hother).2 hid
  | close hopen hclient hlt hcause hcontext hfits hfound houtward =>
      exact hmoved (.closing _ _) rfl hother
  | launch asker hopen hstill hcontext hle hlt hcause hfits hfound hfolder houtward =>
      exact hmoved (.opening _) rfl hother
  | pause hopen hstill hle hlt herrand hnone hserver houtward =>
      rw [hnone] at hrecorded
      exact absurd hrecorded (by simp)
  | fall hopen hle hcause hcontext houtward hfinish => exact (mem_retire.mp hother).2 hid
  | rise hopen hstage' houtward hfinish => exact (mem_retire.mp hother).2 hid

/-- Where every restart has stopped the client, only the one that is due makes a client. -/
theorem Turn.openings_of_committed (hturn : Turn situation before job after actions)
    (hsound : before.Sound) (hjob : before.job? job.id = some job) (hunasked : before.Unasked)
    (hcommitted : before.Committed) :
    (outward actions).countP Action.isOpening = 0 ∨
      ((outward actions).countP Action.isOpening = 1 ∧
        job.stage.recorded? = some before.generation) := by
  have hmem := (mem_of_job? hjob).1
  cases hturn with
  | wait hheld hnew => exact Or.inl rfl
  | leave hopen hidle hserved hstop houtward hfinish =>
      rw [houtward]
      exact Or.inl rfl
  | close hopen hclient hlt hcause hcontext hfits hfound houtward =>
      rw [houtward]
      cases before.subscription <;> exact Or.inl rfl
  | launch asker hopen hstill hcontext hle hlt hcause hfits hfound hfolder houtward =>
      rw [houtward]
      refine Or.inr ⟨rfl, ?_⟩
      have hnot : job.errand.opens ≠ true := by
        intro hopens
        have hexplicit := Errand.isExplicit_of_opens hopens
        rw [hunasked job hmem] at hexplicit
        exact absurd hexplicit (by simp)
      rcases hcommitted job hmem (hfits.resolve_left hnot) with hsome | ⟨client, hopening⟩
      · have hidle : job.stage.isBusy = false := by
          cases hstage : job.stage <;> simp_all [Stage.recorded?, Stage.isBusy]
        exact (hcause.resolve_left (by simp [hidle])).resolve_left hnot
      · exact absurd hstill (hsound.not_still_of_opening hmem hopening)
  | pause hopen hstill hle hlt herrand hnone hserver houtward =>
      rw [houtward]
      exact Or.inl rfl
  | fall hopen hle hcause hcontext houtward hfinish =>
      rcases houtward with ⟨-, houtward⟩ | ⟨client, -, houtward⟩
      · rw [houtward]
        exact Or.inl rfl
      · rw [houtward]
        exact Or.inl rfl
  | rise hopen hstage houtward hfinish =>
      rw [houtward]
      exact Or.inl rfl

end Bursts

end NplLifecycle.Controller
