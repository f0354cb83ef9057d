import NplLifecycle.Proofs.Controller.Orderly

/-!
# Sound controllers

What holds of a controller between any two steps: besides its order, what the controller has fits
to what its jobs are doing, and the generations that jobs have recorded lie behind every start and
stop since.  Each part is kept by each form of a turn.
-/

namespace NplLifecycle.Controller

/-- The state, the client and the listener fit to what the jobs are doing. -/
structure Ledger (controller : Controller) : Prop where
  closing : ∀ job ∈ controller.jobs, ∀ client aftermath,
    job.stage = .closing client aftermath →
      controller.Vacant .stopping ∧ client < controller.nextClient
  opening : ∀ job ∈ controller.jobs, ∀ client, job.stage = .opening client →
    controller.Vacant .starting ∧ client.id < controller.nextClient
  rested : (∀ job ∈ controller.jobs, job.stage.isBusy = false) → controller.Rested
  client_lt : ∀ client, controller.client = some client → client.id < controller.nextClient

/-- The recorded generations are different, and behind every start and stop. -/
structure Counted (controller : Controller) : Prop where
  le : ∀ job ∈ controller.jobs, ∀ recorded, job.stage.recorded? = some recorded →
    recorded ≤ controller.generation
  injective : ∀ job ∈ controller.jobs, ∀ other ∈ controller.jobs, ∀ recorded,
    job.stage.recorded? = some recorded → other.stage.recorded? = some recorded →
      job.id = other.id
  lt : (controller.client.isSome ∨ ∃ other ∈ controller.jobs, other.stage.isBusy = true) →
    ∀ job ∈ controller.jobs, ∀ recorded, job.stage.recorded? = some recorded →
      recorded < controller.generation

/-- Who has a client, or had one, knows the context of its start. -/
def Informed (controller : Controller) : Prop :=
  (controller.client.isSome ∨
    ∃ job ∈ controller.jobs, job.stage.isBusy = true ∨ job.errand = .settle) →
    controller.context.isSome

/-- What holds of a controller between any two steps. -/
structure Sound (controller : Controller) : Prop where
  orderly : controller.Orderly
  fits : ∀ job ∈ controller.jobs, job.Fits
  ledger : controller.Ledger
  counted : controller.Counted
  informed : controller.Informed

section Preservation

variable {situation : Situation} {before after : Controller} {job : Job} {actions : List Action}

theorem Turn.fits (hturn : Turn situation before job after actions) (h : before.Orderly)
    (hjob : job ∈ before.jobs) (hfits : ∀ other ∈ before.jobs, other.Fits) :
    ∀ other ∈ after.jobs, other.Fits := by
  intro other hother
  have hmoved : ∀ stage, Job.Fits ⟨job.id, job.errand, stage⟩ →
      other ∈ (before.moveJob job.id stage).jobs → other.Fits := by
    intro stage hnew hmem
    rcases (h.mem_moveJob_iff hjob).mp hmem with ⟨hold, -⟩ | rfl
    · exact hfits other hold
    · exact hnew
  cases hturn with
  | wait hheld hstage =>
      rcases hstage with ⟨hold, rfl⟩ | ⟨generation, wake, hold, rfl⟩
      · exact hmoved .inLine trivial hother
      · refine hmoved (.returning generation) ?_ hother
        have hjob_fits := hfits job hjob
        simp only [Job.Fits, hold] at hjob_fits ⊢
        exact hjob_fits
  | leave hopen hidle hserved hstop houtward hfinish => exact hfits other (mem_retire.mp hother).1
  | close hopen hclient hlt hcause hcontext hfits hfound houtward => exact hmoved _ hfits hother
  | launch asker hopen hstill hcontext hle hlt hcause hfits hfound hfolder houtward =>
      exact hmoved (.opening _) hfits hother
  | pause hopen hstill hle hlt herrand hstage hserver houtward =>
      exact hmoved (.settling _ _) herrand hother
  | fall hopen hle hcause hcontext houtward hfinish => exact hfits other (mem_retire.mp hother).1
  | rise hopen hstage houtward hfinish => exact hfits other (mem_retire.mp hother).1

theorem Turn.recorded_of_wait {stage : Stage}
    (hstage : (job.stage = .arriving ∧ stage = .inLine) ∨
      ∃ generation wake, job.stage = .settling generation wake ∧ stage = .returning generation) :
    stage.recorded? = job.stage.recorded? := by
  rcases hstage with ⟨hold, rfl⟩ | ⟨generation, wake, hold, rfl⟩
  · rw [hold]
    rfl
  · rw [hold]
    rfl

theorem Turn.idle_of_wait {stage : Stage}
    (hstage : (job.stage = .arriving ∧ stage = .inLine) ∨
      ∃ generation wake, job.stage = .settling generation wake ∧ stage = .returning generation) :
    job.stage.isBusy = false ∧ stage.isBusy = false := by
  rcases hstage with ⟨hold, rfl⟩ | ⟨generation, wake, hold, rfl⟩
  · exact ⟨by rw [hold]; rfl, rfl⟩
  · exact ⟨by rw [hold]; rfl, rfl⟩

/-- A ledger at the end of a turn in which the job ended or began its pause. -/
theorem Ledger.of_idle (hidle : ∀ other ∈ after.jobs, other.stage.isBusy = false)
    (hrested : after.Rested)
    (hclient : ∀ client, after.client = some client → client.id < after.nextClient) :
    after.Ledger where
  closing := by
    intro other hother client aftermath hstage
    have hnot := hidle other hother
    rw [hstage] at hnot
    exact absurd hnot (by simp [Stage.isBusy])
  opening := by
    intro other hother client hstage
    have hnot := hidle other hother
    rw [hstage] at hnot
    exact absurd hnot (by simp [Stage.isBusy])
  rested := fun _ => hrested
  client_lt := hclient

/-- Who leaves the lock leaves nobody behind who waits for a client. -/
theorem idle_after (hturn : Turn situation before job after actions) (h : before.Orderly)
    (hjob : job ∈ before.jobs) (hopen : before.Open job.id)
    (hself : ∀ stage, { job with stage := stage } ∈ after.jobs → stage.isBusy = false) :
    ∀ other ∈ after.jobs, other.stage.isBusy = false := by
  intro other hother
  rcases hturn.mem_jobs h hjob hother with ⟨hold, hne⟩ | ⟨stage, rfl⟩
  · exact h.other_idle hopen hold hne
  · exact hself stage hother

theorem not_mem_retire {id : JobId} {stage : Stage} {errand : Errand} :
    ⟨id, errand, stage⟩ ∉ (before.retire id).jobs :=
  fun hmem => (mem_retire.mp hmem).2 rfl

/-- A ledger where a job that has the lock begins to wait for a client. -/
theorem Ledger.of_busy (h : before.Orderly) (hjob : job ∈ before.jobs)
    (hopen : before.Open job.id) (stage : Stage) (hbusy : stage.isBusy = true)
    (hjobs : after.jobs = (before.moveJob job.id stage).jobs) (hnone : after.client = none)
    (hclosing : ∀ client aftermath, stage = .closing client aftermath →
      after.Vacant .stopping ∧ client < after.nextClient)
    (hopening : ∀ client, stage = .opening client →
      after.Vacant .starting ∧ client.id < after.nextClient) : after.Ledger := by
  have hself : ∀ other ∈ after.jobs, other.stage.isBusy = true → other.stage = stage := by
    intro other hother hother_busy
    rw [hjobs] at hother
    rcases (h.mem_moveJob_iff hjob).mp hother with ⟨hold, hne⟩ | rfl
    · exact absurd hother_busy (by simp [h.other_idle hopen hold hne])
    · rfl
  constructor
  · intro other hother client aftermath hstage
    have hsame := hself other hother (by rw [hstage]; rfl)
    exact hclosing client aftermath (hsame.symm.trans hstage)
  · intro other hother client hstage
    have hsame := hself other hother (by rw [hstage]; rfl)
    exact hopening client (hsame.symm.trans hstage)
  · intro hnobody
    have hidle := hnobody ⟨job.id, job.errand, stage⟩ (hjobs ▸ mem_moveJob_self hjob)
    exact absurd hbusy (by simp [hidle])
  · intro client hclient
    exact absurd hclient (by simp [hnone])

/-- A ledger where a job gets in line. -/
theorem Ledger.wait (h : before.Orderly) (hjob : job ∈ before.jobs) (hledger : before.Ledger)
    {stage : Stage} (hidle : job.stage.isBusy = false) (hstage : stage.isBusy = false) :
    ({ before with line := before.line ++ [job.id] }.moveJob job.id stage).Ledger := by
  have hbusy : ∀ other ∈ (before.moveJob job.id stage).jobs, other.stage.isBusy = true →
      other ∈ before.jobs := by
    intro other hother hother_busy
    rcases (h.mem_moveJob_iff hjob).mp hother with ⟨hold, -⟩ | rfl
    · exact hold
    · exact absurd hother_busy (by simp [hstage])
  constructor
  · intro other hother client aftermath hclosing
    exact hledger.closing other (hbusy other hother (by rw [hclosing]; rfl)) client aftermath
      hclosing
  · intro other hother client hopening
    exact hledger.opening other (hbusy other hother (by rw [hopening]; rfl)) client hopening
  · intro hnobody
    apply hledger.rested
    intro other hother
    by_cases hid : other.id = job.id
    · rw [h.eq_of_id hjob hother hid]
      exact hidle
    · exact hnobody other (mem_moveJob_of_ne hother hid)
  · exact hledger.client_lt

theorem Turn.ledger (hturn : Turn situation before job after actions) (h : before.Orderly)
    (hjob : job ∈ before.jobs) (hledger : before.Ledger) : after.Ledger := by
  have hturn' := hturn
  cases hturn with
  | wait hheld hstage =>
      obtain ⟨hidle, hwaits⟩ := Turn.idle_of_wait hstage
      exact hledger.wait h hjob hidle hwaits
  | leave hopen hidle hserved hstop houtward hfinish =>
      refine Ledger.of_idle (idle_after hturn' h hjob hopen ?_) (hledger.rested ?_)
        hledger.client_lt
      · intro stage hself
        exact absurd hself not_mem_retire
      · intro other hother
        by_cases hid : other.id = job.id
        · rw [h.eq_of_id hjob hother hid]
          exact hidle
        · exact h.other_idle hopen hother hid
  | @close _ client aftermath _ _ hopen hclient hlt hcause hcontext hfits hfound houtward =>
      refine Ledger.of_busy h hjob hopen (.closing client.id aftermath) rfl rfl rfl ?_ ?_
      · intro closed _ hsame
        rw [← (Stage.closing.inj hsame).1]
        exact ⟨⟨rfl, rfl, rfl⟩, hledger.client_lt client hclient⟩
      · intro opened hsame
        exact absurd hsame (by simp)
  | launch asker hopen hstill hcontext hle hlt hcause hfits hfound hfolder houtward =>
      refine Ledger.of_busy h hjob hopen (.opening _) rfl rfl rfl ?_ ?_
      · intro closed _ hsame
        exact absurd hsame (by simp)
      · intro opened hsame
        rw [← Stage.opening.inj hsame]
        exact ⟨⟨rfl, rfl, rfl⟩, Nat.lt_succ_self _⟩
  | pause hopen hstill hle hlt herrand hstage hserver houtward =>
      refine Ledger.of_idle (idle_after hturn' h hjob hopen ?_) (Or.inr ⟨rfl, rfl, rfl⟩) ?_
      · intro stage hself
        rcases (h.mem_moveJob_iff hjob).mp hself with ⟨-, hne⟩ | hsame
        · exact absurd rfl hne
        · simp only [Job.mk.injEq, true_and] at hsame
          rw [hsame]
          rfl
      · intro other hother
        exact absurd hother (by simp [moveJob, release, vacate])
  | fall hopen hle hcause hcontext houtward hfinish =>
      refine Ledger.of_idle (idle_after hturn' h hjob hopen ?_) (Or.inr ⟨rfl, rfl, rfl⟩) ?_
      · intro stage hself
        exact absurd hself not_mem_retire
      · intro other hother
        exact absurd hother (by simp [retire, release, vacate])
  | @rise _ _ client hopen hstage houtward hfinish =>
      have hlt := (hledger.opening job hjob client hstage).2
      refine Ledger.of_idle (idle_after hturn' h hjob hopen ?_)
        (Or.inl ⟨client, rfl, rfl, rfl⟩) ?_
      · intro stage hself
        exact absurd hself not_mem_retire
      · intro other hother
        have hsame : client = other := Option.some.inj hother
        rw [← hsame]
        exact hlt

/-- Where the generation has grown, or the turn's job waited for a client, what the others have
recorded lies behind. -/
theorem Counted.other_lt (hcounted : before.Counted) (hjob : job ∈ before.jobs) {generation : Nat}
    (hle : before.generation ≤ generation)
    (hlt : before.generation < generation ∨ job.stage.isBusy = true) {other : Job}
    (hother : other ∈ before.jobs) {recorded : Nat}
    (hrecorded : other.stage.recorded? = some recorded) : recorded < generation := by
  cases hlt with
  | inl hgrown =>
      exact Nat.lt_of_le_of_lt (hcounted.le other hother recorded hrecorded) hgrown
  | inr hbusy =>
      exact Nat.lt_of_lt_of_le
        (hcounted.lt (Or.inr ⟨job, hjob, hbusy⟩) other hother recorded hrecorded) hle

/-- What jobs have recorded after a turn, they or others had recorded before. -/
theorem Counted.of_others (hcounted : before.Counted)
    (hle : before.generation ≤ after.generation)
    (hold : ∀ other ∈ after.jobs, ∀ recorded, other.stage.recorded? = some recorded →
      ∃ old ∈ before.jobs, old.id = other.id ∧ old.stage.recorded? = some recorded)
    (hlt : (after.client.isSome ∨ ∃ other ∈ after.jobs, other.stage.isBusy = true) →
      ∀ old ∈ before.jobs, ∀ recorded, old.stage.recorded? = some recorded →
        recorded < after.generation) : after.Counted where
  le := by
    intro other hother recorded hrecorded
    obtain ⟨old, hmem, -, hold_recorded⟩ := hold other hother recorded hrecorded
    exact Nat.le_trans (hcounted.le old hmem recorded hold_recorded) hle
  injective := by
    intro first hfirst second hsecond recorded hfirst_recorded hsecond_recorded
    obtain ⟨old, hmem, hid, hold_recorded⟩ := hold first hfirst recorded hfirst_recorded
    obtain ⟨old', hmem', hid', hold_recorded'⟩ := hold second hsecond recorded hsecond_recorded
    rw [← hid, ← hid']
    exact hcounted.injective old hmem old' hmem' recorded hold_recorded hold_recorded'
  lt := by
    intro hengaged other hother recorded hrecorded
    obtain ⟨old, hmem, -, hold_recorded⟩ := hold other hother recorded hrecorded
    exact hlt hengaged old hmem recorded hold_recorded

/-- A job that begins its pause records what nobody else has recorded. -/
theorem Counted.pause (hcounted : before.Counted) (h : before.Orderly) (hjob : job ∈ before.jobs)
    (hopen : before.Open job.id) {context : Option ActivationContext} {generation wake : Nat}
    (hle : before.generation ≤ generation)
    (hlt : before.generation < generation ∨ job.stage.isBusy = true) :
    (((before.hold job.id).vacate .idle context generation).release.moveJob job.id
      (.settling generation wake)).Counted := by
  have hself : ∀ other ∈ (before.moveJob job.id (.settling generation wake)).jobs, ∀ recorded,
      other.stage.recorded? = some recorded →
      (other ∈ before.jobs ∧ recorded < generation) ∨
        (other.id = job.id ∧ recorded = generation) := by
    intro other hother recorded hrecorded
    rcases (h.mem_moveJob_iff hjob).mp hother with ⟨hold, -⟩ | rfl
    · exact Or.inl ⟨hold, hcounted.other_lt hjob hle hlt hold hrecorded⟩
    · exact Or.inr ⟨rfl, (Option.some.inj hrecorded).symm⟩
  constructor
  · intro other hother recorded hrecorded
    rcases hself other hother recorded hrecorded with ⟨-, hbehind⟩ | ⟨-, rfl⟩
    · exact Nat.le_of_lt hbehind
    · exact Nat.le_refl _
  · intro first hfirst second hsecond recorded hfirst_recorded hsecond_recorded
    rcases hself first hfirst recorded hfirst_recorded with ⟨hold, hbehind⟩ | ⟨hid, rfl⟩
    · rcases hself second hsecond recorded hsecond_recorded with
        ⟨hold', hbehind'⟩ | ⟨-, rfl⟩
      · exact hcounted.injective first hold second hold' recorded hfirst_recorded
          hsecond_recorded
      · exact absurd hbehind (Nat.lt_irrefl _)
    · rcases hself second hsecond _ hsecond_recorded with ⟨-, hbehind'⟩ | ⟨hid', -⟩
      · exact absurd hbehind' (Nat.lt_irrefl _)
      · rw [hid, hid']
  · rintro (hclient | ⟨other, hother, hbusy⟩)
    · exact absurd hclient (by simp [moveJob, release, vacate])
    · rcases (h.mem_moveJob_iff hjob).mp hother with ⟨hold, hne⟩ | rfl
      · exact absurd hbusy (by simp [h.other_idle hopen hold hne])
      · exact absurd hbusy (by simp [Stage.isBusy])

theorem Turn.counted (hturn : Turn situation before job after actions) (h : before.Orderly)
    (hjob : job ∈ before.jobs) (hcounted : before.Counted) : after.Counted := by
  have hturn' := hturn
  have hmoved : ∀ stage, stage.recorded? = none ∨ stage.recorded? = job.stage.recorded? →
      ∀ other ∈ (before.moveJob job.id stage).jobs, ∀ recorded,
        other.stage.recorded? = some recorded →
        ∃ old ∈ before.jobs, old.id = other.id ∧ old.stage.recorded? = some recorded := by
    intro stage hstage other hother recorded hrecorded
    rcases (h.mem_moveJob_iff hjob).mp hother with ⟨hold, -⟩ | rfl
    · exact ⟨other, hold, rfl, hrecorded⟩
    · cases hstage with
      | inl hnone =>
          exact absurd (hnone.symm.trans hrecorded) (by simp)
      | inr hsame =>
          exact ⟨job, hjob, rfl, hsame.symm.trans hrecorded⟩
  have hretired : ∀ other ∈ (before.retire job.id).jobs, ∀ recorded,
      other.stage.recorded? = some recorded →
      ∃ old ∈ before.jobs, old.id = other.id ∧ old.stage.recorded? = some recorded :=
    fun other hother recorded hrecorded => ⟨other, (mem_retire.mp hother).1, rfl, hrecorded⟩
  cases hturn with
  | @wait stage hheld hstage =>
      refine hcounted.of_others (Nat.le_refl _)
        (hmoved stage (Or.inr (Turn.recorded_of_wait hstage))) ?_
      rintro (hclient | ⟨other, hother, hbusy⟩)
      · exact hcounted.lt (Or.inl hclient)
      · rcases (h.mem_moveJob_iff hjob).mp hother with ⟨hold, -⟩ | rfl
        · exact hcounted.lt (Or.inr ⟨other, hold, hbusy⟩)
        · exact absurd hbusy (by simp [(Turn.idle_of_wait hstage).2])
  | leave hopen hidle hserved hstop houtward hfinish =>
      refine hcounted.of_others (Nat.le_refl _) hretired ?_
      rintro (hclient | ⟨other, hother, hbusy⟩)
      · exact hcounted.lt (Or.inl hclient)
      · exact hcounted.lt (Or.inr ⟨other, (mem_retire.mp hother).1, hbusy⟩)
  | close hopen hclient hlt hcause hcontext hfits hfound houtward =>
      exact hcounted.of_others (Nat.le_of_lt hlt) (hmoved _ (Or.inl rfl))
        fun _ _ hold _ => hcounted.other_lt hjob (Nat.le_of_lt hlt) (Or.inl hlt) hold
  | launch asker hopen hstill hcontext hle hlt hcause hfits hfound hfolder houtward =>
      exact hcounted.of_others hle (hmoved _ (Or.inl rfl))
        fun _ _ hold _ => hcounted.other_lt hjob hle hlt hold
  | pause hopen hstill hle hlt herrand hstage hserver houtward =>
      exact hcounted.pause h hjob hopen hle hlt
  | fall hopen hle hcause hcontext houtward hfinish =>
      refine hcounted.of_others hle hretired ?_
      rintro (hclient | ⟨other, hother, hbusy⟩)
      · exact absurd hclient (by simp [retire, release, vacate])
      · obtain ⟨hold, hne⟩ := mem_retire.mp hother
        exact absurd hbusy (by simp [h.other_idle hopen hold hne])
  | @rise _ _ client hopen hstage houtward hfinish =>
      have hbusy : job.stage.isBusy = true := by rw [hstage]; rfl
      exact hcounted.of_others (Nat.le_refl _) hretired
        fun _ _ hold _ => hcounted.other_lt hjob (Nat.le_refl _) (Or.inr hbusy) hold

theorem Turn.informed (hturn : Turn situation before job after actions)
    (hcontext : before.context.isSome → after.context.isSome) (h : before.Orderly)
    (hjob : job ∈ before.jobs) (hinformed : before.Informed) : after.Informed := by
  have hbefore : ∀ other ∈ before.jobs, other.stage.isBusy = true ∨ other.errand = .settle →
      after.context.isSome :=
    fun other hother hengaged => hcontext (hinformed (Or.inr ⟨other, hother, hengaged⟩))
  have hretired : ∀ other ∈ (before.retire job.id).jobs,
      other.stage.isBusy = true ∨ other.errand = .settle → after.context.isSome :=
    fun other hother => hbefore other (mem_retire.mp hother).1
  cases hturn with
  | @wait stage hheld hstage =>
      rintro (hclient | ⟨other, hother, hengaged⟩)
      · exact hcontext (hinformed (Or.inl hclient))
      · rcases (h.mem_moveJob_iff hjob).mp hother with ⟨hold, -⟩ | rfl
        · exact hbefore other hold hengaged
        · have hidle : stage.isBusy = false := by
            rcases hstage with ⟨-, rfl⟩ | ⟨generation, wake, -, rfl⟩ <;> rfl
          exact hbefore job hjob (Or.inr (hengaged.resolve_left (by simp [hidle])))
  | leave hopen hidle hserved hstop houtward hfinish =>
      rintro (hclient | ⟨other, hother, hengaged⟩)
      · exact hcontext (hinformed (Or.inl hclient))
      · exact hretired other hother hengaged
  | close hopen hclient hlt hcontext' hfits hfound houtward =>
      exact fun _ => hcontext (hinformed (Or.inl (by rw [hclient]; rfl)))
  | launch asker hopen hstill hcontext' hle hlt hcause hfits hfound hfolder houtward =>
      exact fun _ => hcontext'
  | pause hopen hstill hle hlt herrand hstage hserver houtward =>
      exact fun _ => hbefore job hjob (Or.inr herrand)
  | fall hopen hle hcause hcontext' houtward hfinish =>
      rintro (hclient | ⟨other, hother, hengaged⟩)
      · exact absurd hclient (by simp [retire, release, vacate])
      · exact hretired other hother hengaged
  | rise hopen hstage houtward hfinish =>
      exact fun _ => hbefore job hjob (Or.inl (by rw [hstage]; rfl))

/-- A turn keeps a controller sound. -/
theorem Sound.turn (hsound : before.Sound) (hjob : before.job? job.id = some job)
    (harrives : Arrives situation before job (after, actions)) : after.Sound := by
  obtain ⟨hcourse, hturn⟩ := harrives
  have hmem := (mem_of_job? hjob).1
  exact {
    orderly := hturn.orderly hsound.orderly hmem
    fits := hturn.fits hsound.orderly hmem hsound.fits
    ledger := hturn.ledger hsound.orderly hmem hsound.ledger
    counted := hturn.counted hsound.orderly hmem hsound.counted
    informed := hturn.informed hcourse.context hsound.orderly hmem hsound.informed }

/-- While a job opens a client, the controller is not still. -/
theorem Sound.not_still_of_opening (hsound : before.Sound) (hmem : job ∈ before.jobs)
    {client : Client} (hstage : job.stage = .opening client) : ¬ before.Still := by
  have hstate := (hsound.ledger.opening job hmem client hstage).1.1
  rintro (⟨hidle, -⟩ | ⟨hstopping, -⟩)
  · rw [hstate] at hidle
    exact absurd hidle (by simp)
  · rw [hstate] at hstopping
    exact absurd hstopping (by simp)

end Preservation

theorem sound_idle (options : Options) : (Controller.idle options).Sound where
  orderly := {
    nodup := List.nodup_nil
    lt_nextJob := fun _ hmem => absurd hmem List.not_mem_nil
    queue_nodup := List.nodup_nil
    mem_queue := by simp [queue, Controller.idle]
    holder_of_busy := fun _ hmem => absurd hmem List.not_mem_nil
    line_eq_nil := fun _ => rfl }
  fits := fun _ hmem => absurd hmem List.not_mem_nil
  ledger := Ledger.of_idle (fun _ hmem => absurd hmem List.not_mem_nil)
    (Or.inr ⟨rfl, rfl, rfl⟩) (fun _ hclient => absurd hclient (by simp [Controller.idle]))
  counted := {
    le := fun _ hmem => absurd hmem List.not_mem_nil
    injective := fun _ hmem => absurd hmem List.not_mem_nil
    lt := fun _ _ hmem => absurd hmem List.not_mem_nil }
  informed := by simp [Informed, Controller.idle]

section Beginning

variable {controller : Controller} {errand : Errand}

theorem Ledger.begin (hledger : controller.Ledger) : (controller.begin errand).1.Ledger where
  closing := by
    intro job hjob client aftermath hstage
    exact hledger.closing job (mem_of_begin hjob (by simp [hstage])) client aftermath hstage
  opening := by
    intro job hjob client hstage
    exact hledger.opening job (mem_of_begin hjob (by simp [hstage])) client hstage
  rested := fun hidle => hledger.rested fun job hjob =>
    hidle job (mem_begin.mpr (Or.inl hjob))
  client_lt := hledger.client_lt

theorem Counted.begin (hcounted : controller.Counted) :
    (controller.begin errand).1.Counted := by
  refine hcounted.of_others (Nat.le_refl _) ?_ ?_
  · intro job hjob recorded hrecorded
    refine ⟨job, mem_of_begin hjob ?_, rfl, hrecorded⟩
    intro hnew
    simp [hnew, Stage.recorded?] at hrecorded
  · rintro (hclient | ⟨other, hother, hbusy⟩)
    · exact hcounted.lt (Or.inl hclient)
    · refine hcounted.lt (Or.inr ⟨other, mem_of_begin hother ?_, hbusy⟩)
      intro hnew
      simp [hnew, Stage.isBusy] at hbusy

theorem Informed.begin (hinformed : controller.Informed)
    (hcontext : errand = .settle → controller.context.isSome) :
    (controller.begin errand).1.Informed := by
  rintro (hclient | ⟨job, hjob, hengaged⟩)
  · exact hinformed (Or.inl hclient)
  · rcases mem_begin.mp hjob with hold | rfl
    · exact hinformed (Or.inr ⟨job, hold, hengaged⟩)
    · exact hcontext (hengaged.resolve_left (by simp [Stage.isBusy]))

/-- A new job, whatever it is for, leaves a controller sound.  Only a restart after a change
presumes that the client was started before. -/
theorem Sound.begin (hsound : controller.Sound)
    (hcontext : errand = .settle → controller.context.isSome) :
    (controller.begin errand).1.Sound where
  orderly := hsound.orderly.begin
  fits := by
    intro job hjob
    rcases mem_begin.mp hjob with hold | rfl
    · exact hsound.fits job hold
    · trivial
  ledger := hsound.ledger.begin
  counted := hsound.counted.begin
  informed := hsound.informed.begin hcontext

end Beginning

section Steps

variable {situation : Situation} {controller : Controller} {id : JobId}
  {after : Controller × List Action} {result : Except ClientError Unit}

/-- Nobody waits for a client while a job that does not has the lock, or could take it. -/
theorem Sound.rested (hsound : controller.Sound) {job : Job} (hopen : controller.Open id)
    (hjob : controller.job? id = some job) (hidle : job.stage.isBusy = false) :
    controller.Rested := by
  obtain ⟨hmem, rfl⟩ := mem_of_job? hjob
  apply hsound.ledger.rested
  intro other hother
  by_cases hid : other.id = job.id
  · rw [hsound.orderly.eq_of_id hmem hother hid]
    exact hidle
  · exact hsound.orderly.other_idle hopen hother hid

/-- What has recorded a generation restarts after a change. -/
theorem errand_of_recorded {job : Job} (hfits : job.Fits) {recorded : Nat}
    (hrecorded : job.stage.recorded? = some recorded) : job.errand = .settle := by
  cases hstage : job.stage with
  | settling generation wake =>
      simp only [Job.Fits, hstage] at hfits
      exact hfits
  | returning generation =>
      simp only [Job.Fits, hstage] at hfits
      exact hfits
  | arriving => simp [hstage, Stage.recorded?] at hrecorded
  | inLine => simp [hstage, Stage.recorded?] at hrecorded
  | closing client aftermath => simp [hstage, Stage.recorded?] at hrecorded
  | opening client => simp [hstage, Stage.recorded?] at hrecorded

theorem Sound.arrives (hsound : controller.Sound)
    (hafter : controller.step situation id = some after) :
    ∃ job, controller.job? id = some job ∧ Arrives situation controller job after := by
  refine step_arrives (fun job hopen hjob hidle => hsound.rested hopen hjob hidle) ?_ hafter
  intro job hjob hrecorded
  obtain ⟨recorded, hrecorded⟩ := Option.isSome_iff_exists.mp hrecorded
  have hmem := (mem_of_job? hjob).1
  have herrand := errand_of_recorded (hsound.fits job hmem) hrecorded
  exact ⟨herrand, hsound.informed (Or.inr ⟨job, hmem, Or.inr herrand⟩)⟩

theorem Sound.arrives_stopped (hsound : controller.Sound)
    (hafter : controller.clientStopped situation id result = some after) :
    ∃ job, controller.job? id = some job ∧ Arrives situation controller job after := by
  refine clientStopped_arrives ?_ hafter
  intro job client aftermath hjob hstage
  obtain ⟨hmem, rfl⟩ := mem_of_job? hjob
  have hbusy : job.stage.isBusy = true := by rw [hstage]; rfl
  exact ⟨hsound.orderly.holder_of_busy job hmem hbusy,
    (hsound.ledger.closing job hmem client aftermath hstage).1, hsound.fits job hmem,
    hsound.informed (Or.inr ⟨job, hmem, Or.inl hbusy⟩)⟩

theorem Sound.arrives_started (hsound : controller.Sound)
    (hafter : controller.clientStarted id result = some after) :
    ∃ job, controller.job? id = some job ∧ Arrives situation controller job after := by
  refine clientStarted_arrives ?_ hafter
  intro job client hjob hstage
  obtain ⟨hmem, rfl⟩ := mem_of_job? hjob
  have hbusy : job.stage.isBusy = true := by rw [hstage]; rfl
  exact ⟨hsound.orderly.holder_of_busy job hmem hbusy,
    (hsound.ledger.opening job hmem client hstage).1⟩

end Steps

end NplLifecycle.Controller
