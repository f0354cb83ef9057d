import NplLifecycle.Proofs.Controller.Burst
import NplLifecycle.Proofs.Lifecycle.Cycle

/-!
# Supersession

Any number of restarts after a change may wait out their pause at once.  Each has recorded the
generation at the end of its own stop, and at most one of them, the one that stopped last, finds
that generation again; all others are superseded.  So changes that come together are served by one
start.
-/

namespace NplLifecycle.Lifecycle

open Controller (Touches Errand)

/-- Does a move let a waiting job get on? -/
def wakes (lifecycle : Lifecycle) : Move → Bool
  | .task _ (.job id) => (lifecycle.controller.recorded? id).isSome
  | _ => false

/-- Does a move let a waiting job go on with a start? -/
def goesOn (lifecycle : Lifecycle) : Move → Bool
  | .task around (.job id) => (lifecycle.controller.job? id).any fun job =>
      lifecycle.controller.mayResume around.situation job &&
        job.stage.recorded? = some lifecycle.controller.generation
  | _ => false

/-- In a run a job ended its stop and began its pause: the lifecycle right after that, and the moves
made since. -/
def PausedAt (first : Lifecycle) (moves : List Move) (id : JobId) (rested : Lifecycle)
    (late : List Move) : Prop :=
  ∃ early around before past effects,
    moves = early ++ .task around (.job id) :: late ∧
    Run.follow next? first early = some (before, past) ∧
    before.next? (.task around (.job id)) = some (rested, effects) ∧
    before.controller.recorded? id = none ∧ .stopServer ∈ controls effects ∧
    rested.controller.recorded? id = some rested.controller.generation

section Pausing

variable {before after : Lifecycle} {move : Move} {moves : List Move} {effects : List Effect}
  {id : JobId} {recorded : Nat}

/-- A job that waits after a move has waited before, or it is at the end of its stop. -/
theorem Sound.recorded?_after (hsound : before.Sound)
    (hmove : before.next? move = some (after, effects))
    (hrecorded : after.controller.recorded? id = some recorded) :
    (before.controller.recorded? id = some recorded ∧
      (after.controller.generation = recorded ↔
        before.controller.generation = recorded ∧ ¬ Touches (entered effects))) ∨
    (∃ around, move = .task around (.job id) ∧ before.controller.recorded? id = none ∧
      after.controller.generation = recorded ∧ .stopServer ∈ controls effects ∧
      (before.controller.generation < after.controller.generation ∨
        ∃ job ∈ before.controller.jobs, job.stage.isBusy = true)) := by
  have hcontroller := hsound.controller
  rcases (advance_of_next? hcontroller hmove).shadow with ⟨hcontrols, hsame⟩ |
    ⟨hcontrols, errand, hbegun, -⟩ | ⟨around, job, rfl, hjob, harrives⟩
  · rw [hsame] at hrecorded ⊢
    rw [entered, hcontrols]
    exact Or.inl ⟨hrecorded, by simp⟩
  · rw [hbegun] at hrecorded ⊢
    rw [entered, hcontrols]
    have hold := hcontroller.orderly.recorded?_begin.mp hrecorded
    refine Or.inl ⟨hold, ?_⟩
    rw [show (before.controller.begin errand).1.generation = before.controller.generation from rfl]
    simp
  · rcases harrives.2.recorded?_after hcontroller.orderly hjob hrecorded with hold |
      ⟨rfl, hnone, hgeneration, hserver, -, -, hcause⟩
    · exact Or.inl ⟨hold, hcontroller.current_iff hjob hold harrives⟩
    · exact Or.inr ⟨around, rfl, hnone, hgeneration, hserver,
        hcause.imp_right fun hbusy => ⟨job, (Controller.mem_of_job? hjob).1, hbusy⟩⟩

/-- Who begins to wait leaves no recorded generation that is still current. -/
theorem Sound.recorded?_of_current (hsound : before.Sound)
    (hmove : before.next? move = some (after, effects))
    (hrecorded : before.controller.recorded? id = some recorded)
    (hcurrent : after.controller.generation = recorded) {other : JobId} {found : Nat}
    (hbefore : before.controller.generation = recorded)
    (hother : after.controller.recorded? other = some found) :
    before.controller.recorded? other = some found := by
  rcases hsound.recorded?_after hmove hother with ⟨hold, -⟩ | ⟨-, -, -, -, -, hcause⟩
  · exact hold
  · cases hcause with
    | inl hlt =>
        rw [hbefore, hcurrent] at hlt
        exact absurd hlt (Nat.lt_irrefl _)
    | inr hbusy =>
        have hlt := hsound.controller.recorded_lt (Or.inr hbusy) hrecorded
        rw [hbefore] at hlt
        exact absurd hlt (Nat.lt_irrefl _)

/-- Every waiting job has stopped the client, and nobody has started or stopped it since if and
only if the generation is the recorded one; then whoever else waits has waited already. -/
theorem pausedAt_of_run {first last : Lifecycle} (hfirst : first.Sound)
    (hnobody : ∀ id, first.controller.recorded? id = none)
    (hrun : Run.follow next? first moves = some (last, effects))
    (hrecorded : last.controller.recorded? id = some recorded) :
    ∃ rested late since, PausedAt first moves id rested late ∧
      Run.follow next? rested late = some (last, since) ∧
      rested.controller.generation = recorded ∧
      (last.controller.generation = recorded ↔ ¬ Touches (entered since)) ∧
      (last.controller.generation = recorded → ∀ other found,
        last.controller.recorded? other = some found →
        rested.controller.recorded? other = some found) := by
  have hholds := Run.follow_history_induction
    (fun done lifecycle past => lifecycle.Sound ∧
      Run.follow next? first done = some (lifecycle, past) ∧
      ∀ id recorded, lifecycle.controller.recorded? id = some recorded →
        ∃ rested late since, PausedAt first done id rested late ∧
          Run.follow next? rested late = some (lifecycle, since) ∧
          rested.controller.generation = recorded ∧
          (lifecycle.controller.generation = recorded ↔ ¬ Touches (entered since)) ∧
          (lifecycle.controller.generation = recorded → ∀ other found,
            lifecycle.controller.recorded? other = some found →
            rested.controller.recorded? other = some found))
    ⟨hfirst, rfl, fun id recorded h => absurd ((hnobody id).symm.trans h) (by simp)⟩ ?_ hrun
  · exact hholds.2.2 id recorded hrecorded
  rintro done before past move after effects - ⟨hsound, hdone, hwaiting⟩ hmove
  refine ⟨hsound.step hmove, Run.follow_append_eq_some.mpr
    ⟨before, past, effects, hdone, Run.follow_singleton hmove, rfl⟩, ?_⟩
  intro id recorded hrecorded
  rcases hsound.recorded?_after hmove hrecorded with ⟨hold, hcurrent⟩ |
    ⟨around, rfl, hnone, hgeneration, hserver, -⟩
  · obtain ⟨rested, late, since, ⟨early, around, stopped, early_past, stop, hmoves, hearly, hstop,
      hstopped⟩, hlate, hrested, huntouched, hothers⟩ := hwaiting id recorded hold
    refine ⟨rested, late ++ [move], since ++ effects,
      ⟨early, around, stopped, early_past, stop, by simp [hmoves], hearly, hstop, hstopped⟩,
      Run.follow_append_eq_some.mpr ⟨before, since, effects, hlate, Run.follow_singleton hmove,
        rfl⟩, hrested, ?_, ?_⟩
    · rw [hcurrent, huntouched, entered_append, Controller.touches_append, not_or]
    · intro hafter other found hother
      have hbefore := (hcurrent.mp hafter).1
      exact hothers hbefore other found
        (hsound.recorded?_of_current hmove hold hafter hbefore hother)
  · refine ⟨after, [], [], ⟨done, around, before, past, effects, rfl, hdone, hmove, hnone, hserver,
      ?_⟩, rfl, hgeneration, ?_, fun _ _ _ hother => hother⟩
    · rw [hrecorded, hgeneration]
    · simp [hgeneration]

/-- A waiting job gets on by the controller's step. -/
theorem next?_of_waiting {around : Surroundings} {job : Controller.Job}
    (hjob : before.controller.job? job.id = some job) (hwaits : job.stage.recorded?.isSome) :
    before.next? (.task around (.job job.id)) =
      (before.controller.step around.situation job.id).map (before.obey around) := by
  have hawaited : before.controller.awaited? job.id = none := by
    rw [Controller.awaited?, hjob, Option.bind_some]
    cases hstage : job.stage with
    | closing client aftermath => simp [hstage, Controller.Stage.recorded?] at hwaits
    | opening client => simp [hstage, Controller.Stage.recorded?] at hwaits
    | arriving => rfl
    | inLine => rfl
    | settling generation wake => rfl
    | returning generation => rfl
  simp only [next?, Lifecycle.step, stepJob, hawaited]

/-- What a waiting job does that gets the lock. -/
theorem Sound.next?_of_mayResume (hsound : before.Sound) {around : Surroundings}
    {job : Controller.Job} (hjob : before.controller.job? job.id = some job)
    (hrecorded : job.stage.recorded? = some recorded)
    (hmay : before.controller.mayResume around.situation job = true) :
    ∃ context, before.controller.context = some context ∧
      before.next? (.task around (.job job.id)) = some (before.obey around (
        if before.controller.generation = recorded then
          (before.controller.hold job.id).runStart around.situation job context
        else (before.controller.hold job.id).finish job.id .superseded)) := by
  obtain ⟨context, hcontext, hstep⟩ := hsound.controller.resume hjob hrecorded hmay
  refine ⟨context, hcontext, ?_⟩
  rw [next?_of_waiting hjob (by rw [hrecorded]; rfl), hstep, Option.map_some]

end Pausing

/-- Nothing has been announced to anybody who listens. -/
def Unheard (lifecycle : Lifecycle) : Prop :=
  ∀ entry ∈ lifecycle.listeners, entry.2 = .empty

def openings (effects : List Effect) : Nat :=
  (controls effects).countP Controller.Action.isOpening

/-- Changes come together.  Before the first, no restart waits, and nobody starts or stops the
client at somebody's wish, nor does anybody later.  The restarts gather until each of them has
stopped the client; none wakes before, and nothing is announced later; in the end all have ended. -/
structure Burst (first : Lifecycle) (gathering : List Move) (gathered : Lifecycle)
    (later : List Move) (last : Lifecycle) (since : List Effect) : Prop where
  unasked : first.controller.Unasked
  nobody : ∀ id, first.controller.recorded? id = none
  uncalled : ∀ errand, .call errand ∈ gathering ++ later → errand.isExplicit = false
  gather : ∃ effects, Run.follow next? first gathering = some (gathered, effects)
  asleep : Run.tally next? wakes first gathering = 0
  waiting : ∀ job ∈ gathered.controller.jobs, job.errand = .settle → job.stage.recorded?.isSome
  nonempty : ∃ job ∈ gathered.controller.jobs, job.errand = .settle
  follow : Run.follow next? gathered later = some (last, since)
  unannounced : ∀ capacity change, .announce capacity change ∉ later
  ended : ∀ job ∈ last.controller.jobs, job.errand ≠ .settle

section Bursting

variable {before after last : Lifecycle} {move : Move} {moves : List Move}
  {effects : List Effect}

theorem goesOn_eq (around : Surroundings) {job : Controller.Job}
    (hjob : before.controller.job? job.id = some job) :
    before.goesOn (.task around (.job job.id)) =
      (before.controller.mayResume around.situation job &&
        job.stage.recorded? = some before.controller.generation) := by
  simp [goesOn, hjob]

/-- Who goes on after a pause is woken. -/
theorem wakes_of_goesOn (hgoes : before.goesOn move = true) : before.wakes move = true := by
  cases move with
  | task around task =>
      cases task with
      | job id =>
          cases hjob : before.controller.job? id with
          | none => simp [goesOn, hjob] at hgoes
          | some job =>
              simp only [goesOn, hjob, Option.any_some, Bool.and_eq_true,
                decide_eq_true_eq] at hgoes
              simp [wakes, Controller.recorded?, hjob, hgoes.2]
      | session client task => exact absurd hgoes (by simp [goesOn])
      | listener client => exact absurd hgoes (by simp [goesOn])
  | call errand => exact absurd hgoes (by simp [goesOn])
  | announce capacity change => exact absurd hgoes (by simp [goesOn])
  | supply client asker result => exact absurd hgoes (by simp [goesOn])

/-- Before the first wakes up, one of the waiting is due. -/
structure Gathering (lifecycle : Lifecycle) : Prop where
  sound : lifecycle.Sound
  unasked : lifecycle.controller.Unasked
  due : ∀ id, (lifecycle.controller.recorded? id).isSome → lifecycle.controller.Due

theorem unasked_begin {controller : Controller} {errand : Errand}
    (hunasked : controller.Unasked) (herrand : errand.isExplicit = false) :
    (controller.begin errand).1.Unasked := by
  intro job hjob
  rcases Controller.mem_begin.mp hjob with hold | rfl
  · exact hunasked job hold
  · exact herrand

theorem due_begin {controller : Controller} (hsound : controller.Sound) {errand : Errand} :
    (controller.begin errand).1.Due ↔ controller.Due :=
  exists_congr fun _ => hsound.orderly.recorded?_begin

theorem isExplicit_of_begun {errand : Errand}
    (huncalled : ∀ errand, move = .call errand → errand.isExplicit = false)
    (hcause : move = .call errand ∨ errand = .settle) : errand.isExplicit = false := by
  rcases hcause with hcall | rfl
  · exact huncalled errand hcall
  · rfl

theorem Gathering.step (hgathering : before.Gathering)
    (hmove : before.next? move = some (after, effects))
    (huncalled : ∀ errand, move = .call errand → errand.isExplicit = false)
    (hasleep : before.wakes move = false) : after.Gathering := by
  obtain ⟨hsound, hunasked, hdue⟩ := hgathering
  have hafter := hsound.step hmove
  rcases (advance_of_next? hsound.controller hmove).shadow with ⟨-, hsame⟩ |
    ⟨-, errand, hbegun, hcause⟩ | ⟨around, job, rfl, hjob, harrives⟩
  · exact ⟨hafter, by rw [hsame]; exact hunasked, by rw [hsame]; exact hdue⟩
  · refine ⟨hafter, ?_, ?_⟩
    · rw [hbegun]
      exact unasked_begin hunasked (isExplicit_of_begun huncalled hcause)
    · intro id hsome
      rw [hbegun] at hsome ⊢
      obtain ⟨recorded, hrecorded⟩ := Option.isSome_iff_exists.mp hsome
      refine (due_begin hsound.controller).mpr (hdue id ?_)
      rw [hsound.controller.orderly.recorded?_begin.mp hrecorded]
      rfl
  · have hfirst : job.stage.recorded? = none := by
      simpa [wakes, Controller.recorded?, hjob] using hasleep
    exact ⟨hafter, harrives.2.unasked hsound.controller.orderly
        (Controller.mem_of_job? hjob).1 hunasked,
      harrives.2.gathered hsound.controller hjob hunasked hfirst hdue⟩

/-- After every restart has stopped the client, as long as nothing is announced. -/
structure Dispersing (lifecycle : Lifecycle) : Prop where
  sound : lifecycle.Sound
  unasked : lifecycle.controller.Unasked
  committed : lifecycle.controller.Committed
  unheard : lifecycle.Unheard

theorem committed_begin {controller : Controller} {errand : Errand}
    (hcommitted : controller.Committed) (herrand : errand ≠ .settle) :
    (controller.begin errand).1.Committed := by
  intro job hjob hsettle
  rcases Controller.mem_begin.mp hjob with hold | rfl
  · exact hcommitted job hold hsettle
  · exact absurd hsettle herrand

/-- What one move does once every restart has stopped the client: the restart that is due stays due
until it goes on, and only then a client can be made. -/
structure Disperses (before : Lifecycle) (move : Move) (after : Lifecycle)
    (effects : List Effect) : Prop where
  dispersing : after.Dispersing
  openings : openings effects ≤ if before.goesOn move then 1 else 0
  spends : before.goesOn move = true → before.controller.Due ∧ ¬ after.controller.Due
  keeps : before.goesOn move = false → (after.controller.Due ↔ before.controller.Due)

/-- A move that is no job's and leaves the generations alone. -/
theorem disperses_of_rest (hafter : after.Dispersing) (hcontrols : controls effects = [])
    (hgoes : before.goesOn move = false)
    (hdue : after.controller.Due ↔ before.controller.Due) :
    Disperses before move after effects where
  dispersing := hafter
  openings := by simp [openings, hcontrols]
  spends := fun h => absurd (hgoes.symm.trans h) (by simp)
  keeps := fun _ => hdue

theorem openings_eq (trace : List Effect) :
    openings trace = (Controller.outward (controls trace)).countP Controller.Action.isOpening := by
  rw [openings, Controller.outward, List.countP_filter]
  refine List.countP_congr fun action _ => ?_
  cases action <;> simp [Controller.Action.isOpening]

/-- A waiting job that does not get the lock does nothing but get in line. -/
theorem waits_of_not_mayResume {around : Surroundings} {job : Controller.Job} {recorded : Nat}
    (hjob : before.controller.job? job.id = some job)
    (hrecorded : job.stage.recorded? = some recorded)
    (hmay : before.controller.mayResume around.situation job = false)
    (hmove : before.next? (.task around (.job job.id)) = some (after, effects)) :
    after.controller = { before.controller with
        line := before.controller.line ++ [job.id] }.moveJob job.id (.returning recorded) ∧
      controls effects = [] := by
  rw [next?_of_waiting hjob (by rw [hrecorded]; rfl)] at hmove
  obtain ⟨result, hstep, hobey⟩ := Option.map_eq_some_iff.mp hmove
  rw [Controller.step_of_not_mayResume hjob hrecorded hmay hstep] at hobey
  simp only [obey, performAll, Prod.mk.injEq] at hobey
  obtain ⟨rfl, rfl⟩ := hobey
  exact ⟨rfl, rfl⟩

theorem Unheard.handover {situation : Controller.Situation} {controller : Controller}
    {job : Controller.Job} {listeners rest : List (ClientId × Inbox)}
    (hunheard : ∀ entry ∈ listeners, entry.2 = .empty)
    (hhandover : Handover situation controller job listeners after.controller rest) :
    ∀ entry ∈ rest, entry.2 = .empty := by
  cases hhandover with
  | keep hkeeps halarmed => exact hunheard
  | drop hkeeps => exact fun entry hentry => absurd hentry List.not_mem_nil
  | renew workspace hkeeps hfound hfolder =>
      intro entry hentry
      rw [List.mem_singleton.mp hentry]

section Turning

variable {around : Surroundings} {job : Controller.Job}

/-- Who is due and does not go on has not got the lock. -/
theorem waits_of_not_goesOn (hjob : before.controller.job? job.id = some job)
    (hgoes : before.goesOn (.task around (.job job.id)) = false)
    (hcurrent : job.stage.recorded? = some before.controller.generation)
    (hmove : before.next? (.task around (.job job.id)) = some (after, effects)) :
    after.controller = { before.controller with
        line := before.controller.line ++ [job.id] }.moveJob job.id
          (.returning before.controller.generation) ∧ controls effects = [] := by
  refine waits_of_not_mayResume hjob hcurrent ?_ hmove
  simpa [goesOn_eq around hjob, hcurrent] using hgoes

/-- When the job that is due has gone on, no other is due. -/
theorem Dispersing.not_due_of_goesOn (hdispersing : before.Dispersing)
    (hjob : before.controller.job? job.id = some job)
    (harrives : Controller.Arrives around.situation before.controller job
      (after.controller, controls effects))
    (hgoes : before.goesOn (.task around (.job job.id)) = true) :
    before.controller.Due ∧ ¬ after.controller.Due := by
  have hcontroller := hdispersing.sound.controller
  rw [goesOn_eq around hjob, Bool.and_eq_true, decide_eq_true_eq] at hgoes
  obtain ⟨hmay, hcurrent⟩ := hgoes
  have hdue : before.controller.recorded? job.id = some before.controller.generation := by
    rw [Controller.recorded?, hjob]
    exact hcurrent
  refine ⟨⟨job.id, hdue⟩, ?_⟩
  rintro ⟨id, hlater⟩
  obtain ⟨hold, hgeneration⟩ := Controller.Turn.due_before harrives hcontroller hjob
    hdispersing.committed hlater rfl
  rw [← hgeneration] at hold
  rw [hcontroller.recorded_injective hold hdue,
    harrives.2.recorded?_of_mayResume hcontroller hjob (by rw [hcurrent]; rfl) hmay] at hlater
  exact absurd hlater (by simp)

/-- As long as no job goes on, whoever is due stays so. -/
theorem Dispersing.due_iff_of_not_goesOn (hdispersing : before.Dispersing)
    (hjob : before.controller.job? job.id = some job)
    (harrives : Controller.Arrives around.situation before.controller job
      (after.controller, controls effects))
    (hmove : before.next? (.task around (.job job.id)) = some (after, effects))
    (hgoes : before.goesOn (.task around (.job job.id)) = false) :
    after.controller.Due ↔ before.controller.Due := by
  have hmem := (Controller.mem_of_job? hjob).1
  have hcontroller := hdispersing.sound.controller
  constructor
  · rintro ⟨id, hlater⟩
    obtain ⟨hold, hgeneration⟩ := Controller.Turn.due_before harrives hcontroller hjob
      hdispersing.committed hlater rfl
    exact ⟨id, by rw [hold, hgeneration]⟩
  · rintro ⟨id, hdue⟩
    by_cases hid : id = job.id
    · have hcurrent : job.stage.recorded? = some before.controller.generation := by
        rw [hid, Controller.recorded?, hjob] at hdue
        exact hdue
      have hwaiting := (waits_of_not_goesOn hjob hgoes hcurrent hmove).1
      refine ⟨job.id, ?_⟩
      refine (hdispersing.sound.step hmove).controller.orderly.recorded?_eq_some.mpr
        ⟨{ job with stage := .returning before.controller.generation }, ?_, rfl, ?_⟩
      · rw [hwaiting]
        exact Controller.mem_moveJob_self hmem
      · rw [hwaiting]
        rfl
    · exact harrives.2.due_of_other hcontroller hjob hdue hid (hdispersing.unasked job hmem)

/-- Only the job that goes on makes a client. -/
theorem Dispersing.openings_le (hdispersing : before.Dispersing)
    (hjob : before.controller.job? job.id = some job)
    (harrives : Controller.Arrives around.situation before.controller job
      (after.controller, controls effects))
    (hmove : before.next? (.task around (.job job.id)) = some (after, effects)) :
    openings effects ≤ if before.goesOn (.task around (.job job.id)) then 1 else 0 := by
  rw [openings_eq]
  rcases harrives.2.openings_of_committed hdispersing.sound.controller hjob hdispersing.unasked
    hdispersing.committed with hnone | ⟨hone, hcurrent⟩
  · simp only at hnone
    rw [hnone]
    exact Nat.zero_le _
  · cases hcase : before.goesOn (.task around (.job job.id)) with
    | true =>
        rw [if_pos rfl]
        exact Nat.le_of_eq hone
    | false =>
        rw [(waits_of_not_goesOn hjob hcase hcurrent hmove).2] at hone
        exact absurd hone (by simp)

theorem Dispersing.disperses_of_turn (hdispersing : before.Dispersing)
    (hjob : before.controller.job? job.id = some job)
    (harrives : Controller.Arrives around.situation before.controller job
      (after.controller, controls effects))
    (hlisteners : after.listeners =
      (Controller.outward (controls effects)).foldl attend before.listeners)
    (hmove : before.next? (.task around (.job job.id)) = some (after, effects)) :
    Disperses before (.task around (.job job.id)) after effects where
  dispersing := by
    obtain ⟨hsound, hunasked, hcommitted, hunheard⟩ := hdispersing
    have hmem := (Controller.mem_of_job? hjob).1
    refine ⟨hsound.step hmove, harrives.2.unasked hsound.controller.orderly hmem hunasked,
      harrives.2.committed hsound.controller hjob hunasked hcommitted, ?_⟩
    rw [Unheard, hlisteners]
    exact Unheard.handover hunheard
      (handover_of_turn hsound.controller hsound.attended hjob harrives.2)
  openings := hdispersing.openings_le hjob harrives hmove
  spends := hdispersing.not_due_of_goesOn hjob harrives
  keeps := hdispersing.due_iff_of_not_goesOn hjob harrives hmove

end Turning

theorem not_goesOn_of_awaited
    (hawaits : ∀ around id, move = .task around (.job id) →
      (before.controller.awaited? id).isSome) : before.goesOn move = false := by
  by_contra hgoes
  have hwakes := wakes_of_goesOn (by simpa using hgoes)
  cases move with
  | task around task =>
      cases task with
      | job id =>
          have hawaited := hawaits around id rfl
          cases hjob : before.controller.job? id with
          | none => simp [Controller.awaited?, hjob] at hawaited
          | some job =>
              simp only [wakes, Controller.recorded?, hjob, Option.bind_some] at hwakes
              cases hstage : job.stage <;>
                simp_all [Controller.awaited?, Controller.Stage.recorded?]
      | session client task => exact absurd hwakes (by simp [wakes])
      | listener client => exact absurd hwakes (by simp [wakes])
  | call errand => exact absurd hwakes (by simp [wakes])
  | announce capacity change => exact absurd hwakes (by simp [wakes])
  | supply client asker result => exact absurd hwakes (by simp [wakes])

theorem Dispersing.disperses (hdispersing : before.Dispersing)
    (hmove : before.next? move = some (after, effects))
    (huncalled : ∀ errand, move = .call errand → errand.isExplicit = false)
    (hunannounced : ∀ capacity change, move ≠ .announce capacity change) :
    Disperses before move after effects := by
  have hafter := hdispersing.sound.step hmove
  cases advance_of_next? hdispersing.sound.controller hmove with
  | rest hawaits hcontroller hlisteners hcontrols =>
      refine disperses_of_rest ⟨hafter, ?_, ?_, ?_⟩ hcontrols (not_goesOn_of_awaited hawaits)
        (by rw [hcontroller])
      · rw [hcontroller]
        exact hdispersing.unasked
      · rw [hcontroller]
        exact hdispersing.committed
      · rw [Unheard, hlisteners]
        exact hdispersing.unheard
  | @call errand herrand =>
      exact disperses_of_rest ⟨hafter, unasked_begin hdispersing.unasked (huncalled errand rfl),
        committed_begin hdispersing.committed herrand, hdispersing.unheard⟩ rfl rfl
        (due_begin hdispersing.sound.controller)
  | announce => exact absurd rfl (hunannounced _ _)
  | @turn around id job _ _ hjob harrives hlisteners =>
      obtain ⟨-, rfl⟩ := Controller.mem_of_job? hjob
      exact hdispersing.disperses_of_turn hjob harrives hlisteners hmove
  | @read _ client inbox rest reading hinbox hnext =>
      have hempty : inbox = .empty := hdispersing.unheard _ (mem_of_lookup hinbox)
      rw [hempty] at hnext
      exact absurd hnext (by simp [Inbox.next?, Inbox.empty])
  | hush hclosed hinbox hnext =>
      refine disperses_of_rest ⟨hafter, hdispersing.unasked, hdispersing.committed, ?_⟩ rfl rfl
        Iff.rfl
      intro entry hentry
      exact hdispersing.unheard entry (List.mem_filter.mp hentry).1

/-- Once every restart has stopped the client, there is one more start if one is due, and none
otherwise. -/
theorem Dispersing.tally_of_run (hdispersing : before.Dispersing)
    (huncalled : ∀ errand, .call errand ∈ moves → errand.isExplicit = false)
    (hunannounced : ∀ capacity change, .announce capacity change ∉ moves)
    (hrun : Run.follow next? before moves = some (last, effects))
    (hended : ¬ last.controller.Due) :
    (before.controller.Due → Run.tally next? goesOn before moves = 1) ∧
      (¬ before.controller.Due → Run.tally next? goesOn before moves = 0) ∧
      openings effects ≤ Run.tally next? goesOn before moves := by
  induction moves generalizing before effects with
  | nil =>
      simp only [Run.follow, Option.some.injEq, Prod.mk.injEq] at hrun
      obtain ⟨rfl, rfl⟩ := hrun
      exact ⟨fun hdue => absurd hdue hended, fun _ => rfl, Nat.le_refl _⟩
  | cons move rest ih =>
      obtain ⟨middle, here, more, hmove, hrest, rfl⟩ := Run.follow_cons_eq_some.mp hrun
      have hstep := hdispersing.disperses hmove
        (fun errand hsame => huncalled errand (by simp [hsame]))
        (fun capacity change hsame => hunannounced capacity change (by simp [hsame]))
      obtain ⟨hdue, hspent, hopenings⟩ := ih hstep.dispersing
        (fun errand hmem => huncalled errand (List.mem_cons_of_mem _ hmem))
        (fun capacity change hmem => hunannounced capacity change (List.mem_cons_of_mem _ hmem))
        hrest
      have hsum : openings (here ++ more) = openings here + openings more := by
        rw [openings, controls_append, List.countP_append]
        rfl
      have hhere := hstep.openings
      rw [Run.tally_cons hmove, hsum]
      cases hgoes : before.goesOn move with
      | true =>
          obtain ⟨hbefore, hafter⟩ := hstep.spends hgoes
          rw [if_pos hgoes] at hhere
          rw [if_pos rfl, hspent hafter]
          rw [hspent hafter] at hopenings
          exact ⟨fun _ => rfl, fun h => absurd hbefore h, by omega⟩
      | false =>
          have hsame := hstep.keeps hgoes
          rw [if_neg (by simp [hgoes])] at hhere
          rw [if_neg (by simp), Nat.zero_add]
          exact ⟨fun h => hdue (hsame.mpr h), fun h => hspent (fun h' => h (hsame.mp h')),
            by omega⟩

theorem Gathering.of_run (hgathering : before.Gathering)
    (huncalled : ∀ errand, .call errand ∈ moves → errand.isExplicit = false)
    (hasleep : Run.tally next? wakes before moves = 0)
    (hrun : Run.follow next? before moves = some (last, effects)) :
    last.Gathering ∧ Run.tally next? goesOn before moves = 0 := by
  induction moves generalizing before effects with
  | nil =>
      simp only [Run.follow, Option.some.injEq, Prod.mk.injEq] at hrun
      obtain ⟨rfl, rfl⟩ := hrun
      exact ⟨hgathering, rfl⟩
  | cons move rest ih =>
      obtain ⟨middle, here, more, hmove, hrest, rfl⟩ := Run.follow_cons_eq_some.mp hrun
      rw [Run.tally_cons hmove] at hasleep ⊢
      have hquiet : before.wakes move = false := by
        by_contra hwakes
        rw [if_pos (by simpa using hwakes)] at hasleep
        omega
      have hnot : before.goesOn move = false := by
        by_contra hgoes
        rw [wakes_of_goesOn (by simpa using hgoes)] at hquiet
        exact absurd hquiet (by simp)
      have hmiddle := hgathering.step hmove
        (fun errand hsame => huncalled errand (by simp [hsame])) hquiet
      obtain ⟨hlast, htally⟩ := ih hmiddle
        (fun errand hmem => huncalled errand (List.mem_cons_of_mem _ hmem)) (by omega) hrest
      rw [hnot, htally]
      exact ⟨hlast, rfl⟩

/-- Changes that come together are served by one start. -/
theorem Sound.tally_of_burst {first gathered : Lifecycle} (hsound : first.Sound)
    {gathering later : List Move} {since : List Effect}
    (hburst : Burst first gathering gathered later last since) :
    Run.tally next? goesOn first (gathering ++ later) = 1 ∧ openings since ≤ 1 := by
  obtain ⟨effects, hgather⟩ := hburst.gather
  have hfirst : first.Gathering := ⟨hsound, hburst.unasked, fun id hsome => by
    rw [hburst.nobody id] at hsome
    exact absurd hsome (by simp)⟩
  obtain ⟨hgathered, hnone⟩ := hfirst.of_run
    (fun errand hmem => hburst.uncalled errand (List.mem_append_left _ hmem)) hburst.asleep
    hgather
  have hdue : gathered.controller.Due := by
    obtain ⟨job, hmem, herrand⟩ := hburst.nonempty
    apply hgathered.due job.id
    rw [Controller.recorded?, hgathered.sound.controller.orderly.job?_of_mem hmem]
    exact hburst.waiting job hmem herrand
  have hdispersing : gathered.Dispersing := by
    refine ⟨hgathered.sound, hgathered.unasked,
      fun job hmem herrand => Or.inl (hburst.waiting job hmem herrand), ?_⟩
    obtain ⟨id, hcurrent⟩ := hdue
    have hvacant := hgathered.sound.controller.vacant_of_current hcurrent
    have hnobody := eq_nil_of_attended hgathered.sound.attended
      fun _ => hgathered.sound.controller.not_keeps (Or.inl hvacant)
    intro entry hentry
    rw [hnobody] at hentry
    exact absurd hentry List.not_mem_nil
  have hended : ¬ last.controller.Due := by
    rintro ⟨id, hrecorded⟩
    have hlast := hgathered.sound.run hburst.follow
    obtain ⟨job, hmem, -, hstage⟩ :=
      hlast.controller.orderly.recorded?_eq_some.mp hrecorded
    exact hburst.ended job hmem
      (Controller.errand_of_recorded (hlast.controller.fits job hmem) hstage)
  obtain ⟨hone, -, hopenings⟩ := hdispersing.tally_of_run
    (fun errand hmem => hburst.uncalled errand (List.mem_append_right _ hmem))
    hburst.unannounced hburst.follow hended
  rw [hone hdue] at hopenings
  rw [Run.tally_append hgather, hnone, hone hdue]
  exact ⟨rfl, hopenings⟩

end Bursting

/-- What holds of waiting restarts in every run.  Their recorded generations are different, and none
is ahead; the generation is still a recorded one exactly if nobody has started or stopped the client
since, and then that job was the last to stop; with the lock a job goes on exactly if it is, and
finds nothing to replace; and a burst of changes is served by one start. -/
theorem supersession_of_run (options : Controller.Options) {moves : List Move} {last : Lifecycle}
    {effects : List Effect}
    (hrun : Run.follow next? (idle options) moves = some (last, effects)) :
    (∀ id recorded, last.controller.recorded? id = some recorded →
      recorded ≤ last.controller.generation ∧
      (∀ other, last.controller.recorded? other = some recorded → id = other) ∧
      ∃ rested late since, PausedAt (idle options) moves id rested late ∧
        Run.follow next? rested late = some (last, since) ∧
        rested.controller.generation = recorded ∧
        (last.controller.generation = recorded ↔ ¬ Touches (entered since)) ∧
        (last.controller.generation = recorded → ∀ other found,
          last.controller.recorded? other = some found →
          rested.controller.recorded? other = some found)) ∧
    (∀ around job recorded, last.controller.job? job.id = some job →
      job.stage.recorded? = some recorded →
      last.controller.mayResume around.situation job = true →
      ∃ context, last.controller.context = some context ∧
        last.next? (.task around (.job job.id)) = some (last.obey around (
          if last.controller.generation = recorded then
            (last.controller.hold job.id).runStart around.situation job context
          else (last.controller.hold job.id).finish job.id .superseded))) ∧
    (∀ id, last.controller.recorded? id = some last.controller.generation →
      last.controller.Vacant .idle) ∧
    (∀ gathering gathered later final since, Burst last gathering gathered later final since →
      Run.tally next? goesOn last (gathering ++ later) = 1 ∧ openings since ≤ 1) := by
  have hsound := (sound_idle options).run hrun
  refine ⟨?_, ?_, ?_, ?_⟩
  · intro id recorded hrecorded
    exact ⟨hsound.controller.recorded_le hrecorded,
      fun other hother => hsound.controller.recorded_injective hrecorded hother,
      pausedAt_of_run (sound_idle options) (fun _ => rfl) hrun hrecorded⟩
  · intro around job recorded hjob hrecorded hmay
    exact hsound.next?_of_mayResume hjob hrecorded hmay
  · intro id hcurrent
    exact hsound.controller.vacant_of_current hcurrent
  · intro gathering gathered later final since hburst
    exact hsound.tally_of_burst hburst

/-- Two changes that come while a client runs: two restarts stop it and wait. -/
def practiceGathering : List Move :=
  let quiet := practiceSurroundings {} 0 none
  let agreed := practiceSurroundings {} 0 (some (.bytes (Frame.encode
    "\x7b\"jsonrpc\":\"2.0\",\"id\":2,\"result\":null\x7d")))
  let change : Move := .announce 16 ⟨["NPL.sources"]⟩
  [change, .task quiet (.listener 0), change, .task quiet (.listener 0), .task quiet (.job 1),
    .task quiet (.job 2), .task agreed (.session 0 (.reader 1)),
    .task quiet (.session 0 (.reader 1)), .task quiet (.job 1), .task quiet (.job 1),
    .task quiet (.job 2)]

/-- When the pause is over, one restart is superseded, and the other starts the second client. -/
def practiceWaking : List Move :=
  let late := practiceSurroundings {} 500 none
  [.task late (.job 1), .task late (.job 2)] ++ practiceGreeting {} 1 ++
    [.task late (.job 2), .task late (.job 2)]

set_option maxRecDepth 100000 in
theorem practiceGathering_jobs :
    (practiceRun.bind fun (first, _) =>
      (Run.follow next? first practiceGathering).bind fun (gathered, _) =>
        (Run.follow next? gathered practiceWaking).map fun (last, _) =>
          (first.controller.jobs, Run.tally next? wakes first practiceGathering,
            gathered.controller.jobs, gathered.controller.generation,
            last.controller.jobs)) =
      some ([], 0, [⟨1, .settle, .settling 2 500⟩, ⟨2, .settle, .settling 3 500⟩], 3, []) := by
  decide +kernel

/-- The two changes are a burst. -/
theorem practiceBurst : ∃ first effects gathered past last since,
    practiceRun = some (first, effects) ∧
    Run.follow next? first practiceGathering = some (gathered, past) ∧
    gathered.controller.recorded? 1 = some 2 ∧ gathered.controller.recorded? 2 = some 3 ∧
    gathered.controller.generation = 3 ∧
    Burst first practiceGathering gathered practiceWaking last since := by
  obtain ⟨⟨first, effects⟩, hfirst, h⟩ := Option.bind_eq_some_iff.mp practiceGathering_jobs
  obtain ⟨⟨gathered, past⟩, hgathered, h⟩ := Option.bind_eq_some_iff.mp h
  obtain ⟨⟨last, since⟩, hlast, h⟩ := Option.map_eq_some_iff.mp h
  simp only [Prod.mk.injEq] at h
  obtain ⟨hjobs, hasleep, hwaiting, hgeneration, hended⟩ := h
  refine ⟨first, effects, gathered, past, last, since, hfirst, hgathered, ?_, ?_, hgeneration, ?_⟩
  · rw [Controller.recorded?, Controller.job?, hwaiting]
    rfl
  · rw [Controller.recorded?, Controller.job?, hwaiting]
    rfl
  · constructor
    · rw [Controller.Unasked, hjobs]
      exact fun job hmem => absurd hmem List.not_mem_nil
    · intro id
      rw [Controller.recorded?, Controller.job?, hjobs]
      rfl
    · simp [practiceGathering, practiceWaking, practiceGreeting]
    · exact ⟨past, hgathered⟩
    · exact hasleep
    · rw [hwaiting]
      simp [Controller.Stage.recorded?]
    · rw [hwaiting]
      exact ⟨_, List.mem_cons_self .., rfl⟩
    · exact hlast
    · simp [practiceWaking, practiceGreeting]
    · rw [hended]
      exact fun job hmem => absurd hmem List.not_mem_nil

theorem supersession_of_practiceBurst : ∃ first effects gathered past,
    practiceRun = some (first, effects) ∧
    Run.follow next? first practiceGathering = some (gathered, past) ∧
    Run.tally next? goesOn first (practiceGathering ++ practiceWaking) = 1 ∧
    gathered.controller.Vacant .idle ∧
    ∃ rested late since,
      PausedAt (idle ⟨500, 3⟩) (practiceStart ++ practiceGathering) 1 rested late ∧
      Run.follow next? rested late = some (gathered, since) ∧ Touches (entered since) := by
  obtain ⟨first, effects, gathered, past, last, since, hfirst, hgathered, hone, htwo,
    hgeneration, hburst⟩ := practiceBurst
  have hrun : Run.follow next? (idle ⟨500, 3⟩) (practiceStart ++ practiceGathering) =
      some (gathered, effects ++ past) :=
    Run.follow_append_eq_some.mpr ⟨first, effects, past, hfirst, hgathered, rfl⟩
  obtain ⟨-, -, -, hbursts⟩ := supersession_of_run ⟨500, 3⟩ hfirst
  obtain ⟨hwaiting, -, hvacant, -⟩ := supersession_of_run ⟨500, 3⟩ hrun
  obtain ⟨-, -, rested, late, since', hpaused, hlate, -, huntouched, -⟩ := hwaiting 1 2 hone
  refine ⟨first, effects, gathered, past, hfirst, hgathered, (hbursts _ _ _ _ _ hburst).1,
    hvacant 2 (by rw [htwo, hgeneration]), rested, late, since', hpaused, hlate, ?_⟩
  by_contra hnot
  have hsame := huntouched.mpr hnot
  rw [hgeneration] at hsame
  exact absurd hsame (by decide)

end NplLifecycle.Lifecycle
