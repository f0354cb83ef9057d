import NplLifecycle.Proofs.Controller.Starting
import NplLifecycle.Proofs.Lifecycle.Succession

/-!
# Starts that fail

A start fails because there is no root, because the settings cannot be read, or because its client
does not start.  In the first case it has touched nothing.  In the others it is remembered, and when
it returns nothing runs: the client that it found was stopped, and the server after it, and behind
every connection that was asked for the server was stopped again.
-/

namespace NplLifecycle.Lifecycle

open Controller (Action Progress dismissal deeds)

/-- Whatever failure is reported of a start has arisen in a session. -/
structure Candid (lifecycle : Lifecycle) : Prop where
  session : ∀ client session, lifecycle.sessions.lookup client = some session → session.Candid
  report : ∀ client failure, (client, .started (.error failure)) ∈ lifecycle.reports →
    failure.arisesInSession = true

/-- A client was told to stop, and whatever is reported of its stop was said after that. -/
def Dismissing (lifecycle : Lifecycle) (client : ClientId) (trace : List Effect) : Prop :=
  ∃ early wait, trace = early ++ .control (.closeClient client) :: wait ∧
    ∀ result, (client, .stopped result) ∈ lifecycle.reports →
      .session client (.stopped result) ∈ wait

/-- A client was told to stop, its stop ended, and then the server was stopped. -/
def Dismissed (client : ClientId) (trace : List Effect) : Prop :=
  ∃ early wait late result, trace =
      early ++ .control (.closeClient client) :: (wait ++ .control .stopServer :: late) ∧
    .session client (.stopped result) ∈ wait

/-- A start that failed has touched nothing, and all that has happened since it got the lock is that
it said so. -/
structure Untouched (begun : Lifecycle) (id : JobId) (after : Lifecycle)
    (trace : List Effect) : Prop where
  client : after.controller.client = begun.controller.client
  subscription : after.controller.subscription = begun.controller.subscription
  context : after.controller.context = begun.controller.context
  generation : after.controller.generation = begun.controller.generation
  state : after.controller.state = begun.controller.state
  sessions : after.sessions = begun.sessions
  listeners : after.listeners = begun.listeners
  trace : trace = [.control (.finish id (.done (.error .noWorkspace)))]

/-- A start that failed is remembered, and nothing is left of what it did, nor of the client that it
found. -/
structure Undone (begun : Lifecycle) (id : JobId) (context : ActivationContext)
    (failure : ClientError) (after : Lifecycle) (trace : List Effect) : Prop where
  /-- The controller is idle, and has neither a client nor a listener. -/
  vacant : after.controller.Vacant .idle
  unheard : after.listeners = []
  remembered : after.controller.context = some context
  grown : begun.controller.generation < after.controller.generation
  /-- Whoever waits for the settings to settle will not find its generation again. -/
  cancelled : after.controller.Past
  /-- The calls of clients and of the server since the start got the lock. -/
  deeds : (∃ cause, failure = .settings cause ∧ deeds (controls trace) =
      dismissal begun.controller.client ++ [.finish id (.done (.error failure))]) ∨
    (failure.arisesInSession = true ∧ ∃ client : Controller.Client, deeds (controls trace) =
      dismissal begun.controller.client ++ [.openClient client context, .dropClient client.id,
        .stopServer, .finish id (.done (.error failure))])
  /-- The client that the start found has ended its stop, and then the server was stopped. -/
  dismissed : ∀ client, begun.controller.client = some client → Dismissed client.id trace
  /-- Behind every wish for a connection the server was stopped. -/
  released : Released trace

/-- Where a start has got to since it got the lock, with all that has happened since then, and how
it ended if it has. -/
structure Reached (begun : Lifecycle) (id : JobId) (context : ActivationContext) (now : Lifecycle)
    (trace : List Effect) (verdict : Option (Except ClientError Unit)) : Prop where
  progress : begun.controller.Progress id context now.controller (controls trace) verdict
  untouched : verdict = some (.error .noWorkspace) → Untouched begun id now trace
  dismissal : verdict ≠ some (.error .noWorkspace) → ∀ client,
    begun.controller.client = some client → Dismissed client.id trace ∨
      (now.Dismissing client.id trace ∧ ∃ job ∈ now.controller.jobs, job.id = id ∧
        ∃ aftermath, job.stage = .closing client.id aftermath)

/-- A start in a run: the lifecycle in which it gets the lock, and what has happened since then. -/
structure StartedAt (options : Controller.Options) (moves : List Move) (id : JobId)
    (context : ActivationContext) (begun now : Lifecycle) (trace : List Effect) : Prop where
  run : ∃ history around waited past, moves = history ++ .task around (.job id) :: waited ∧
    Run.follow next? (idle options) history = some (begun, past) ∧
    Run.follow next? begun (.task around (.job id) :: waited) = some (now, trace)
  /-- It was called for, and has not worked yet. -/
  called : ∃ job ∈ begun.controller.jobs, job.id = id ∧ job.errand = .start context ∧
    job.stage.isNew = true
  isOpen : begun.controller.Open id

section Blaming

variable {before after : Lifecycle} {move : Move} {moves : List Move} {effects : List Effect}
  {client : ClientId} {dealt : List Session.Effect}

theorem eq_started_of_reportOf? {effect : Session.Effect} {failure : ClientError}
    (hreport : reportOf? effect = some (.started (.error failure))) :
    effect = .started (.error failure) := by
  cases effect with
  | started result =>
      cases result with
      | ok welcome => simp [reportOf?, Except.map] at hreport
      | error fault => simpa [reportOf?, Except.map] using hreport
  | stopped result => simp [reportOf?] at hreport
  | connect asker => simp [reportOf?] at hreport
  | write connection message => simp [reportOf?] at hreport
  | hangUp connection => simp [reportOf?] at hreport
  | take connection => simp [reportOf?] at hreport
  | consult event decision => simp [reportOf?] at hreport
  | log line => simp [reportOf?] at hreport

/-- Whatever a move does to a session leaves it candid, and what it says of a start has arisen in
it. -/
theorem Candid.deals (hcandid : before.Candid) (hdeals : Deals before after client dealt) :
    (∀ session, after.sessions.lookup client = some session → session.Candid) ∧
      ∀ failure, .started (.error failure) ∈ dealt → failure.arisesInSession = true := by
  have hconfides {outcome : Session × List Session.Effect} (hconfides : Session.Confides outcome)
      (hafter : after.sessions.lookup client = some outcome.1) :
      (∀ session, after.sessions.lookup client = some session → session.Candid) ∧
        ∀ failure, .started (.error failure) ∈ outcome.2 → failure.arisesInSession = true := by
    refine ⟨fun session hsession => ?_, hconfides.told⟩
    rw [← Option.some.inj (hafter.symm.trans hsession)]
    exact hconfides.candid
  cases hdeals with
  | keep hsession htakes hlets =>
      exact ⟨fun session hlookup => hcandid.session client session (hsession ▸ hlookup),
        fun _ hmem => absurd hmem List.not_mem_nil⟩
  | evolve hsession hevolves hcontroller hafter =>
      exact hconfides (hevolves.confides (hcandid.session client _ hsession)) hafter
  | close hsession hclient hengages hafter =>
      exact hconfides (Session.confides_beginStop (hcandid.session client _ hsession)) hafter
  | drop hsession hengages hidle hafter =>
      exact hconfides (Session.confides_abandon (hcandid.session client _ hsession)) hafter
  | @make profile hnew hengages hafter =>
      exact hconfides (Session.confides_beginStart profile) hafter

theorem Candid.step (hcandid : before.Candid) (hsound : before.Sound) (htidy : before.Tidy)
    (hmove : before.next? move = some (after, effects)) : after.Candid where
  session := fun client =>
    (hcandid.deals (deals_of_next? htidy hsound.controller hmove client)).1
  report := by
    intro client failure hmem
    rcases reporting_of_next? hsound.controller hmove client _ hmem with
      hold | ⟨effect, heffect, hreport⟩
    · exact hcandid.report client failure hold
    · rw [eq_started_of_reportOf? hreport] at heffect
      exact (hcandid.deals (deals_of_next? htidy hsound.controller hmove client)).2 failure heffect

theorem candid_of_run (options : Controller.Options)
    (hrun : Run.follow next? (idle options) moves = some (after, effects)) : after.Candid := by
  have hholds := Run.follow_induction
    (fun lifecycle _ => lifecycle.Sound ∧ lifecycle.Tidy ∧ lifecycle.Candid)
    ⟨sound_idle options, tidy_idle options, ⟨by simp [idle], by simp [idle]⟩⟩ ?_ hrun
  · exact hholds.2.2
  · rintro before - move after effects - ⟨hsound, htidy, hcandid⟩ hmove
    exact ⟨hsound.step hmove, htidy.step hsound.controller hmove, hcandid.step hsound htidy hmove⟩

end Blaming

section Dismissals

variable {before after : Lifecycle} {move : Move} {trace effects : List Effect} {client : ClientId}

theorem Dismissed.append (hdismissed : Dismissed client trace) (effects : List Effect) :
    Dismissed client (trace ++ effects) := by
  obtain ⟨early, wait, late, result, rfl, hsaid⟩ := hdismissed
  exact ⟨early, wait, late ++ effects, result, by simp, hsaid⟩

theorem Dismissing.step (hdismissing : before.Dismissing client trace)
    (hreporting : Reporting before (after, effects)) :
    after.Dismissing client (trace ++ effects) := by
  obtain ⟨early, wait, rfl, hsaid⟩ := hdismissing
  refine ⟨early, wait ++ effects, by simp, fun result hmem => ?_⟩
  rcases hreporting client _ hmem with hold | ⟨effect, heffect, hreport⟩
  · exact List.mem_append_left _ (hsaid result hold)
  · rw [isStopped_of_reportOf? hreport, mem_dealings] at heffect
    exact List.mem_append_right _ heffect

theorem Dismissing.done (hdismissing : before.Dismissing client trace)
    (hstopped : before.Stopped client) (rest : List Effect) :
    Dismissed client (trace ++ .control .stopServer :: rest) := by
  obtain ⟨early, wait, rfl, hsaid⟩ := hdismissing
  obtain ⟨result, hmem⟩ := hstopped
  exact ⟨early, wait, rest, result, by simp, hsaid result hmem⟩

end Dismissals

section Reaching

variable {begun before after : Lifecycle} {move : Move} {around : Surroundings} {id : JobId}
  {context : ActivationContext} {job : Controller.Job} {trace effects : List Effect}
  {past : List Action}

/-- While a start waits for a client, no move of anybody else touches it. -/
theorem progress_of_other (hsound : before.Sound)
    (hprogress : begun.controller.Progress id context before.controller past none)
    (hmove : before.next? move = some (after, effects))
    (hother : ∀ around, move ≠ .task around (.job id)) :
    controls effects = [] ∧ begun.controller.Progress id context after.controller past none ∧
      ∀ job ∈ before.controller.jobs, job.id = id → job ∈ after.controller.jobs := by
  rcases (advance_of_next? hsound.controller hmove).shadow with ⟨hcontrols, hsame⟩ |
    ⟨hcontrols, errand, hbegun, -⟩ | ⟨around, worker, rfl, hworker, harrives⟩
  · rw [hsame]
    exact ⟨hcontrols, hprogress, fun _ hmem _ => hmem⟩
  · rw [hbegun]
    have hjobs : ∀ job ∈ before.controller.jobs, job.id = id →
        job ∈ (before.controller.begin errand).1.jobs :=
      fun _ hmem _ => Controller.mem_begin.mpr (Or.inl hmem)
    exact ⟨hcontrols, hprogress.keep hjobs rfl rfl, hjobs⟩
  · have hne : worker.id ≠ id := fun hid => hother around (hid ▸ rfl)
    obtain ⟨hsilent, hkept⟩ :=
      hprogress.turn_of_other hsound.controller.orderly hne harrives.2
    exact ⟨hsilent, hkept, fun job hmem hid =>
      harrives.2.other_mem_jobs hmem fun hsame => hne (hsame.symm.trans hid)⟩

/-- A start that waits for a client gets on with its own moves. -/
theorem progress_of_own (hsound : before.Sound) (hcandid : before.Candid)
    (hprogress : begun.controller.Progress id context before.controller past none)
    (hmove : before.next? (.task around (.job id)) = some (after, effects)) :
    ∃ verdict, verdict ≠ some (.error .noWorkspace) ∧
      begun.controller.Progress id context after.controller (past ++ controls effects) verdict := by
  obtain ⟨job, hmem, rfl, -, hbusy⟩ := hprogress.waits
  obtain ⟨client, hawaited⟩ : ∃ client, job.stage.awaited? = some client := by
    rcases Controller.Stage.closing_or_opening hbusy with
      ⟨client, aftermath, hstage⟩ | ⟨opened, hstage⟩
    · exact ⟨client, by rw [hstage]; rfl⟩
    · exact ⟨opened.id, by rw [hstage]; rfl⟩
  have hjob := hsound.controller.orderly.job?_of_mem hmem
  rcases stepJob_of_awaited ((Controller.awaited?_eq hjob).trans hawaited) hmove with
    ⟨hsame, hcontrols⟩ | ⟨result, -, hstopped⟩ | ⟨result, hreport, hstarted⟩
  · rw [hsame, hcontrols, List.append_nil]
    exact ⟨none, by simp, hprogress⟩
  · exact hprogress.clientStopped hsound.controller hstopped
  · have harises : ∀ failure, result = .error failure → failure.arisesInSession = true := by
      rintro failure rfl
      exact hcandid.report client failure hreport
    refine ⟨some result, ?_, hprogress.clientStarted hsound.controller hstarted harises⟩
    intro hrefused
    exact absurd (harises _ (Option.some.inj hrefused)) (by decide)

theorem Reached.step (hreached : Reached begun id context before trace none) (hsound : before.Sound)
    (hcandid : before.Candid) (hmove : before.next? move = some (after, effects)) :
    ∃ verdict, Reached begun id context after (trace ++ effects) verdict := by
  have hreporting := reporting_of_next? hsound.controller hmove
  by_cases hown : ∃ around, move = .task around (.job id)
  · obtain ⟨around, rfl⟩ := hown
    obtain ⟨verdict, hfound, hprogress⟩ :=
      progress_of_own hsound hcandid hreached.progress hmove
    rw [← controls_append] at hprogress
    refine ⟨verdict, hprogress, fun hrefused => absurd hrefused hfound, fun _ client hclient => ?_⟩
    rcases hreached.dismissal (by simp) client hclient with
      hdone | ⟨hdismissing, job, hmem, rfl, aftermath, hstage⟩
    · exact Or.inl (hdone.append effects)
    · have hjob := hsound.controller.orderly.job?_of_mem hmem
      rcases stepJob_of_closing hjob hstage hmove with hsame | ⟨hstopped, rest, rfl⟩
      · rw [← hsame] at hmem
        exact Or.inr ⟨hdismissing.step hreporting, job, hmem, rfl, aftermath, hstage⟩
      · exact Or.inl (hdismissing.done hstopped rest)
  · obtain ⟨hsilent, hprogress, hkept⟩ := progress_of_other hsound hreached.progress hmove
      fun around hsame => hown ⟨around, hsame⟩
    refine ⟨none, ?_, by simp, fun hfound client hclient => ?_⟩
    · rw [controls_append, hsilent, List.append_nil]
      exact hprogress
    · rcases hreached.dismissal hfound client hclient with
        hdone | ⟨hdismissing, job, hmem, hid, hclosing⟩
      · exact Or.inl (hdone.append effects)
      · exact Or.inr ⟨hdismissing.step hreporting, job, hkept job hmem hid, hid, hclosing⟩

end Reaching

section Starting

variable {options : Controller.Options} {begun before after : Lifecycle} {move : Move}
  {moves : List Move} {around : Surroundings} {id : JobId} {context : ActivationContext}
  {job : Controller.Job} {trace effects past : List Effect}

/-- A job that has the lock for the first time runs. -/
theorem obey_of_new (hsound : before.Sound) (hmem : job ∈ before.controller.jobs)
    (hopen : before.controller.Open job.id) (hnew : job.stage.isNew = true)
    (hmove : before.next? (.task around (.job job.id)) = some (after, effects)) :
    before.obey around ((before.controller.hold job.id).run around.situation job) =
      (after, effects) := by
  have horderly := hsound.controller.orderly
  have hawaited : before.controller.awaited? job.id = none := by
    rw [Controller.awaited?_eq (horderly.job?_of_mem hmem)]
    rcases Controller.Stage.arriving_or_inLine hnew with hstage | hstage <;> rw [hstage] <;> rfl
  simpa only [next?, Lifecycle.step, stepJob, hawaited, horderly.step_of_new hmem hopen hnew,
    Option.map_some, Option.some.injEq] using hmove

/-- To tell a client to stop is the last thing that a start does that finds the client. -/
theorem dismissing_of_obey (htidy : before.Tidy) {outcome : Controller × List Action}
    {client : Controller.Client} (hclient : before.controller.client = some client)
    {line : LogLine} {state : LifecycleState}
    (hactions : outcome.2 =
      [.log line, .enter state, .unsubscribe client.id, .closeClient client.id])
    (hobey : before.obey around outcome = (after, effects))
    (hreporting : Reporting before (after, effects)) : after.Dismissing client.id effects := by
  simp only [obey, hactions, performAll, perform, List.append_nil, List.cons_append,
    List.nil_append] at hobey
  have heffects := (Prod.mk.inj hobey).2.symm
  refine ⟨[.control (.log line), .control (.enter state), .control (.unsubscribe client.id)], _,
    heffects, fun result hmem => ?_⟩
  rcases hreporting client.id _ hmem with hold | ⟨effect, heffect, hreport⟩
  · exact absurd hold ((htidy.running client.id (by rw [hclient]; rfl)).1 _)
  · rw [isStopped_of_reportOf? hreport, heffects] at heffect
    simp only [dealings_control] at heffect
    exact mem_dealings.mp heffect

/-- A start that gets the lock gets on from there. -/
theorem reached_of_open (hsound : before.Sound) (htidy : before.Tidy)
    (hmem : job ∈ before.controller.jobs) (herrand : job.errand = .start context)
    (hopen : before.controller.Open job.id) (hnew : job.stage.isNew = true)
    (hmove : before.next? (.task around (.job job.id)) = some (after, effects)) :
    ∃ verdict, Reached before job.id context after effects verdict := by
  have hidle := Controller.Stage.not_isBusy_of_isNew hnew
  have hobey := obey_of_new hsound hmem hopen hnew hmove
  obtain ⟨hcontroller, hcontrols⟩ :=
    obey_frame around before ((before.controller.hold job.id).run around.situation job)
  rw [hobey] at hcontroller hcontrols
  obtain ⟨verdict, hrootless, hprogress⟩ :=
    @Controller.Sound.progress_of_run around.situation _ _ _ hsound.controller hmem herrand hopen
      hidle
  rw [← hcontroller, ← hcontrols] at hprogress
  refine ⟨verdict, hprogress, fun hrefused => ?_, fun hfound client hclient => Or.inr ?_⟩
  · rw [Controller.run_of_rootless herrand (hrootless hrefused)] at hobey
    obtain ⟨rfl, rfl⟩ := Prod.mk.inj hobey
    exact ⟨rfl, rfl, rfl, rfl, rfl, rfl, rfl, rfl⟩
  · cases hroots : around.situation.roots.head? with
    | none =>
        rw [Controller.run_of_rootless herrand hroots] at hcontrols
        refine absurd (hprogress.verdict_of_finish ?_) hfound
        rw [hcontrols]
        exact List.mem_singleton_self _
    | some first =>
        obtain ⟨hmoved, -, hactions⟩ := Controller.run_of_client hmem herrand hroots hclient
          (hsound.controller.subscription_of_client hclient)
        refine ⟨dismissing_of_obey htidy hclient hactions hobey
          (reporting_of_next? hsound.controller hmove), ?_⟩
        rw [hcontroller]
        exact ⟨_, hmoved, rfl, _, rfl⟩

/-- A job that has not worked yet gets in line where it cannot have the lock. -/
theorem waits_of_closed (hsound : before.Sound) (hmem : job ∈ before.controller.jobs)
    (hnew : job.stage.isNew = true) (hclosed : ¬before.controller.Open job.id)
    (hmove : before.next? (.task around (.job job.id)) = some (after, effects)) :
    controls effects = [] ∧ ∃ stage : Controller.Stage, stage.isNew = true ∧
      { job with stage := stage } ∈ after.controller.jobs := by
  rcases (advance_of_next? hsound.controller hmove).shadow with ⟨hcontrols, hsame⟩ |
    ⟨hcontrols, errand, hbegun, -⟩ | ⟨other, worker, hsame, hworker, harrives⟩
  · exact ⟨hcontrols, job.stage, hnew, hsame ▸ hmem⟩
  · exact ⟨hcontrols, job.stage, hnew, hbegun ▸ Controller.mem_begin.mpr (Or.inl hmem)⟩
  · simp only [Move.task.injEq, Task.job.injEq] at hsame
    rw [← hsame.2, hsound.controller.orderly.job?_of_mem hmem] at hworker
    rw [← Option.some.inj hworker] at harrives
    obtain ⟨hcontrols, hwaits⟩ := harrives.2.inLine_of_new hmem hnew hclosed
    exact ⟨hcontrols, .inLine, rfl, hwaits⟩

/-- A start that has not worked yet gets in line, or gets the lock. -/
theorem waits_or_reached (hsound : before.Sound) (htidy : before.Tidy)
    (hmem : job ∈ before.controller.jobs) (herrand : job.errand = .start context)
    (hnew : job.stage.isNew = true)
    (hmove : before.next? (.task around (.job job.id)) = some (after, effects)) :
    (controls effects = [] ∧ ∃ stage : Controller.Stage, stage.isNew = true ∧
        { job with stage := stage } ∈ after.controller.jobs) ∨
      (before.controller.Open job.id ∧
        ∃ verdict, Reached before job.id context after effects verdict) := by
  by_cases hopen : before.controller.Open job.id
  · exact Or.inr ⟨hopen, reached_of_open hsound htidy hmem herrand hopen hnew hmove⟩
  · exact Or.inl (waits_of_closed hsound hmem hnew hopen hmove)

theorem StartedAt.step (hstarted : StartedAt options moves id context begun before trace)
    (hmove : before.next? move = some (after, effects)) :
    StartedAt options (moves ++ [move]) id context begun after (trace ++ effects) where
  run := by
    obtain ⟨history, around, waited, past, rfl, hhistory, hrun⟩ := hstarted.run
    refine ⟨history, around, waited ++ [move], past, by simp, hhistory, ?_⟩
    rw [← List.cons_append]
    exact Run.follow_append_eq_some.mpr
      ⟨before, trace, effects, hrun, Run.follow_singleton hmove, rfl⟩
  called := hstarted.called
  isOpen := hstarted.isOpen

theorem startedAt_of_open (hrun : Run.follow next? (idle options) moves = some (before, past))
    (hmem : job ∈ before.controller.jobs) (herrand : job.errand = .start context)
    (hnew : job.stage.isNew = true) (hopen : before.controller.Open job.id)
    (hmove : before.next? (.task around (.job job.id)) = some (after, effects)) :
    StartedAt options (moves ++ [.task around (.job job.id)]) job.id context before after
      effects where
  run := ⟨moves, around, [], past, rfl, hrun, Run.follow_singleton hmove⟩
  called := ⟨job, hmem, rfl, herrand, hnew⟩
  isOpen := hopen

/-- Every start that is there after some moves has not worked yet, or it has got somewhere since it
got the lock. -/
def Charted (options : Controller.Options) (moves : List Move) (lifecycle : Lifecycle) : Prop :=
  ∀ job ∈ lifecycle.controller.jobs, ∀ context, job.errand = .start context →
    job.stage.isNew = true ∨ ∃ begun trace,
      StartedAt options moves job.id context begun lifecycle trace ∧
        Reached begun job.id context lifecycle trace none

/-- A start that is still there is not over. -/
theorem Reached.stays (hreached : Reached begun id context before trace none)
    (hsound : before.Sound) (hcandid : before.Candid)
    (hmove : before.next? move = some (after, effects))
    (hmem : job ∈ after.controller.jobs) (hid : job.id = id) :
    Reached begun id context after (trace ++ effects) none := by
  obtain ⟨verdict, hnow⟩ := hreached.step hsound hcandid hmove
  cases verdict with
  | none => exact hnow
  | some result => exact absurd hid (hnow.progress.gone job hmem)

theorem Charted.step (hcharted : Charted options moves before)
    (hrun : Run.follow next? (idle options) moves = some (before, past))
    (hmove : before.next? move = some (after, effects)) :
    Charted options (moves ++ [move]) after := by
  obtain ⟨hsound, htidy, -⟩ := parted_of_run options hrun
  have hcandid := candid_of_run options hrun
  intro job hmem context herrand
  have hgoes {begun : Lifecycle} {trace : List Effect}
      (hstarted : StartedAt options moves job.id context begun before trace)
      (hreached : Reached begun job.id context before trace none) : ∃ begun trace,
        StartedAt options (moves ++ [move]) job.id context begun after trace ∧
          Reached begun job.id context after trace none :=
    ⟨begun, trace ++ effects, hstarted.step hmove,
      hreached.stays hsound hcandid hmove hmem rfl⟩
  have hold (hbefore : job ∈ before.controller.jobs) : job.stage.isNew = true ∨
      ∃ begun trace, StartedAt options (moves ++ [move]) job.id context begun after trace ∧
        Reached begun job.id context after trace none := by
    refine (hcharted job hbefore context herrand).imp_right ?_
    rintro ⟨begun, trace, hstarted, hreached⟩
    exact hgoes hstarted hreached
  rcases (advance_of_next? hsound.controller hmove).shadow with
    ⟨-, hsame⟩ | ⟨-, errand, hbegun, -⟩ | ⟨around, worker, rfl, hworker, harrives⟩
  · exact hold (hsame ▸ hmem)
  · rw [hbegun] at hmem
    rcases Controller.mem_begin.mp hmem with hbefore | rfl
    · exact hold hbefore
    · exact Or.inl rfl
  · have hworks := (Controller.mem_of_job? hworker).1
    rcases harrives.2.mem_jobs hsound.controller.orderly hworks hmem with
      ⟨hbefore, -⟩ | ⟨stage, rfl⟩
    · exact hold hbefore
    rcases hcharted worker hworks context herrand with hnew | ⟨begun, trace, hstarted, hreached⟩
    · rcases waits_or_reached hsound htidy hworks herrand hnew hmove with
        ⟨-, later, hlater, hkept⟩ | ⟨hopen, verdict, hreached⟩
      · have hunique := (hsound.step hmove).controller.orderly.eq_of_id hmem hkept rfl
        exact Or.inl ((congrArg (·.stage.isNew) hunique).symm.trans hlater)
      · cases verdict with
        | none => exact Or.inr ⟨before, effects,
            startedAt_of_open hrun hworks herrand hnew hopen hmove, hreached⟩
        | some result => exact (hreached.progress.gone _ hmem rfl).elim
    · exact Or.inr (hgoes hstarted hreached)

theorem charted_of_run (options : Controller.Options)
    (hrun : Run.follow next? (idle options) moves = some (after, past)) :
    Charted options moves after := by
  have hholds := Run.follow_history_induction
    (fun done lifecycle past => Run.follow next? (idle options) done = some (lifecycle, past) ∧
      Charted options done lifecycle) ⟨rfl, by simp [Charted, idle, Controller.idle]⟩ ?_ hrun
  · exact hholds.2
  · rintro done before past move after effects - ⟨hdone, hcharted⟩ hmove
    exact ⟨Run.follow_append_eq_some.mpr
      ⟨before, past, effects, hdone, Run.follow_singleton hmove, rfl⟩, hcharted.step hdone hmove⟩

end Starting

section Failing

variable {options : Controller.Options} {begun before after : Lifecycle} {moves : List Move}
  {around : Surroundings} {id : JobId} {context : ActivationContext} {job : Controller.Job}
  {trace effects past early late : List Effect} {failure : ClientError}

/-- An idle controller has no hold on any client. -/
theorem not_engages_of_vacant (hsound : after.Sound) (hvacant : after.controller.Vacant .idle)
    (client : ClientId) : ¬after.controller.Engages client := by
  rintro (hclient | ⟨job, hmem, hawaited⟩)
  · rw [hvacant.2.1] at hclient
    exact absurd hclient (by simp)
  · rcases Controller.Stage.closing_or_opening (Controller.isBusy_of_awaited hawaited) with
      ⟨closed, aftermath, hstage⟩ | ⟨opened, hstage⟩
    · have hstate := (hsound.controller.ledger.closing job hmem closed aftermath hstage).1.1
      exact absurd (hvacant.1.symm.trans hstate) (by decide)
    · have hstate := (hsound.controller.ledger.opening job hmem opened hstage).1.1
      exact absurd (hvacant.1.symm.trans hstate) (by decide)

theorem Released.of_append (hreleased : Released (early ++ late)) : Released late := by
  rintro front client asker rest rfl
  exact hreleased (early ++ front) client asker rest (by simp)

/-- Since a start got the lock, the server was stopped behind every wish for a connection, if the
controller has no hold on any client any more. -/
theorem StartedAt.released (hstarted : StartedAt options moves id context begun after trace)
    (hfree : ∀ client, ¬after.controller.Engages client) : Released trace := by
  obtain ⟨history, around, waited, past, rfl, hhistory, hrun⟩ := hstarted.run
  have htraced := traced_of_run options
    (Run.follow_append_eq_some.mpr ⟨begun, past, trace, hhistory, hrun, rfl⟩)
  exact (htraced.released hfree).of_append

/-- A start that has failed, though there was a root, has left nothing behind. -/
theorem Reached.undone (hreached : Reached begun id context after trace (some (.error failure)))
    (hrooted : failure ≠ .noWorkspace) (hsound : after.Sound)
    (hstarted : StartedAt options moves id context begun after trace) :
    Undone begun id context failure after trace := by
  obtain ⟨hfallen, hdeeds⟩ := hreached.progress.fallen hrooted
  have hended : some (Except.error failure : Except ClientError Unit) ≠
      some (.error .noWorkspace) := by simpa using hrooted
  refine ⟨hfallen.vacant, ?_, hfallen.context, hfallen.lt, hfallen.past, hdeeds, ?_, ?_⟩
  · exact eq_nil_of_attended hsound.attended
      fun _ => hsound.controller.not_keeps (Or.inl hfallen.vacant)
  · intro client hclient
    refine (hreached.dismissal hended client hclient).resolve_right ?_
    rintro ⟨-, job, hmem, hid, -⟩
    exact hfallen.gone job hmem hid
  · exact hstarted.released (not_engages_of_vacant hsound hfallen.vacant)

/-- A start that returns got the lock somewhere, and has got from there to its end. -/
theorem reached_of_finish (options : Controller.Options)
    (hrun : Run.follow next? (idle options) moves = some (before, past))
    (hmem : job ∈ before.controller.jobs) (herrand : job.errand = .start context)
    (hmove : before.next? (.task around (.job job.id)) = some (after, effects))
    {result : Except ClientError Unit}
    (hfinish : .control (.finish job.id (.done result)) ∈ effects) :
    ∃ begun trace,
      StartedAt options (moves ++ [.task around (.job job.id)]) job.id context begun after trace ∧
        Reached begun job.id context after trace (some result) := by
  obtain ⟨hsound, htidy, -⟩ := parted_of_run options hrun
  have hended := mem_controls.mpr hfinish
  rcases charted_of_run options hrun job hmem context herrand with
    hnew | ⟨begun, trace, hstarted, hreached⟩
  · rcases waits_or_reached hsound htidy hmem herrand hnew hmove with
      ⟨hsilent, -⟩ | ⟨hopen, verdict, hreached⟩
    · rw [hsilent] at hended
      exact absurd hended List.not_mem_nil
    · obtain rfl := hreached.progress.verdict_of_finish hended
      exact ⟨before, effects, startedAt_of_open hrun hmem herrand hnew hopen hmove, hreached⟩
  · obtain ⟨verdict, hnow⟩ := hreached.step hsound (candid_of_run options hrun) hmove
    have hlast : .finish job.id (.done result) ∈ controls (trace ++ effects) := by
      rw [controls_append]
      exact List.mem_append_right _ hended
    obtain rfl := hnow.progress.verdict_of_finish hlast
    exact ⟨begun, trace ++ effects, hstarted.step hmove, hnow⟩

/-- A start that returns a failure leaves a clean controller, whatever the host, the server and
everybody else do.  If there is no workspace, nothing has changed since the start got the lock, and
nobody was called.  After any other failure the start is remembered and counted, and the controller
is idle with neither a client nor a listener; the client that the start found was stopped, then the
server, and the server was stopped again behind every connection that was asked for. -/
theorem clean_of_run (options : Controller.Options)
    (hrun : Run.follow next? (idle options) moves = some (before, past))
    (hmem : job ∈ before.controller.jobs) (herrand : job.errand = .start context)
    (hmove : before.next? (.task around (.job job.id)) = some (after, effects))
    (hfinish : .control (.finish job.id (.done (.error failure))) ∈ effects) :
    ∃ begun trace,
      StartedAt options (moves ++ [.task around (.job job.id)]) job.id context begun after trace ∧
        (failure = .noWorkspace → Untouched begun job.id after trace) ∧
        (failure ≠ .noWorkspace → Undone begun job.id context failure after trace) := by
  obtain ⟨begun, trace, hstarted, hreached⟩ :=
    reached_of_finish options hrun hmem herrand hmove hfinish
  have hsound : after.Sound := (parted_of_run options hrun).1.step hmove
  refine ⟨begun, trace, hstarted, ?_, fun hrooted => hreached.undone hrooted hsound hstarted⟩
  rintro rfl
  exact hreached.untouched rfl

/-- A client runs, another start is called for, and its client gets no connection; the start still
has to look at that. -/
def practiceRefusal : List Move :=
  practiceReplacing ++ [practiceLaunch, .supply 1 .start (.error ["no server"])]

def practiceReturn : Move :=
  .task (practiceSurroundings {} 5000 none) (.job 1)

def failureOf? : Action → Option (JobId × ClientError)
  | .finish id (.done (.error failure)) => some (id, failure)
  | _ => none

theorem failureOf?_eq_some {action : Action} (hfailure : failureOf? action = some (id, failure)) :
    action = .finish id (.done (.error failure)) := by
  unfold failureOf? at hfailure
  split at hfailure
  · simp only [Option.some.injEq, Prod.mk.injEq] at hfailure
    rw [hfailure.1, hfailure.2]
  · exact absurd hfailure (by simp)

/-- Which jobs there are before the start returns, and which of them return failures then. -/
def practiceFailures : Option (List (JobId × Controller.Errand) × List (JobId × ClientError)) :=
  (Run.follow next? (idle ⟨500, 3⟩) practiceRefusal).bind fun (before, _) =>
    (before.next? practiceReturn).map fun (_, effects) =>
      (before.controller.jobs.map fun job => (job.id, job.errand),
        (controls effects).filterMap failureOf?)

set_option maxRecDepth 100000 in
theorem practiceFailures_eq : practiceFailures =
    some ([(1, .start ⟨.ofString "/s", "npl", "1"⟩)], [(1, .connection "no server")]) := by
  decide +kernel

theorem clean_of_practiceRefusal : ∃ before past after effects begun trace,
    Run.follow next? (idle ⟨500, 3⟩) practiceRefusal = some (before, past) ∧
      before.next? practiceReturn = some (after, effects) ∧
      .control (.finish 1 (.done (.error (.connection "no server")))) ∈ effects ∧
      StartedAt ⟨500, 3⟩ (practiceRefusal ++ [practiceReturn]) 1
        ⟨.ofString "/s", "npl", "1"⟩ begun after trace ∧
      Undone begun 1 ⟨.ofString "/s", "npl", "1"⟩ (.connection "no server") after trace := by
  obtain ⟨⟨before, past⟩, hrun, hfailures⟩ := Option.bind_eq_some_iff.mp practiceFailures_eq
  obtain ⟨⟨after, effects⟩, hmove, hfailures⟩ := Option.map_eq_some_iff.mp hfailures
  simp only [Prod.mk.injEq, List.map_eq_singleton_iff] at hfailures
  obtain ⟨⟨job, hjobs, hid, herrand⟩, hended⟩ := hfailures
  have hmem : job ∈ before.controller.jobs := by simp [hjobs]
  have hfinish : .control (.finish 1 (.done (.error (.connection "no server")))) ∈ effects := by
    obtain ⟨action, haction, hfailure⟩ := List.mem_filterMap.mp
      (hended ▸ List.mem_singleton_self (1, ClientError.connection "no server"))
    rw [← failureOf?_eq_some hfailure]
    exact mem_controls.mp haction
  rw [practiceReturn, ← hid] at hmove
  obtain ⟨begun, trace, hstarted, -, hundone⟩ :=
    clean_of_run ⟨500, 3⟩ hrun hmem herrand hmove (hid ▸ hfinish)
  rw [hid] at hstarted hundone hmove
  exact ⟨before, past, after, effects, begun, trace, hrun, hmove, hfinish, hstarted,
    hundone (by simp)⟩

end Failing

end NplLifecycle.Lifecycle
