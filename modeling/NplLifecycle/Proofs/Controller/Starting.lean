import NplLifecycle.Proofs.Controller.Pressing
import NplLifecycle.Proofs.Session.Blame

/-!
# How far a start gets

A start that has the lock looks for a root, gets rid of the client that it finds, reads the settings
and opens a client of its own.  Where it has got to is listed here once, with what it has done to
clients and to the server until then.  While it waits for a client nobody else works, so the list
stays true until the start goes on.
-/

namespace NplLifecycle.Controller

/-- Is an action a call of a client or of the server, or the end of a job? -/
def Action.isDeed : Action → Bool
  | .openClient .. | .closeClient _ | .dropClient _ | .stopServer | .finish .. => true
  | _ => false

/-- The calls of clients and of the server, and the ends of jobs, in order. -/
def deeds (actions : List Action) : List Action :=
  actions.filter Action.isDeed

/-- How a start gets rid of the client that it finds. -/
def dismissal : Option Client → List Action
  | some client => [.closeClient client.id, .stopServer]
  | none => []

/-- A start that has found a root is noted: its context is the controller's, and the generation has
grown. -/
structure Noted (begun : Controller) (context : ActivationContext) (now : Controller) : Prop where
  context : now.context = some context
  lt : begun.generation < now.generation

/-- A start is noted, but has failed: nothing runs, and whoever waits for the settings to settle
will not find its generation again. -/
structure Fallen (begun : Controller) (id : JobId) (context : ActivationContext)
    (now : Controller) : Prop extends Noted begun context now where
  gone : ∀ job ∈ now.jobs, job.id ≠ id
  vacant : now.Vacant .idle
  past : now.Past

/-- Where a start has got to since it got the lock, with what was done since then, and how it ended
if it has. -/
inductive Progress (begun : Controller) (id : JobId) (context : ActivationContext)
    (now : Controller) (past : List Action) : Option (Except ClientError Unit) → Prop
  /-- The client that it found is told to stop. -/
  | closing {client : Client} {scope : Path} {roots : List Root}
      (hclient : begun.client = some client)
      (hmem : ⟨id, .start context, .closing client.id (.replace context scope roots)⟩ ∈ now.jobs)
      (hnoted : Noted begun context now) (hdeeds : deeds past = [.closeClient client.id]) :
      Progress begun id context now past none
  | opening {client : Client} (hmem : ⟨id, .start context, .opening client⟩ ∈ now.jobs)
      (hnoted : Noted begun context now)
      (hdeeds : deeds past = dismissal begun.client ++ [.openClient client context]) :
      Progress begun id context now past none
  /-- There is no root. -/
  | refused (hnow : now = (begun.hold id).retire id)
      (hpast : past = [.finish id (.done (.error .noWorkspace))]) :
      Progress begun id context now past (some (.error .noWorkspace))
  /-- The settings cannot be read. -/
  | unread {cause : String} (hfallen : Fallen begun id context now)
      (hdeeds : deeds past = dismissal begun.client ++
        [.finish id (.done (.error (.settings cause)))]) :
      Progress begun id context now past (some (.error (.settings cause)))
  /-- The client does not start. -/
  | unopened {client : Client} {failure : ClientError} (harises : failure.arisesInSession = true)
      (hfallen : Fallen begun id context now)
      (hdeeds : deeds past = dismissal begun.client ++ [.openClient client context,
        .dropClient client.id, .stopServer, .finish id (.done (.error failure))]) :
      Progress begun id context now past (some (.error failure))
  | opened {client : Client} (hgone : ∀ job ∈ now.jobs, job.id ≠ id)
      (hdeeds : deeds past = dismissal begun.client ++
        [.openClient client context, .finish id (.done (.ok ()))]) :
      Progress begun id context now past (some (.ok ()))

section Deeds

@[simp]
theorem deeds_nil : deeds [] = [] := rfl

@[simp]
theorem deeds_cons (action : Action) (rest : List Action) :
    deeds (action :: rest) = (if action.isDeed then [action] else []) ++ deeds rest := by
  cases h : action.isDeed <;> simp [deeds, h]

@[simp]
theorem deeds_append (left right : List Action) :
    deeds (left ++ right) = deeds left ++ deeds right :=
  List.filter_append ..

@[simp]
theorem deeds_map_log (lines : List LogLine) : deeds (lines.map Action.log) = [] := by
  simp [deeds, Action.isDeed]

@[simp]
theorem deeds_warnUnclean (opening : String) (result : Except ClientError Unit) :
    deeds (warnUnclean opening result) = [] := by
  cases result <;> simp [warnUnclean, Action.isDeed]

/-- A start that somebody asked for says nothing at its end but how it went. -/
theorem finishStart_of_start {controller : Controller} {job : Job} {context : ActivationContext}
    (herrand : job.errand = .start context) (result : Except ClientError Unit) :
    controller.finishStart job result =
      (controller.retire job.id, [.finish job.id (.done result)]) := by
  simp only [finishStart, herrand, finish_eq, List.nil_append]

end Deeds

section Resuming

/-- How a start goes on when no client is left: it fails over the settings, or opens a client. -/
inductive Resumption (controller : Controller) (job : Job) (context : ActivationContext) :
    Controller × List Action → Prop
  | unread (cause : String) :
      Resumption controller job context ({ controller with state := .idle }.retire job.id,
        [.enter .starting, .enter .idle, .finish job.id (.done (.error (.settings cause)))])
  | opens {client : Client} {actions : List Action} (hdeeds : deeds actions = []) :
      Resumption controller job context
        ({ { controller with state := .starting }.moveJob job.id (.opening client) with
            nextClient := client.id + 1 },
          actions ++ [.subscribe client.id, .openClient client context])

variable {situation : Situation} {begun controller : Controller} {job : Job}
  {context : ActivationContext} {outcome : Controller × List Action} {past : List Action}

theorem resumption_continueStart (herrand : job.errand = .start context) (scope : Path)
    (roots : List Root) : Resumption controller job context
      (controller.continueStart situation job context scope roots) := by
  cases hfolder : situation.settings (some scope) with
  | error cause =>
      simp only [continueStart, hfolder, enter, finishStart_of_start herrand]
      exact .unread cause
  | ok folder =>
      cases hworkspace : situation.settings none with
      | error cause =>
          simp only [continueStart, hfolder, hworkspace, enter, finishStart_of_start herrand]
          exact .unread cause
      | ok workspace =>
          have hopens := @Resumption.opens controller job context
            ⟨controller.nextClient, configure situation controller.options roots folder workspace⟩
            ([.enter .starting] ++ (Workspace.resolveLog situation.workingDirectory folder.sources
              folder.testSources roots).map Action.log ++
                [.log (.info ("Language client initialized with workspace folders: " ++
                  (configure situation controller.options roots folder workspace).describe))])
            (by simp [Action.isDeed])
          simpa only [continueStart, hfolder, hworkspace, enter, List.append_assoc,
            List.cons_append, List.nil_append] using hopens

/-- Where the generation has grown, or the job waited for a client, no generation is current that
another job has recorded. -/
theorem Counted.past_of_others {before after : Controller} (hcounted : before.Counted)
    (hmem : job ∈ before.jobs) (hle : before.generation ≤ after.generation)
    (hlt : before.generation < after.generation ∨ job.stage.isBusy = true)
    (hothers : ∀ other ∈ after.jobs, other ∈ before.jobs) : after.Past :=
  fun other hother _ hrecorded => hcounted.other_lt hmem hle hlt (hothers other hother) hrecorded

/-- A start that goes on when no client is left gets on, and has found its root. -/
theorem Resumption.progress (hresumption : Resumption controller job context outcome)
    (hmem : job ∈ controller.jobs) (herrand : job.errand = .start context)
    (hnoted : Noted begun context controller) (hnobody : controller.client = none)
    (hdeaf : controller.subscription = none)
    (hpast : ∀ now : Controller, now.generation = controller.generation →
      (∀ other ∈ now.jobs, other ∈ controller.jobs) → now.Past)
    (hdeeds : deeds past = dismissal begun.client) :
    ∃ verdict, verdict ≠ some (.error .noWorkspace) ∧
      Progress begun job.id context outcome.1 (past ++ outcome.2) verdict := by
  cases hresumption with
  | unread cause =>
      refine ⟨_, by simp, @Progress.unread _ _ _ _ _ cause ⟨⟨hnoted.context, hnoted.lt⟩, ?_,
        ⟨rfl, hnobody, hdeaf⟩, hpast _ rfl ?_⟩ ?_⟩
      · exact fun other hother => (mem_retire.mp hother).2
      · exact fun other hother => (mem_retire.mp hother).1
      · simp [hdeeds, Action.isDeed]
  | @opens client actions hsilent =>
      have hmoved : ({ job with stage := .opening client } : Job) ∈
          (controller.moveJob job.id (.opening client)).jobs := mem_moveJob_self hmem
      rw [herrand] at hmoved
      exact ⟨none, by simp, .opening hmoved ⟨hnoted.context, hnoted.lt⟩
        (by simp [hdeeds, hsilent, Action.isDeed])⟩

end Resuming

section Progressing

variable {situation : Situation} {begun before after now : Controller} {job other : Job}
  {id : JobId} {context : ActivationContext} {outcome : Controller × List Action}
  {past actions : List Action}
  {verdict : Option (Except ClientError Unit)} {result : Except ClientError Unit}

/-- A start that finds no root ends at once. -/
theorem run_of_rootless (herrand : job.errand = .start context)
    (hroots : situation.roots.head? = none) : (before.hold job.id).run situation job =
      ((before.hold job.id).retire job.id, [.finish job.id (.done (.error .noWorkspace))]) := by
  simp only [Controller.run, herrand, runStart, hroots, finishStart_of_start herrand]

/-- A start that finds a root, and a client, tells the client to stop. -/
theorem run_of_client {client : Client} {first : Root} (hmem : job ∈ before.jobs)
    (herrand : job.errand = .start context) (hroots : situation.roots.head? = some first)
    (hclient : before.client = some client) (hsubscription : before.subscription = some client.id) :
    let closing : Stage := .closing client.id (.replace context first.path situation.roots)
    ⟨job.id, .start context, closing⟩ ∈ ((before.hold job.id).run situation job).1.jobs ∧
      Noted before context ((before.hold job.id).run situation job).1 ∧
      ((before.hold job.id).run situation job).2 =
        [.log (.info "Client already exists, stopping it before restart"), .enter .stopping,
          .unsubscribe client.id, .closeClient client.id] := by
  intro closing
  have hmoved : { job with stage := closing } ∈ (before.moveJob job.id closing).jobs :=
    mem_moveJob_self hmem
  rw [herrand] at hmoved
  simp only [Controller.run, herrand, runStart, hroots, hold, hclient, enterStop, enter,
    unsubscribe, hsubscription]
  exact ⟨hmoved, ⟨rfl, Nat.lt_succ_of_lt (Nat.lt_succ_self _)⟩, rfl⟩

/-- A start that has just got the lock gets on from there. -/
theorem Sound.progress_of_run (hsound : before.Sound) (hmem : job ∈ before.jobs)
    (herrand : job.errand = .start context) (hopen : before.Open job.id)
    (hidle : job.stage.isBusy = false) :
    ∃ verdict, (verdict = some (.error .noWorkspace) → situation.roots.head? = none) ∧
      Progress before job.id context ((before.hold job.id).run situation job).1
        ((before.hold job.id).run situation job).2 verdict := by
  cases hroots : situation.roots.head? with
  | none =>
      rw [run_of_rootless herrand hroots]
      exact ⟨_, fun _ => rfl, .refused rfl rfl⟩
  | some first =>
      rcases hsound.rested hopen (hsound.orderly.job?_of_mem hmem) hidle with
        ⟨client, -, hclient, hsubscription⟩ | ⟨-, hnobody, hdeaf⟩
      · obtain ⟨hmoved, hnoted, hactions⟩ := run_of_client hmem herrand hroots hclient hsubscription
        exact ⟨none, by simp, .closing hclient hmoved hnoted (by simp [hactions, Action.isDeed])⟩
      · have hnobody' : (before.hold job.id).client = none := hnobody
        simp only [Controller.run, herrand, runStart, hroots, hnobody']
        let noted : Controller := { before.hold job.id with
          client := none, context := some context, generation := before.generation + 1 }
        have hpast (now : Controller) (hgeneration : now.generation = before.generation + 1)
            (hothers : ∀ other ∈ now.jobs, other ∈ before.jobs) : now.Past := by
          refine hsound.counted.past_of_others hmem ?_ (.inl ?_) hothers
          · exact hgeneration ▸ Nat.le_succ _
          · exact hgeneration ▸ Nat.lt_succ_self _
        have hdeeds : deeds [] = dismissal before.client := by rw [hnobody]; rfl
        obtain ⟨verdict, hfound, hprogress⟩ := @Resumption.progress before noted job context _ []
          (resumption_continueStart herrand first.path situation.roots) hmem herrand
          ⟨rfl, Nat.lt_succ_self _⟩ rfl hdeaf hpast hdeeds
        exact ⟨verdict, fun hrefused => absurd hrefused hfound, hprogress⟩

/-- A start whose client has been stopped gets on: first the server is stopped, too. -/
theorem Progress.clientStopped (hprogress : Progress begun id context before past none)
    (hsound : before.Sound) (hstopped : before.clientStopped situation id result = some outcome) :
    ∃ verdict, verdict ≠ some (.error .noWorkspace) ∧
      Progress begun id context outcome.1 (past ++ outcome.2) verdict := by
  cases hprogress with
  | @closing client scope roots hclient hmem hnoted hdeeds =>
      obtain ⟨-, hnobody, hdeaf⟩ := (hsound.ledger.closing _ hmem _ _ rfl).1
      simp only [Controller.clientStopped, hsound.orderly.job?_of_mem hmem, Option.bind_some,
        concludeStop, enter, afterStop, Option.some.injEq] at hstopped
      have hresumption := @resumption_continueStart situation { before with state := .idle }
        ⟨id, .start context, .closing client.id (.replace context scope roots)⟩ context rfl scope
        roots
      have hprogress := @Resumption.progress begun _ _ _ _
        (past ++ ([.stopServer, .enter .idle] ++ warnUnclean uncleanPrevious result)) hresumption
        hmem rfl ⟨hnoted.context, hnoted.lt⟩ hnobody hdeaf ?_ ?_
      · rw [← hstopped]
        simpa only [List.append_assoc, List.cons_append, List.nil_append] using hprogress
      · intro now hgeneration hothers
        exact hsound.counted.past_of_others hmem (Nat.le_of_eq hgeneration.symm) (.inr rfl) hothers
      · simp [hdeeds, hclient, dismissal, Action.isDeed]
  | opening hmem =>
      simp [Controller.clientStopped, hsound.orderly.job?_of_mem hmem] at hstopped

/-- A start that hears how its client's start went is over. -/
theorem Progress.clientStarted (hprogress : Progress begun id context before past none)
    (hsound : before.Sound) (hstarted : before.clientStarted id result = some outcome)
    (harises : ∀ failure, result = .error failure → failure.arisesInSession = true) :
    Progress begun id context outcome.1 (past ++ outcome.2) (some result) := by
  cases hprogress with
  | closing hclient hmem =>
      simp [Controller.clientStarted, hsound.orderly.job?_of_mem hmem] at hstarted
  | @opening client hmem hnoted hdeeds =>
      obtain ⟨-, hnobody, hdeaf⟩ := (hsound.ledger.opening _ hmem _ rfl).1
      have herrand : (⟨id, .start context, .opening client⟩ : Job).errand = .start context := rfl
      cases result with
      | ok done =>
          simp only [Controller.clientStarted, hsound.orderly.job?_of_mem hmem, Option.bind_some,
            enter, finishStart_of_start herrand, Option.some.injEq] at hstarted
          rw [← hstarted]
          exact @Progress.opened _ _ _ _ _ client (fun other hother => (mem_retire.mp hother).2)
            (by simp [hdeeds, Action.isDeed])
      | error failure =>
          simp only [Controller.clientStarted, hsound.orderly.job?_of_mem hmem, Option.bind_some,
            enter, finishStart_of_start herrand, Option.some.injEq] at hstarted
          rw [← hstarted]
          refine @Progress.unopened _ _ _ _ _ client failure (harises failure rfl)
            ⟨⟨hnoted.context, hnoted.lt⟩, ?_, ⟨rfl, hnobody, hdeaf⟩, ?_⟩
            (by simp [hdeeds, Action.isDeed])
          · exact fun other hother => (mem_retire.mp hother).2
          · exact hsound.counted.past_of_others hmem (Nat.le_refl _) (.inr rfl)
              fun other hother => (mem_retire.mp hother).1

/-- Who leaves the jobs, the context and the generation to a start that waits leaves it where it
is. -/
theorem Progress.keep (hprogress : Progress begun id context before past none)
    (hjobs : ∀ job ∈ before.jobs, job.id = id → job ∈ after.jobs)
    (hcontext : after.context = before.context)
    (hgeneration : after.generation = before.generation) :
    Progress begun id context after past none := by
  have hnoted (h : Noted begun context before) : Noted begun context after :=
    ⟨hcontext.trans h.context, hgeneration ▸ h.lt⟩
  cases hprogress with
  | closing hclient hmem hmarked hdeeds =>
      exact .closing hclient (hjobs _ hmem rfl) (hnoted hmarked) hdeeds
  | opening hmem hmarked hdeeds => exact .opening (hjobs _ hmem rfl) (hnoted hmarked) hdeeds

/-- A start that is not over waits for a client. -/
theorem Progress.waits (hprogress : Progress begun id context before past none) :
    ∃ job ∈ before.jobs, job.id = id ∧ job.errand = .start context ∧ job.stage.isBusy = true := by
  cases hprogress with
  | closing hclient hmem => exact ⟨_, hmem, rfl, rfl, rfl⟩
  | opening hmem => exact ⟨_, hmem, rfl, rfl, rfl⟩

/-- While a start waits for a client, others only get in line. -/
theorem Progress.turn_of_other (hprogress : Progress begun id context before past none)
    (horderly : before.Orderly) (hne : other.id ≠ id)
    (hturn : Turn situation before other after actions) :
    actions = [] ∧ Progress begun id context after past none := by
  obtain ⟨job, hmem, rfl, -, hbusy⟩ := hprogress.waits
  have hheld := horderly.holder_of_busy job hmem hbusy
  have hclosed (hopen : before.Open other.id) : False := by
    rcases hopen with hfree | hmine
    · exact absurd (hfree.symm.trans hheld) (by simp)
    · exact hne (Option.some.inj (hmine.symm.trans hheld))
  cases hturn with
  | wait =>
      refine ⟨rfl, hprogress.keep (fun kept hkept hid => ?_) rfl rfl⟩
      exact mem_moveJob_of_ne hkept fun hsame => hne (hsame.symm.trans hid)
  | leave hopen | close hopen | launch _ hopen | pause hopen | fall hopen | rise hopen =>
      exact (hclosed hopen).elim

/-- A job that has not worked yet gets in line if it cannot have the lock. -/
theorem Turn.inLine_of_new (hturn : Turn situation before job after actions)
    (hmem : job ∈ before.jobs) (hnew : job.stage.isNew = true) (hclosed : ¬before.Open job.id) :
    actions = [] ∧ { job with stage := .inLine } ∈ after.jobs := by
  cases hturn with
  | wait hheld hstage =>
      rcases hstage with ⟨-, rfl⟩ | ⟨generation, wake, hsettling, -⟩
      · exact ⟨rfl, mem_moveJob_self hmem⟩
      · exact absurd hnew (by simp [hsettling, Stage.isNew])
  | leave hopen | close hopen | launch _ hopen | pause hopen | fall hopen | rise hopen =>
      exact absurd hopen hclosed

/-- A start that has ended is gone, and has said how it ended. -/
theorem Progress.gone (hprogress : Progress begun id context now past (some result)) :
    ∀ job ∈ now.jobs, job.id ≠ id := by
  cases hprogress with
  | refused hnow =>
      rw [hnow]
      exact fun job hjob => (mem_retire.mp hjob).2
  | unread hfallen => exact hfallen.gone
  | unopened harises hfallen => exact hfallen.gone
  | opened hgone => exact hgone

/-- A start that has failed, though there was a root, is undone; it has made a client exactly if it
could read the settings. -/
theorem Progress.fallen {failure : ClientError}
    (hprogress : Progress begun id context now past (some (.error failure)))
    (hrooted : failure ≠ .noWorkspace) : Fallen begun id context now ∧
      ((∃ cause, failure = .settings cause ∧ deeds past =
          dismissal begun.client ++ [.finish id (.done (.error failure))]) ∨
        (failure.arisesInSession = true ∧ ∃ client : Client, deeds past =
          dismissal begun.client ++ [.openClient client context, .dropClient client.id,
            .stopServer, .finish id (.done (.error failure))])) := by
  cases hprogress with
  | refused => exact absurd rfl hrooted
  | unread hfallen hdeeds => exact ⟨hfallen, Or.inl ⟨_, rfl, hdeeds⟩⟩
  | unopened harises hfallen hdeeds => exact ⟨hfallen, Or.inr ⟨harises, _, hdeeds⟩⟩

theorem Progress.verdict_of_finish (hprogress : Progress begun id context now past verdict)
    (hmem : .finish id (.done result) ∈ past) : verdict = some result := by
  have hdeed : .finish id (.done result) ∈ deeds past := List.mem_filter.mpr ⟨hmem, rfl⟩
  have hdismissal : .finish id (.done result) ∉ dismissal begun.client := by
    cases begun.client <;> simp [dismissal]
  cases hprogress with
  | closing hclient hjob hnoted hdeeds => simp [hdeeds] at hdeed
  | opening hjob hnoted hdeeds => simp [hdeeds, hdismissal] at hdeed
  | refused hnow hpast => simpa [hpast, eq_comm] using hmem
  | unread hfallen hdeeds => simpa [hdeeds, hdismissal, eq_comm] using hdeed
  | unopened harises hfallen hdeeds => simpa [hdeeds, hdismissal, eq_comm] using hdeed
  | opened hgone hdeeds => simpa [hdeeds, hdismissal, eq_comm] using hdeed

end Progressing

end NplLifecycle.Controller
