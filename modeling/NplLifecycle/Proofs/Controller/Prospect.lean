import NplLifecycle.Proofs.Controller.Starting

/-!
# What a host lets a start come to

Whatever becomes of its client, a start can come to one thing only as far as the host decides it: a
client with one configuration, or one failure.  No controller makes another client, nor tells a
start of another failure of the host.  And where there can be no client nobody ever waits for one,
so a start fails in the first step that it makes.
-/

namespace NplLifecycle.Controller

/-- What a start comes to as far as the host decides it: the configuration of its client, or why
there is none. -/
def Situation.prospect (situation : Situation) (options : Options) :
    Except ClientError ClientConfiguration :=
  match situation.roots.head? with
  | none => .error .noWorkspace
  | some first =>
    match situation.settings (some first.path), situation.settings none with
    | .ok folder, .ok workspace =>
      .ok (configure situation options situation.roots folder workspace)
    | .error cause, _ | _, .error cause => .error (.settings cause)

/-- Does an action that is done on an errand suit a prospect?  A client is made with that
configuration only, and who wants a client started is told of no other failure of the host. -/
def Action.Suits (prospect : Except ClientError ClientConfiguration) (errand : Errand) :
    Action → Prop
  | .openClient client _ => prospect = .ok client.configuration
  | .finish _ (.done (.error failure)) =>
    errand.opens = true → failure.arisesInSession = true ∨ prospect = .error failure
  | _ => True

/-- Does everything that is done on an errand suit a prospect? -/
def Suit (prospect : Except ClientError ClientConfiguration) (errand : Errand)
    (actions : List Action) : Prop :=
  ∀ action ∈ actions, action.Suits prospect errand

/-- Nobody has had to wait for the lock, and there has never been a client. -/
structure Untaken (controller : Controller) : Prop where
  holder : controller.holder = none
  line : controller.line = []
  client : controller.client = none
  subscription : controller.subscription = none
  coming : ∀ job ∈ controller.jobs, job.stage = .arriving ∧ job.errand ≠ .settle

section Suiting

variable {prospect : Except ClientError ClientConfiguration} {errand : Errand}

@[simp]
theorem suit_nil : Suit prospect errand [] := by simp [Suit]

@[simp]
theorem suit_cons {action : Action} {rest : List Action} :
    Suit prospect errand (action :: rest) ↔
      action.Suits prospect errand ∧ Suit prospect errand rest :=
  List.forall_mem_cons

@[simp]
theorem suit_append {early late : List Action} :
    Suit prospect errand (early ++ late) ↔
      Suit prospect errand early ∧ Suit prospect errand late :=
  List.forall_mem_append

@[simp]
theorem suit_map_log (lines : List LogLine) : Suit prospect errand (lines.map Action.log) := by
  simp [Suit, Action.Suits]

@[simp]
theorem suit_warnUnclean (opening : String) (result : Except ClientError Unit) :
    Suit prospect errand (warnUnclean opening result) := by
  cases result <;> simp [warnUnclean, Action.Suits]

variable {situation : Situation} {controller : Controller} {job : Job} {scope : Path}
  {result : Except ClientError Unit}

@[simp]
theorem suit_enterStop : Suit prospect errand controller.enterStop.2 := by
  cases hsubscription : controller.subscription <;>
    simp [enterStop, enter, unsubscribe, hsubscription, Action.Suits]

theorem suit_finishStart (hresult : ∀ failure, result = .error failure →
      failure.arisesInSession = true ∨ prospect = .error failure) :
    Suit prospect job.errand (controller.finishStart job result).2 := by
  have hlast : Suit prospect job.errand [.finish job.id (.done result)] := by
    cases result with
    | ok done => simp [Action.Suits]
    | error failure => simpa [Action.Suits] using fun _ => hresult failure rfl
  have hannounced : Suit prospect job.errand (announceSettled result) := by
    cases result <;> simp [announceSettled, Action.Suits]
  cases herrand : job.errand with
  | settle =>
      rw [herrand] at hlast hannounced
      simp only [finishStart, herrand, finish_eq]
      exact suit_append.mpr ⟨hannounced, hlast⟩
  | _ =>
      rw [herrand] at hlast
      simp only [finishStart, herrand, finish_eq, List.nil_append]
      exact hlast

/-- Where a start goes on it reads the settings of the first root, and then those of the whole
workspace. -/
theorem suit_continueStart (asker : ActivationContext)
    (hscope : situation.roots.head?.map Root.path = some scope) :
    Suit (situation.prospect controller.options) job.errand
      (controller.continueStart situation job asker scope situation.roots).2 := by
  obtain ⟨first, hfirst, rfl⟩ := Option.map_eq_some_iff.mp hscope
  have hunread (cause : String)
      (hprospect : situation.prospect controller.options = .error (.settings cause)) :
      Suit (situation.prospect controller.options) job.errand
        ((controller.enter .starting).1.enter .idle |>.1.finishStart job
          (.error (.settings cause))).2 :=
    suit_finishStart fun failure hfailure =>
      Or.inr (hprospect.trans (congrArg Except.error (Except.error.inj hfailure)))
  cases hfolder : situation.settings (some first.path) with
  | error cause =>
      have hprospect : situation.prospect controller.options = .error (.settings cause) := by
        simp only [Situation.prospect, hfirst, hfolder]
      simp only [continueStart, hfolder, suit_append]
      exact ⟨by simp [enter, Action.Suits], hunread cause hprospect⟩
  | ok folder =>
      cases hworkspace : situation.settings none with
      | error cause =>
          have hprospect : situation.prospect controller.options = .error (.settings cause) := by
            simp only [Situation.prospect, hfirst, hfolder, hworkspace]
          simp only [continueStart, hfolder, hworkspace, suit_append]
          exact ⟨by simp [enter, Action.Suits], hunread cause hprospect⟩
      | ok workspace =>
          have hprospect : situation.prospect controller.options = .ok
              (configure situation controller.options situation.roots folder workspace) := by
            simp only [Situation.prospect, hfirst, hfolder, hworkspace]
          simpa [continueStart, hfolder, hworkspace, enter, Action.Suits] using hprospect

theorem suit_runStart (asker : ActivationContext) :
    Suit (situation.prospect controller.options) job.errand
      (controller.runStart situation job asker).2 := by
  cases hroots : situation.roots.head? with
  | none =>
      have hprospect : situation.prospect controller.options = .error .noWorkspace := by
        simp only [Situation.prospect, hroots]
      simp only [runStart, hroots]
      exact suit_finishStart fun failure hfailure =>
        Or.inr (hprospect.trans (congrArg Except.error (Except.error.inj hfailure)))
  | some first =>
      have hscope : situation.roots.head?.map Root.path = some first.path := by
        rw [hroots]
        rfl
      cases hclient : controller.client with
      | none =>
          simp only [runStart, hroots, hclient]
          exact suit_continueStart asker hscope
      | some client => simp [runStart, hroots, hclient, Action.Suits]

/-- What follows a stop suits the prospect, if who wants a client started goes on with the start
whatever the stop gave. -/
theorem suit_concludeStop {aftermath : Aftermath}
    (hgoes : job.errand.opens = true → ∀ failure, result = .error failure →
      aftermath ≠ .finish ∧ aftermath ≠ .settle)
    (hfound : ∀ asker scope roots, aftermath = .replace asker scope roots →
      roots = situation.roots ∧ situation.roots.head?.map Root.path = some scope) :
    Suit (situation.prospect controller.options) job.errand
      (controller.concludeStop situation job result aftermath).2 := by
  have hends (hgives : aftermath = .finish ∨ aftermath = .settle) (failure : ClientError)
      (hfailure : result = .error failure) : job.errand.opens = false := by
    by_contra hopens
    have hother := hgoes (by simpa using hopens) failure hfailure
    exact hgives.elim hother.1 hother.2
  simp only [concludeStop, suit_append]
  refine ⟨by simp [enter, Action.Suits], ?_⟩
  cases aftermath with
  | finish =>
      cases result with
      | ok done => simp [afterStop, finish_eq, Action.Suits]
      | error failure => simp [afterStop, finish_eq, Action.Suits, hends (Or.inl rfl) failure rfl]
  | start asker => exact suit_append.mpr ⟨suit_warnUnclean _ _, suit_runStart asker⟩
  | replace asker scope roots =>
      obtain ⟨rfl, hscope⟩ := hfound asker scope roots rfl
      exact suit_append.mpr ⟨suit_warnUnclean _ _, suit_continueStart asker hscope⟩
  | settle =>
      cases result with
      | ok done => simp [afterStop]
      | error failure => simp [afterStop, finish_eq, Action.Suits, hends (Or.inr rfl) failure rfl]

theorem suit_run : Suit (situation.prospect controller.options) job.errand
    (controller.run situation job).2 := by
  have hstop (aftermath : Aftermath)
      (hnew : ∀ asker scope roots, aftermath ≠ .replace asker scope roots) :
      Suit (situation.prospect controller.options) job.errand
        (controller.runStop situation job aftermath).2 := by
    cases hclient : controller.client with
    | none =>
        simp only [runStop, hclient, suit_append]
        refine ⟨suit_enterStop, suit_concludeStop ?_ ?_⟩
        · exact fun _ failure hfailure => absurd hfailure (by simp)
        · exact fun asker scope roots hsame => absurd hsame (hnew asker scope roots)
    | some client => simp [runStop, hclient, Action.Suits]
  unfold run
  split
  · exact suit_runStart _
  · exact hstop .finish (by simp)
  · exact hstop (.start _) (by simp)
  · exact hstop .settle (by simp)
  · simp [finish_eq, Action.Suits]

variable {outcome : Controller × List Action}

/-- A step makes no client but the one that the host lets a start come to, and tells a start of no
other failure of the host. -/
theorem Sound.suit_step (hsound : controller.Sound)
    (hjob : controller.job? job.id = some job)
    (hstep : controller.step situation job.id = some outcome) :
    Suit (situation.prospect controller.options) job.errand outcome.2 := by
  have hruns (holder : Option JobId) : Suit (situation.prospect controller.options) job.errand
      (({ controller with holder := holder } : Controller).run situation job).2 := suit_run
  have hresumes {recorded : Nat} (hrecorded : job.stage.recorded? = some recorded) :
      Suit (situation.prospect controller.options) job.errand outcome.2 := by
    cases hmay : controller.mayResume situation job with
    | false =>
        rw [step_of_not_mayResume hjob hrecorded hmay hstep]
        exact suit_nil
    | true =>
        obtain ⟨context, -, hresumed⟩ := hsound.resume hjob hrecorded hmay
        rw [Option.some.inj (hstep.symm.trans hresumed)]
        split
        · exact suit_runStart context
        · simp [finish_eq, Action.Suits]
  have hstep' := hstep
  simp only [step, hjob, Option.bind_some] at hstep'
  cases hstage : job.stage with
  | arriving =>
      cases hholder : controller.holder with
      | none =>
          simp only [hstage, acquire, hholder, Option.some.injEq] at hstep'
          rw [← hstep']
          exact hruns _
      | some holder =>
          simp only [hstage, acquire, hholder, Option.some.injEq] at hstep'
          rw [← hstep']
          exact suit_nil
  | inLine =>
      simp only [hstage, Option.ite_none_right_eq_some, Option.some.injEq] at hstep'
      rw [← hstep'.2]
      exact suit_run
  | settling generation wake => exact hresumes (congrArg Stage.recorded? hstage)
  | returning generation => exact hresumes (congrArg Stage.recorded? hstage)
  | closing client aftermath => simp [hstage] at hstep'
  | opening client => simp [hstage] at hstep'

theorem suit_clientStopped (hjob : controller.job? job.id = some job) (hfits : job.Fits)
    (hfound : ∀ client asker scope roots, job.stage = .closing client (.replace asker scope roots) →
      roots = situation.roots ∧ situation.roots.head?.map Root.path = some scope)
    (hstopped : controller.clientStopped situation job.id result = some outcome) :
    Suit (situation.prospect controller.options) job.errand outcome.2 := by
  simp only [clientStopped, hjob, Option.bind_some] at hstopped
  cases hstage : job.stage with
  | closing client aftermath =>
      simp only [hstage, Option.some.injEq] at hstopped
      rw [← hstopped]
      simp only [Job.Fits, hstage] at hfits
      refine suit_concludeStop (fun hopens failure _ => ⟨?_, ?_⟩) ?_
      · rintro rfl
        exact absurd hopens (by simp [hfits, Errand.opens])
      · rintro rfl
        exact absurd hopens (by simp [hfits, Errand.opens])
      · rintro asker scope roots rfl
        exact hfound client asker scope roots hstage
  | _ => simp [hstage] at hstopped

theorem suit_clientStarted (hjob : controller.job? job.id = some job)
    (harises : ∀ failure, result = .error failure → failure.arisesInSession = true)
    (hstarted : controller.clientStarted job.id result = some outcome) :
    Suit prospect job.errand outcome.2 := by
  simp only [clientStarted, hjob, Option.bind_some] at hstarted
  cases hstage : job.stage with
  | opening client =>
      have hfinish (finishing : Controller) :
          Suit prospect job.errand (finishing.finishStart job result).2 :=
        suit_finishStart fun failure hfailure => Or.inl (harises failure hfailure)
      cases result <;> simp only [hstage, Option.some.injEq] at hstarted <;> rw [← hstarted] <;>
        simp [enter, Action.Suits, hfinish]
  | _ => simp [hstage] at hstarted

end Suiting

section Failing

variable {situation : Situation} {begun before after now : Controller} {job : Job} {id : JobId}
  {context : ActivationContext} {past actions : List Action} {failure : ClientError}
  {errand : Errand} {verdict : Option (Except ClientError Unit)}

/-- Where the host lets no client be, none is made. -/
theorem not_mem_of_suit (hsuit : Suit (.error failure) errand actions) (client : Client)
    (asker : ActivationContext) : .openClient client asker ∉ actions :=
  fun hmem => absurd (hsuit _ hmem) (by simp [Action.Suits])

/-- Where the host lets no client be, a start that finds no client is over as soon as it has got the
lock. -/
theorem Progress.fails (hprogress : Progress begun id context now past verdict)
    (hsuit : Suit (.error failure) (.start context) past) (hnobody : begun.client = none) :
    .finish id (.done (.error failure)) ∈ past := by
  have hmade {client : Client} {rest : List Action}
      (hdeeds : deeds past = dismissal begun.client ++ .openClient client context :: rest) :
      False := by
    have hdeed : .openClient client context ∈ deeds past := by simp [hdeeds]
    exact not_mem_of_suit hsuit client context (List.mem_filter.mp hdeed).1
  have hended {found : ClientError} (hfound : found.arisesInSession = false)
      (hlast : .finish id (.done (.error found)) ∈ past) :
      .finish id (.done (.error failure)) ∈ past := by
    have hsuits : found.arisesInSession = true ∨ Except.error failure = Except.error found :=
      hsuit _ hlast rfl
    rcases hsuits with harises | hsame
    · exact absurd (hfound.symm.trans harises) (by decide)
    · rwa [Except.error.inj hsame]
  cases hprogress with
  | closing hclient => exact absurd (hnobody.symm.trans hclient) (by simp)
  | opening hmem hnoted hdeeds => exact (hmade hdeeds).elim
  | refused hnow hpast =>
      have hrefused : .finish id (.done (.error .noWorkspace)) ∈ past := by simp [hpast]
      exact hended rfl hrefused
  | @unread cause hfallen hdeeds =>
      have hdeed : .finish id (.done (.error (.settings cause))) ∈ deeds past := by simp [hdeeds]
      exact hended rfl (List.mem_filter.mp hdeed).1
  | unopened harises hfallen hdeeds => exact (hmade hdeeds).elim
  | opened hgone hdeeds => exact (hmade hdeeds).elim

theorem Untaken.isOpen (huntaken : before.Untaken) (id : JobId) : before.Open id :=
  Or.inl huntaken.holder

theorem Untaken.retire (huntaken : before.Untaken) (hline : now.line = before.line)
    (hjobs : now.jobs = before.jobs) (hclient : now.client = none)
    (hsubscription : now.subscription = none) : (now.retire id).Untaken where
  holder := by simp [Controller.retire, release, hline, huntaken.line]
  line := by simp [Controller.retire, release, hline, huntaken.line]
  client := hclient
  subscription := hsubscription
  coming := fun other hother => huntaken.coming other (hjobs ▸ (mem_retire.mp hother).1)

/-- Where the host lets no client be, every job is over in its first step, and nobody waits for the
lock. -/
theorem Untaken.turn (huntaken : before.Untaken) (hmem : job ∈ before.jobs)
    (hsuit : Suit (.error failure) job.errand actions)
    (hturn : Turn situation before job after actions) : after.Untaken := by
  obtain ⟨hcoming, hasked⟩ := huntaken.coming job hmem
  cases hturn with
  | wait hheld => exact absurd hheld (by simp [huntaken.holder])
  | leave => exact huntaken.retire rfl rfl huntaken.client huntaken.subscription
  | close hopen hclient => exact absurd (huntaken.client.symm.trans hclient) (by simp)
  | launch asker hopen hstill hcontext hle hlt hcause hfits hfound hfolder houtward =>
      have hmade := houtward ▸ List.mem_cons_of_mem _ (List.mem_singleton_self _)
      exact absurd (List.mem_filter.mp hmade).1 (not_mem_of_suit hsuit _ asker)
  | pause hopen hstill hle hlt herrand => exact absurd herrand hasked
  | fall => exact huntaken.retire rfl rfl rfl rfl
  | rise hopen hstage => exact absurd (hcoming.symm.trans hstage) (by simp)

theorem Untaken.begin (huntaken : before.Untaken) (hasked : errand ≠ .settle) :
    (before.begin errand).1.Untaken where
  holder := huntaken.holder
  line := huntaken.line
  client := huntaken.client
  subscription := huntaken.subscription
  coming := by
    intro job hjob
    rcases mem_begin.mp hjob with hold | rfl
    · exact huntaken.coming job hold
    · exact ⟨rfl, hasked⟩

end Failing

end NplLifecycle.Controller
