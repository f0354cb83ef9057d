import NplLifecycle.Proofs.Controller.Prospect
import NplLifecycle.Proofs.Lifecycle.Freshness
import NplLifecycle.Proofs.Lifecycle.Settling
import NplLifecycle.Proofs.Session.Greeting

/-!
# Lifecycles of one host

A host that always says the same lets every start come to the same: to a client with one
configuration, or to one failure.  So every client of a run has that configuration, every greeting
in it speaks for such a client, and a start fails over the host exactly where no client can be.
-/

namespace NplLifecycle

namespace Controller

/-- A client that the controller comes to have is one that it makes. -/
theorem Turn.keeps {situation : Situation} {before after : Controller} {job : Job}
    {actions : List Action} {client : Client} (hturn : Turn situation before job after actions)
    (h : before.Orderly) (hmem : job ∈ before.jobs) (hkeeps : after.Keeps client) :
    before.Keeps client ∨ ∃ asker, .openClient client asker ∈ actions := by
  have hold {other : Job} (hbefore : other ∈ before.jobs) (hstage : other.stage = .opening client) :
      before.Keeps client := Or.inr ⟨other, hbefore, hstage⟩
  have hmoved {stage : Stage} {other : Job} (hother : other ∈ (before.moveJob job.id stage).jobs)
      (hstage : other.stage = .opening client) : before.Keeps client ∨ stage = .opening client := by
    rcases (h.mem_moveJob_iff hmem).mp hother with ⟨hbefore, -⟩ | rfl
    · exact Or.inl (hold hbefore hstage)
    · exact Or.inr hstage
  cases hturn with
  | wait hheld hnew =>
      rcases hkeeps with hclient | ⟨other, hother, hstage⟩
      · exact Or.inl (Or.inl hclient)
      · refine Or.inl ((hmoved hother hstage).resolve_right fun hopening => ?_)
        exact absurd (Turn.idle_of_wait hnew).2 (by simp [hopening, Stage.isBusy])
  | leave =>
      rcases hkeeps with hclient | ⟨other, hother, hstage⟩
      · exact Or.inl (Or.inl hclient)
      · exact Or.inl (hold (mem_retire.mp hother).1 hstage)
  | close =>
      rcases hkeeps with hclient | ⟨other, hother, hstage⟩
      · exact absurd hclient (by simp [moveJob, vacate])
      · exact Or.inl ((hmoved hother hstage).resolve_right (by simp))
  | launch asker hopen hstill hcontext hle hlt hcause hfits hfound hfolder houtward =>
      rcases hkeeps with hclient | ⟨other, hother, hstage⟩
      · exact absurd hclient (by simp [moveJob, vacate])
      · refine (hmoved hother hstage).imp_right fun hopening => ⟨asker, ?_⟩
        have hmade := houtward ▸ List.mem_cons_of_mem _ (List.mem_singleton_self _)
        rw [← Stage.opening.inj hopening]
        exact (List.mem_filter.mp hmade).1
  | pause =>
      rcases hkeeps with hclient | ⟨other, hother, hstage⟩
      · exact absurd hclient (by simp [moveJob, vacate, release])
      · exact Or.inl ((hmoved hother hstage).resolve_right (by simp))
  | fall =>
      rcases hkeeps with hclient | ⟨other, hother, hstage⟩
      · exact absurd hclient (by simp [retire, vacate, release])
      · exact Or.inl (hold (mem_retire.mp hother).1 hstage)
  | rise hopen hrisen =>
      rcases hkeeps with hclient | ⟨other, hother, hstage⟩
      · exact Or.inl (hold hmem (Option.some.inj hclient ▸ hrisen))
      · exact Or.inl (hold (mem_retire.mp hother).1 hstage)

end Controller

namespace Lifecycle

open Controller (Action Suit)

/-- Does a move find a host, at whatever time? -/
def Finds (host : Controller.Situation) : Move → Prop
  | .task around _ => around.situation = { host with now := around.situation.now }
  | _ => True

/-- A profile speaks for a client that a host lets a start make. -/
structure SpeaksFor (host : Controller.Situation) (options : Controller.Options)
    (profile : ClientProfile) : Prop where
  configuration : host.prospect options = .ok profile.configuration
  workingDirectory : profile.workingDirectory = host.workingDirectory

/-- Whatever greeting goes out among effects, it is for a client that a host lets a start make. -/
def Greets (host : Controller.Situation) (options : Controller.Options)
    (effects : List Effect) : Prop :=
  ∀ client connection request,
    .session client (.write connection (.request request)) ∈ effects →
      request.method = Session.greetingMethod →
        ∃ profile, SpeaksFor host options profile ∧ profile.handshake = .ok request.params

structure Owes (host : Controller.Situation) (options : Controller.Options)
    (controller : Controller) : Prop where
  given : controller.options = options
  found : ∀ job ∈ controller.jobs, ∀ client asker scope roots,
    job.stage = .closing client (.replace asker scope roots) →
      roots = host.roots ∧ host.roots.head?.map Root.path = some scope
  kept : ∀ client, controller.Keeps client → host.prospect options = .ok client.configuration

/-- All sessions are of clients that a host lets a start make. -/
def Peopled (host : Controller.Situation) (options : Controller.Options)
    (lifecycle : Lifecycle) : Prop :=
  ∀ entry ∈ lifecycle.sessions, SpeaksFor host options entry.2.profile

/-- What holds between any two moves that find a host. -/
structure Lodged (host : Controller.Situation) (options : Controller.Options)
    (lifecycle : Lifecycle) : Prop where
  sound : lifecycle.Sound
  tidy : lifecycle.Tidy
  candid : lifecycle.Candid
  owes : Owes host options lifecycle.controller
  peopled : lifecycle.Peopled host options

section Speaking

variable {host : Controller.Situation} {options : Controller.Options} {lifecycle : Lifecycle}
  {around : Surroundings} {client : ClientId} {early late effects : List Effect}

theorem greets_append (hearly : Greets host options early) (hlate : Greets host options late) :
    Greets host options (early ++ late) := by
  intro client connection request hmem
  rcases List.mem_append.mp hmem with hmem | hmem
  · exact hearly client connection request hmem
  · exact hlate client connection request hmem

theorem greets_of_silent (hsilent : ∀ client, dealings client effects = []) :
    Greets host options effects := by
  intro client connection request hmem
  have hdealt := mem_dealings.mpr hmem
  rw [hsilent client] at hdealt
  exact absurd hdealt List.not_mem_nil

/-- What becomes of a session leaves it that of its client, for whom it greets. -/
theorem peopled_absorb (hpeopled : lifecycle.Peopled host options) {session : Session}
    {outcome : Session × List Session.Effect} (hspeaks : SpeaksFor host options session.profile)
    (hpresents : session.Presents outcome) :
    (lifecycle.absorb client outcome).1.Peopled host options ∧
      Greets host options (lifecycle.absorb client outcome).2 := by
  constructor
  · intro entry hentry
    rcases mem_assign.mp hentry with ⟨hold, -⟩ | rfl
    · exact hpeopled entry hold
    · rw [hpresents.profile]
      exact hspeaks
  · intro other connection request hmem hmethod
    obtain ⟨effect, heffect, hsame⟩ := List.mem_map.mp hmem
    rw [(Effect.session.inj hsame).2] at heffect
    exact ⟨session.profile, hspeaks, hpresents.introduces connection request heffect hmethod⟩

theorem peopled_withSession (hpeopled : lifecycle.Peopled host options)
    {change : Session → Session × List Session.Effect}
    (hpresents : ∀ session : Session, session.Presents (change session)) :
    (lifecycle.withSession client change).1.Peopled host options ∧
      Greets host options (lifecycle.withSession client change).2 := by
  cases hsession : lifecycle.sessions.lookup client with
  | none =>
      simp only [withSession, hsession]
      exact ⟨hpeopled, greets_of_silent fun _ => rfl⟩
  | some session =>
      simp only [withSession, hsession]
      exact peopled_absorb hpeopled (hpeopled _ (mem_of_lookup hsession)) (hpresents session)

theorem peopled_perform (hpeopled : lifecycle.Peopled host options)
    (hdirectory : around.situation.workingDirectory = host.workingDirectory) {action : Action}
    {errand : Controller.Errand} (hsuits : action.Suits (host.prospect options) errand) :
    (lifecycle.perform around action).1.Peopled host options ∧
      Greets host options (lifecycle.perform around action).2 := by
  have hsilent : Greets host options [.control action] := greets_of_silent fun _ => rfl
  have hbehind {outcome : Lifecycle × List Effect}
      (houtcome : outcome.1.Peopled host options ∧ Greets host options outcome.2) :
      outcome.1.Peopled host options ∧ Greets host options (.control action :: outcome.2) :=
    ⟨houtcome.1, greets_append hsilent houtcome.2⟩
  cases action with
  | openClient opened context =>
      have hspeaks : SpeaksFor host options (profileOf around opened context) :=
        ⟨hsuits, hdirectory⟩
      have hpresents : (Session.fresh (profileOf around opened context)).Presents
          (Session.fresh (profileOf around opened context)).beginStart :=
        ⟨rfl, Session.introduces_of_unwritten rfl⟩
      exact hbehind (peopled_absorb hpeopled hspeaks hpresents)
  | closeClient closed =>
      exact hbehind (peopled_withSession hpeopled fun _ => Session.presents_beginStop)
  | dropClient dropped =>
      exact hbehind (peopled_withSession hpeopled fun _ => Session.presents_abandon)
  | _ => exact ⟨hpeopled, hsilent⟩

/-- To do what suits a host makes no session but those of clients that the host lets a start
make. -/
theorem peopled_performAll (hpeopled : lifecycle.Peopled host options)
    (hdirectory : around.situation.workingDirectory = host.workingDirectory)
    {actions : List Action} {errand : Controller.Errand}
    (hsuit : Suit (host.prospect options) errand actions) :
    (lifecycle.performAll around actions).1.Peopled host options ∧
      Greets host options (lifecycle.performAll around actions).2 := by
  induction actions generalizing lifecycle with
  | nil => exact ⟨hpeopled, greets_of_silent fun _ => rfl⟩
  | cons action rest ih =>
      obtain ⟨hsuits, hrest⟩ := Controller.suit_cons.mp hsuit
      obtain ⟨hnext, hfirst⟩ := peopled_perform hpeopled hdirectory hsuits
      obtain ⟨hlast, hmore⟩ := ih hnext hrest
      exact ⟨hlast, greets_append hfirst hmore⟩

end Speaking

section Owing

variable {host : Controller.Situation} {options : Controller.Options}
  {before after : Lifecycle} {around : Surroundings} {move : Move} {job : Controller.Job}
  {effects : List Effect}

/-- Whenever a host is found, it lets a start come to the same. -/
theorem prospect_of_finds {task : Task} (hfinds : Finds host (.task around task)) :
    around.situation.prospect options = host.prospect options := by
  have hsame : around.situation = { host with now := around.situation.now } := hfinds
  rw [hsame]
  rfl

/-- A move of a job does only what suits the host. -/
theorem Lodged.suit (hlodged : before.Lodged host options)
    (hfinds : Finds host (.task around (.job job.id)))
    (hjob : before.controller.job? job.id = some job)
    (hmove : before.next? (.task around (.job job.id)) = some (after, effects)) :
    Suit (host.prospect options) job.errand (controls effects) := by
  have hmem := (Controller.mem_of_job? hjob).1
  have hsame : around.situation = { host with now := around.situation.now } := hfinds
  have hprospect : around.situation.prospect before.controller.options = host.prospect options := by
    rw [hlodged.owes.given]
    exact prospect_of_finds hfinds
  cases works_of_stepJob hmove with
  | @lets client session outcome hawaited hreport hsession hcall hafter =>
      have hsilent := controls_absorb before client outcome
      rw [hafter] at hsilent
      rw [hsilent]
      exact Controller.suit_nil
  | steps hawaited hstep =>
      rw [← hprospect]
      exact hlodged.sound.controller.suit_step hjob hstep
  | stopped hawaited hreport hstep =>
      rw [← hprospect]
      have hfits := hlodged.sound.controller.fits job hmem
      refine Controller.suit_clientStopped hjob hfits ?_ hstep
      rw [hsame]
      exact hlodged.owes.found job hmem
  | started hawaited hreport hstep =>
      refine Controller.suit_clientStarted hjob (fun failure hfailure => ?_) hstep
      exact hlodged.candid.report _ failure (hfailure ▸ mem_of_lookup hreport)

theorem Lodged.owes_step (hlodged : before.Lodged host options) (hfinds : Finds host move)
    (hmove : before.next? move = some (after, effects)) : Owes host options after.controller := by
  have hsound := hlodged.sound
  have howes := hlodged.owes
  have hshadow := (advance_of_next? hsound.controller hmove).shadow
  rcases hshadow with ⟨-, hsame⟩ | ⟨-, errand, hbegun, -⟩ | ⟨around, job, rfl, hjob, -, hturn⟩
  · rw [hsame]
    exact howes
  · rw [hbegun]
    refine ⟨howes.given, fun job hmem client asker scope roots hstage => ?_,
      fun client hkeeps => howes.kept client (keeps_begin.mp hkeeps)⟩
    exact howes.found job (Controller.mem_of_begin hmem (by simp [hstage])) client asker scope
      roots hstage
  · have hmem := (Controller.mem_of_job? hjob).1
    have hsame : around.situation = { host with now := around.situation.now } := hfinds
    have hsuit := hlodged.suit hfinds hjob hmove
    refine ⟨hturn.options.trans howes.given, ?_, fun client hkeeps => ?_⟩
    · intro other hother client asker scope roots hstage
      rcases Hosted.found_of_turn hturn hsound.controller.orderly hmem hother hstage with
        hold | hnow | ⟨closed, context, hclosing⟩
      · exact howes.found other hold client asker scope roots hstage
      · rw [hsame] at hnow
        exact hnow
      · exact howes.found job hmem closed context scope roots hclosing
    · rcases hturn.keeps hsound.controller.orderly hmem hkeeps with hold | ⟨asker, hmade⟩
      · exact howes.kept client hold
      · exact hsuit _ hmade

theorem Lodged.peopled_step (hlodged : before.Lodged host options) (hfinds : Finds host move)
    (hmove : before.next? move = some (after, effects)) :
    after.Peopled host options ∧ Greets host options effects := by
  have hpeopled := hlodged.peopled
  cases advance_of_next? hlodged.sound.controller hmove with
  | rest hawaits hcontroller hlisteners hcontrols hsession =>
      obtain ⟨client, session, outcome, hlookup, hevolves, habsorb⟩ := hsession
      have hafter := @peopled_absorb host options before client hpeopled session outcome
        (hpeopled _ (mem_of_lookup hlookup)) hevolves.presents
      rw [habsorb] at hafter
      exact hafter
  | call herrand => exact ⟨hpeopled, greets_of_silent fun _ => rfl⟩
  | announce => exact ⟨hpeopled, greets_of_silent fun _ => rfl⟩
  | @turn around id job _ _ hjob harrives hlisteners hperformed =>
      obtain ⟨-, rfl⟩ := Controller.mem_of_job? hjob
      obtain ⟨reports, -, hresult⟩ := hperformed
      have hsame : around.situation = { host with now := around.situation.now } := hfinds
      have hafter := @peopled_performAll host options
        { before with controller := after.controller, reports := reports } around hpeopled
        (by rw [hsame]) _ _ (hlodged.suit hfinds hjob hmove)
      rw [hresult] at hafter
      exact hafter
  | @read _ listener _ rest reading hinbox hnext =>
      refine ⟨?_, greets_of_silent fun client => dealings_react _ reading client⟩
      rcases react_eq { before with listeners := assign listener rest before.listeners }
        reading with hsame | hbegun
      · rw [hsame]
        exact hpeopled
      · rw [hbegun]
        exact hpeopled
  | hush => exact ⟨hpeopled, greets_of_silent fun _ => rfl⟩

end Owing

section Running

variable {host : Controller.Situation} {options : Controller.Options} {moves : List Move}
  {before now after : Lifecycle} {around : Surroundings} {move : Move} {job : Controller.Job}
  {context : ActivationContext} {past effects : List Effect} {failure : ClientError}

theorem lodged_idle (host : Controller.Situation) (options : Controller.Options) :
    (idle options).Lodged host options where
  sound := sound_idle options
  tidy := tidy_idle options
  candid := ⟨by simp [idle], by simp [idle]⟩
  owes := by
    refine ⟨rfl, fun job hmem => absurd hmem List.not_mem_nil, ?_⟩
    rintro client (hclient | ⟨job, hmem, -⟩)
    · exact absurd hclient (by simp [idle, Controller.idle])
    · exact absurd hmem List.not_mem_nil
  peopled := by simp [Peopled, idle]

theorem Lodged.step (hlodged : before.Lodged host options) (hfinds : Finds host move)
    (hmove : before.next? move = some (after, effects)) : after.Lodged host options where
  sound := hlodged.sound.step hmove
  tidy := hlodged.tidy.step hlodged.sound.controller hmove
  candid := hlodged.candid.step hlodged.sound hlodged.tidy hmove
  owes := hlodged.owes_step hfinds hmove
  peopled := (hlodged.peopled_step hfinds hmove).1

/-- Whatever a run has and says is from the host that its moves find. -/
theorem lodged_of_run (hfinds : ∀ move ∈ moves, Finds host move)
    (hrun : Run.follow next? (idle options) moves = some (now, past)) :
    now.Lodged host options ∧ Greets host options past := by
  refine Run.follow_induction
    (fun lifecycle trace => lifecycle.Lodged host options ∧ Greets host options trace)
    ⟨lodged_idle host options, greets_of_silent fun _ => rfl⟩ ?_ hrun
  intro before trace move after effects hmem hbefore hmove
  have hfound := hfinds move hmem
  exact ⟨hbefore.1.step hfound hmove,
    greets_append hbefore.2 (hbefore.1.peopled_step hfound hmove).2⟩

/-- Where the host lets no client be, no move has anybody wait for the lock. -/
theorem Lodged.untaken_step (hlodged : before.Lodged host options)
    (hprospect : host.prospect options = .error failure) (huntaken : before.controller.Untaken)
    (hfinds : Finds host move) (hmove : before.next? move = some (after, effects)) :
    after.controller.Untaken := by
  have hdeaf : before.listeners = [] := by
    refine eq_nil_of_attended hlodged.sound.attended fun client hkeeps => ?_
    exact absurd (hprospect.symm.trans (hlodged.owes.kept client hkeeps)) (by simp)
  cases advance_of_next? hlodged.sound.controller hmove with
  | rest hawaits hcontroller =>
      rw [hcontroller]
      exact huntaken
  | call herrand => exact huntaken.begin herrand
  | announce => exact huntaken
  | turn hjob harrives =>
      obtain ⟨hmem, rfl⟩ := Controller.mem_of_job? hjob
      have hsuit := hlodged.suit hfinds hjob hmove
      rw [hprospect] at hsuit
      exact huntaken.turn hmem hsuit harrives.2
  | read hinbox => exact absurd hinbox (by simp [hdeaf])
  | hush => exact huntaken

theorem untaken_of_run (hprospect : host.prospect options = .error failure)
    (hfinds : ∀ move ∈ moves, Finds host move)
    (hrun : Run.follow next? (idle options) moves = some (now, past)) :
    now.controller.Untaken := by
  have hidle : (idle options).controller.Untaken :=
    ⟨rfl, rfl, rfl, rfl, fun job hmem => absurd hmem List.not_mem_nil⟩
  have hholds := Run.follow_induction
    (fun lifecycle _ => lifecycle.Lodged host options ∧ lifecycle.controller.Untaken)
    ⟨lodged_idle host options, hidle⟩ ?_ hrun
  · exact hholds.2
  · intro before trace move after effects hmem hbefore hmove
    have hfound := hfinds move hmem
    exact ⟨hbefore.1.step hfound hmove,
      hbefore.1.untaken_step hprospect hbefore.2 hfound hmove⟩

/-- Where the host lets no client be, a start that is there can go on at any time, and is over then
with the failure of the host. -/
theorem exists_finish_of_untaken (hlodged : now.Lodged host options)
    (hprospect : host.prospect options = .error failure) (huntaken : now.controller.Untaken)
    (hmem : job ∈ now.controller.jobs) (herrand : job.errand = .start context)
    (hfinds : Finds host (.task around (.job job.id))) :
    ∃ after effects, now.next? (.task around (.job job.id)) = some (after, effects) ∧
      .control (.finish job.id (.done (.error failure))) ∈ effects := by
  have horderly := hlodged.sound.controller.orderly
  have hjob := horderly.job?_of_mem hmem
  have hopen := huntaken.isOpen job.id
  have hnew : job.stage.isNew = true := by
    rw [(huntaken.coming job hmem).1]
    rfl
  have hawaited : now.controller.awaited? job.id = none := by
    rw [Controller.awaited?_eq hjob, (huntaken.coming job hmem).1]
    rfl
  let outcome := now.obey around ((now.controller.hold job.id).run around.situation job)
  have hmove : now.next? (.task around (.job job.id)) = some (outcome.1, outcome.2) := by
    simp only [next?, Lifecycle.step, stepJob, hawaited, horderly.step_of_new hmem hopen hnew,
      Option.map_some]
    rfl
  have hcontrols : controls outcome.2 = ((now.controller.hold job.id).run around.situation job).2 :=
    (obey_frame around now _).2
  obtain ⟨verdict, -, hprogress⟩ := @Controller.Sound.progress_of_run around.situation _ _ _
    hlodged.sound.controller hmem herrand hopen (Controller.Stage.not_isBusy_of_isNew hnew)
  have hsuit := hlodged.suit hfinds hjob hmove
  rw [hprospect, herrand, hcontrols] at hsuit
  refine ⟨outcome.1, outcome.2, hmove, mem_controls.mp ?_⟩
  rw [hcontrols]
  exact hprogress.fails hsuit huntaken.client

/-- A start fails over its host exactly where the host lets no client be, and over the same: it is
told so as soon as it goes on, and otherwise never. -/
theorem fails_iff_of_run (hfinds : ∀ move ∈ moves, Finds host move)
    (hrun : Run.follow next? (idle options) moves = some (now, past))
    (hmem : job ∈ now.controller.jobs) (herrand : job.errand = .start context)
    (hnow : Finds host (.task around (.job job.id))) (hhost : failure.arisesInSession = false) :
    (∃ after effects, now.next? (.task around (.job job.id)) = some (after, effects) ∧
      .control (.finish job.id (.done (.error failure))) ∈ effects) ↔
        host.prospect options = .error failure := by
  have hlodged := (lodged_of_run hfinds hrun).1
  constructor
  · rintro ⟨after, effects, hmove, hfinish⟩
    have hjob := hlodged.sound.controller.orderly.job?_of_mem hmem
    have hsuits := hlodged.suit hnow hjob hmove _ (mem_controls.mpr hfinish)
    rw [herrand] at hsuits
    have hcause : failure.arisesInSession = true ∨ host.prospect options = .error failure :=
      hsuits rfl
    exact hcause.resolve_left (by simp [hhost])
  · intro hprospect
    exact exists_finish_of_untaken hlodged hprospect (untaken_of_run hprospect hfinds hrun) hmem
      herrand hnow

end Running

end Lifecycle

end NplLifecycle
