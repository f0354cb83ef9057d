import NplLifecycle.Proofs.Lifecycle.Sound

/-!
# Tidy lifecycles

Every session that the controller neither has, starts nor stops is quiet, so where the controller
has no client and no job waits for one, nothing asks for connections.
-/

namespace NplLifecycle

namespace Controller

def Stage.awaited? : Stage → Option ClientId
  | .closing client _ => some client
  | .opening client => some client.id
  | _ => none

/-- The controller has the client of a number, or a job starts or stops it. -/
def Engages (controller : Controller) (client : ClientId) : Prop :=
  controller.client.map Client.id = some client ∨
    ∃ job ∈ controller.jobs, job.stage.awaited? = some client

section Engaging

variable {situation : Situation} {before after controller : Controller} {job : Job}
  {actions : List Action} {client : ClientId}

theorem awaited?_eq (hjob : controller.job? job.id = some job) :
    controller.awaited? job.id = job.stage.awaited? := by
  simp only [Controller.awaited?, hjob, Option.bind_some]
  cases job.stage <;> rfl

theorem isBusy_of_awaited {stage : Stage} (hawaited : stage.awaited? = some client) :
    stage.isBusy = true := by
  cases stage <;> simp_all [Stage.awaited?, Stage.isBusy]

/-- A turn lets go of a client only if its job waited for that. -/
theorem Turn.engages (hturn : Turn situation before job after actions) (hsound : before.Sound)
    (hmem : job ∈ before.jobs) (hengages : before.Engages client) :
    after.Engages client ∨ job.stage.awaited? = some client := by
  have horderly := hsound.orderly
  rcases hengages with hclient | ⟨other, hother, hawaited⟩
  · have hgone : ¬ before.Still := by
      rintro (⟨-, hnone, -⟩ | ⟨-, hnone, -⟩)
      · rw [hnone] at hclient
        exact absurd hclient (by simp)
      · rw [hnone] at hclient
        exact absurd hclient (by simp)
    cases hturn with
    | wait hheld hstage => exact Or.inl (Or.inl hclient)
    | leave hopen hidle hserved hstop houtward hfinish => exact Or.inl (Or.inl hclient)
    | close hopen hsome hlt hcause hcontext hfits hfound houtward =>
        refine Or.inl (Or.inr ⟨_, mem_moveJob_self hmem, ?_⟩)
        rw [hsome] at hclient
        exact hclient
    | launch asker hopen hstill hcontext hle hlt hcause hfits hfound hfolder houtward =>
        exact absurd hstill hgone
    | pause hopen hstill hle hlt herrand hstage hserver houtward => exact absurd hstill hgone
    | fall hopen hle hcause hcontext houtward hfinish =>
        rcases houtward with ⟨hstill, -⟩ | ⟨opened, hstage, -⟩
        · exact absurd hstill hgone
        · rw [(hsound.ledger.opening job hmem opened hstage).1.2.1] at hclient
          exact absurd hclient (by simp)
    | rise hopen hstage houtward hfinish =>
        rw [(hsound.ledger.opening job hmem _ hstage).1.2.1] at hclient
        exact absurd hclient (by simp)
  · by_cases hid : other.id = job.id
    · rw [horderly.eq_of_id hmem hother hid] at hawaited
      exact Or.inr hawaited
    · exact Or.inl (Or.inr ⟨other, hturn.other_mem_jobs hother hid, hawaited⟩)

/-- After a turn the controller has the client that it had, or the one that the job waited for. -/
theorem Turn.client_after (hturn : Turn situation before job after actions)
    (hclient : after.client.map Client.id = some client) :
    before.client.map Client.id = some client ∨ job.stage.awaited? = some client := by
  cases hturn with
  | wait hheld hstage => exact Or.inl hclient
  | leave hopen hidle hserved hstop houtward hfinish => exact Or.inl hclient
  | close hopen hsome hlt hcause hcontext hfits hfound houtward =>
      exact absurd hclient (by simp [moveJob, vacate])
  | launch asker hopen hstill hcontext hle hlt hcause hfits hfound hfolder houtward =>
      exact absurd hclient (by simp [moveJob, vacate])
  | pause hopen hstill hle hlt herrand hstage hserver houtward =>
      exact absurd hclient (by simp [moveJob, vacate, release])
  | fall hopen hle hcause hcontext houtward hfinish =>
      exact absurd hclient (by simp [retire, vacate, release])
  | rise hopen hstage houtward hfinish =>
      rw [hstage]
      exact Or.inr hclient

theorem Turn.nextClient_le (hturn : Turn situation before job after actions) :
    before.nextClient ≤ after.nextClient := by
  cases hturn with
  | launch asker hopen hstill hcontext hle hlt hcause hfits hfound hfolder houtward =>
      exact Nat.le_succ _
  | wait hheld hstage => exact Nat.le_refl _
  | leave hopen hidle hserved hstop houtward hfinish => exact Nat.le_refl _
  | close hopen hsome hlt hcause hcontext hfits hfound houtward => exact Nat.le_refl _
  | pause hopen hstill hle hlt herrand hstage hserver houtward => exact Nat.le_refl _
  | fall hopen hle hcause hcontext houtward hfinish => exact Nat.le_refl _
  | rise hopen hstage houtward hfinish => exact Nat.le_refl _

end Engaging

end Controller

namespace Lifecycle

open Controller (Action)

/-- Sessions and reports fit to what the controller is doing. -/
structure Tidy (lifecycle : Lifecycle) : Prop where
  sole : ∀ client session, lifecycle.sessions.lookup client = some session → session.Sole
  session_lt : ∀ client session, lifecycle.sessions.lookup client = some session →
    client < lifecycle.controller.nextClient
  report_lt : ∀ client report, (client, report) ∈ lifecycle.reports →
    client < lifecycle.controller.nextClient
  /-- Whoever has reported waits for nothing, and nobody is left of a session that is over. -/
  told : ∀ client report, (client, report) ∈ lifecycle.reports → ∀ session,
    lifecycle.sessions.lookup client = some session →
      session.call = .idle ∧ (report.isEnd = true → session.stewards = [])
  running : ∀ client, lifecycle.controller.client.map Controller.Client.id = some client →
    (∀ report, (client, report) ∉ lifecycle.reports) ∧
      ∀ session, lifecycle.sessions.lookup client = some session → session.call = .idle
  engaged : ∀ client session, lifecycle.sessions.lookup client = some session →
    session.Quiet ∨ lifecycle.controller.Engages client

section Tidying

variable {before after lifecycle : Lifecycle} {move : Move} {effects : List Effect}
  {around : Surroundings}

theorem isVerdict_of_reportOf? {effect : Session.Effect} {report : Report}
    (hreport : reportOf? effect = some report) :
    effect.isVerdict = true ∧ (report.isEnd = true → effect.isEnd = true) := by
  cases effect with
  | started result =>
      rw [← Option.some.inj hreport]
      cases result <;> simp [Session.Effect.isVerdict, Session.Effect.isEnd, Report.isEnd,
        Except.map]
  | stopped result =>
      rw [← Option.some.inj hreport]
      exact ⟨rfl, fun _ => rfl⟩
  | connect asker => simp [reportOf?] at hreport
  | write connection message => simp [reportOf?] at hreport
  | hangUp connection => simp [reportOf?] at hreport
  | take connection => simp [reportOf?] at hreport
  | consult event decision => simp [reportOf?] at hreport
  | log line => simp [reportOf?] at hreport

/-- Whatever session there is after a change is the one that came of it, or one of another client.
-/
theorem sessions_absorb {client other : ClientId} {outcome : Session × List Session.Effect}
    {session : Session}
    (hlookup : (lifecycle.absorb client outcome).1.sessions.lookup other = some session) :
    (other = client ∧ session = outcome.1) ∨
      (other ≠ client ∧ lifecycle.sessions.lookup other = some session) := by
  by_cases hid : other = client
  · rw [hid, Lifecycle.absorb, lookup_assign_self] at hlookup
    exact Or.inl ⟨hid, (Option.some.inj hlookup).symm⟩
  · rw [Lifecycle.absorb, lookup_assign_of_ne hid] at hlookup
    exact Or.inr ⟨hid, hlookup⟩

/-- Whatever is reported after a change of a session was reported before, or the session has just
said it. -/
theorem reports_absorb {client other : ClientId} {outcome : Session × List Session.Effect}
    {report : Report} (hmem : (other, report) ∈ (lifecycle.absorb client outcome).1.reports) :
    (other, report) ∈ lifecycle.reports ∨
      (other = client ∧ ∃ effect ∈ outcome.2, reportOf? effect = some report) := by
  cases List.mem_append.mp hmem with
  | inl hold => exact Or.inl hold
  | inr hnew =>
      obtain ⟨found, hfound, hsame⟩ := List.mem_map.mp hnew
      obtain ⟨rfl, rfl⟩ := Prod.mk.inj hsame
      exact Or.inr ⟨rfl, List.mem_filterMap.mp hfound⟩

/-- What became of a session may be taken over. -/
theorem Tidy.absorb (htidy : lifecycle.Tidy) {client : ClientId}
    {outcome : Session × List Session.Effect} (hlt : client < lifecycle.controller.nextClient)
    (hanswers : Session.Answers outcome)
    (htold : ∀ report, (client, report) ∈ lifecycle.reports →
      outcome.1.call = .idle ∧ (report.isEnd = true → outcome.1.stewards = []))
    (hrunning : lifecycle.controller.client.map Controller.Client.id = some client →
      outcome.1.call = .idle ∧ ∀ effect ∈ outcome.2, effect.isVerdict = false)
    (hengaged : outcome.1.Quiet ∨ lifecycle.controller.Engages client) :
    (lifecycle.absorb client outcome).1.Tidy := by
  constructor
  · intro other session hlookup
    rcases sessions_absorb hlookup with ⟨-, rfl⟩ | ⟨-, hold⟩
    · exact hanswers.sole
    · exact htidy.sole other session hold
  · intro other session hlookup
    rcases sessions_absorb hlookup with ⟨rfl, -⟩ | ⟨-, hold⟩
    · exact hlt
    · exact htidy.session_lt other session hold
  · intro other report hmem
    rcases reports_absorb hmem with hold | ⟨rfl, -⟩
    · exact htidy.report_lt other report hold
    · exact hlt
  · intro other report hmem session hlookup
    rcases sessions_absorb hlookup with ⟨rfl, rfl⟩ | ⟨hne, hold⟩
    · rcases reports_absorb hmem with hbefore | ⟨-, effect, heffect, hfound⟩
      · exact htold report hbefore
      · obtain ⟨hverdict, hends⟩ := isVerdict_of_reportOf? hfound
        obtain ⟨hidle, hnone⟩ := hanswers.verdict effect heffect hverdict
        exact ⟨hidle, fun hend => hnone (hends hend)⟩
    · rcases reports_absorb hmem with hbefore | ⟨hid, -⟩
      · exact htidy.told other report hbefore session hold
      · exact absurd hid hne
  · intro other hclient
    obtain ⟨hsilent, hidle⟩ := htidy.running other hclient
    constructor
    · intro report hmem
      rcases reports_absorb hmem with hbefore | ⟨rfl, effect, heffect, hfound⟩
      · exact hsilent report hbefore
      · have hverdict := (isVerdict_of_reportOf? hfound).1
        rw [(hrunning hclient).2 effect heffect] at hverdict
        exact absurd hverdict (by simp)
    · intro session hlookup
      rcases sessions_absorb hlookup with ⟨rfl, rfl⟩ | ⟨-, hold⟩
      · exact (hrunning hclient).1
      · exact hidle session hold
  · intro other session hlookup
    rcases sessions_absorb hlookup with ⟨rfl, rfl⟩ | ⟨-, hold⟩
    · exact hengaged
    · exact htidy.engaged other session hold

/-- A session may get on. -/
theorem Tidy.evolve (htidy : lifecycle.Tidy) {client : ClientId} {session : Session}
    {outcome : Session × List Session.Effect}
    (hsession : lifecycle.sessions.lookup client = some session)
    (hevolves : session.Evolves outcome) : (lifecycle.absorb client outcome).1.Tidy := by
  apply htidy.absorb (htidy.session_lt client session hsession)
    (hevolves.answers (htidy.sole client session hsession))
  · intro report hmem
    obtain ⟨hidle, hnone⟩ := htidy.told client report hmem session hsession
    have htame := (hevolves.works hidle).tame
    exact ⟨htame.call.trans hidle, fun hend => htame.stewards_eq_nil (hnone hend)⟩
  · intro hclient
    have hidle := (htidy.running client hclient).2 session hsession
    have hworks := hevolves.works hidle
    exact ⟨hworks.tame.call.trans hidle, fun effect hmem => (hworks.effects effect hmem).1⟩
  · exact (htidy.engaged client session hsession).imp_left fun hquiet => (hevolves.quiet hquiet).1

/-- The sessions and the reports do not depend on the listeners. -/
theorem Tidy.listeners (htidy : lifecycle.Tidy) (listeners : List (ClientId × Inbox)) :
    Tidy { lifecycle with listeners := listeners } :=
  ⟨htidy.sole, htidy.session_lt, htidy.report_lt, htidy.told, htidy.running, htidy.engaged⟩

theorem Tidy.closeClient (htidy : lifecycle.Tidy) {client : ClientId}
    (hengages : lifecycle.controller.Engages client) (hnone : lifecycle.controller.client = none)
    (hsilent : ∀ report, (client, report) ∉ lifecycle.reports) :
    (lifecycle.perform around (.closeClient client)).1.Tidy := by
  cases hsession : lifecycle.sessions.lookup client with
  | none =>
      simp only [perform, withSession, hsession]
      exact htidy
  | some session =>
      simp only [perform, withSession, hsession]
      apply htidy.absorb (htidy.session_lt client session hsession)
        (htidy.sole client session hsession).beginStop
      · exact fun report hmem => absurd hmem (hsilent report)
      · simp [hnone]
      · exact Or.inr hengages

theorem Tidy.dropClient (htidy : lifecycle.Tidy) (around : Surroundings) {client : ClientId}
    (hnone : lifecycle.controller.client = none)
    (hquiet : ∀ session, lifecycle.sessions.lookup client = some session → session.Quiet) :
    (lifecycle.perform around (.dropClient client)).1.Tidy := by
  cases hsession : lifecycle.sessions.lookup client with
  | none =>
      simp only [perform, withSession, hsession]
      exact htidy
  | some session =>
      have hdropped : session.abandon.1.Quiet :=
        ⟨(htidy.sole client session hsession).abandon,
          (session.abandonTasks_call).trans (hquiet session hsession).2⟩
      simp only [perform, withSession, hsession]
      apply htidy.absorb (htidy.session_lt client session hsession)
        (Session.answers_of_quiet hdropped)
      · exact fun report _ => ⟨hdropped.2, fun _ => hdropped.1⟩
      · simp [hnone]
      · exact Or.inl hdropped

theorem Tidy.openClient (htidy : lifecycle.Tidy) {client : Controller.Client}
    {context : ActivationContext} (hnone : lifecycle.controller.client = none)
    (hengages : lifecycle.controller.Engages client.id)
    (hlt : client.id < lifecycle.controller.nextClient)
    (hsilent : ∀ report, (client.id, report) ∉ lifecycle.reports) :
    (lifecycle.perform around (.openClient client context)).1.Tidy := by
  have hanswers : Session.Answers
      (Session.fresh (profileOf around client context)).beginStart := by
    refine ⟨Session.sole_of_nil rfl, ?_⟩
    intro effect hmem hverdict
    rw [List.mem_singleton.mp hmem] at hverdict
    exact absurd hverdict (by simp [Session.Effect.isVerdict])
  apply htidy.absorb hlt hanswers
  · exact fun report hmem => absurd hmem (hsilent report)
  · simp [hnone]
  · exact Or.inr hengages

theorem performAll_outward (actions : List Action) :
    (lifecycle.performAll around actions).1 =
      (lifecycle.performAll around (Controller.outward actions)).1 := by
  induction actions generalizing lifecycle with
  | nil => rfl
  | cons action rest ih =>
      cases action <;> simp only [Controller.outward_cons, Action.isOutward, Bool.false_eq_true,
        if_true, if_false, List.nil_append, List.cons_append] <;> exact ih

variable {id : JobId} {job : Controller.Job} {next : Controller} {actions : List Action}
  {reports : List (ClientId × Report)}

/-- Actions that touch neither sessions nor listeners change nothing. -/
theorem performAll_of_silent (hsilent : Controller.outward actions = []) :
    lifecycle.performAll around actions = (lifecycle, actions.map .control) := by
  induction actions with
  | nil => rfl
  | cons action rest ih =>
      cases action <;> simp only [Controller.outward_cons, Action.isOutward, Bool.false_eq_true,
        if_false, if_true, List.nil_append, List.cons_append, reduceCtorEq] at hsilent <;>
        simp only [performAll, perform, ih hsilent, List.map_cons, List.cons_append,
          List.nil_append]

/-- The controller may go on to where a turn leads. -/
theorem Tidy.heed (htidy : before.Tidy) (hsound : before.controller.Sound)
    (hjob : before.controller.job? job.id = some job)
    (hturn : Controller.Turn around.situation before.controller job next actions)
    (hheeds : Heeds before job.id next reports) :
    Tidy { before with controller := next, reports := reports } := by
  have hawaited := Controller.awaited?_eq hjob
  have hle := hturn.nextClient_le
  constructor
  · exact htidy.sole
  · intro client session hlookup
    exact Nat.lt_of_lt_of_le (htidy.session_lt client session hlookup) hle
  · intro client report hmem
    exact Nat.lt_of_lt_of_le (htidy.report_lt client report (hheeds.mem _ hmem)) hle
  · exact fun client report hmem => htidy.told client report (hheeds.mem _ hmem)
  · intro client hclient
    cases hturn.client_after hclient with
    | inl hold =>
        obtain ⟨hsilent, hidle⟩ := htidy.running client hold
        exact ⟨fun report hmem => hsilent report (hheeds.mem _ hmem), hidle⟩
    | inr hopened =>
        obtain ⟨hsilent, report, hmem, -⟩ := hheeds.awaited client (hawaited.trans hopened)
        exact ⟨hsilent, fun session hlookup => (htidy.told client report hmem session hlookup).1⟩
  · intro client session hlookup
    cases htidy.engaged client session hlookup with
    | inl hquiet =>
        exact Or.inl hquiet
    | inr hengages =>
        cases hturn.engages hsound (Controller.mem_of_job? hjob).1 hengages with
        | inl hstays =>
            exact Or.inr hstays
        | inr hwaited =>
            obtain ⟨-, report, hmem, hend⟩ := hheeds.awaited client (hawaited.trans hwaited)
            cases hend with
            | inl hover =>
                obtain ⟨hidle, hnone⟩ := htidy.told client report hmem session hlookup
                exact Or.inl ⟨hnone hover, hidle⟩
            | inr hclient =>
                exact Or.inr (Or.inl hclient)

/-- A turn keeps a lifecycle tidy. -/
theorem Tidy.turn (htidy : before.Tidy) (hsound : before.controller.Sound)
    (hjob : before.controller.job? job.id = some job)
    (hturn : Controller.Turn around.situation before.controller job next actions)
    (hheeds : Heeds before job.id next reports) :
    (performAll around { before with controller := next, reports := reports } actions).1.Tidy := by
  have hmem := (Controller.mem_of_job? hjob).1
  have hheeded := htidy.heed hsound hjob hturn hheeds
  rw [performAll_outward]
  cases hturn with
  | wait hheld hstage => exact hheeded
  | leave hopen hidle hserved hstop houtward hfinish =>
      rw [houtward]
      exact hheeded
  | @close _ client _ _ _ hopen hclient hlt hcause hcontext hfits hfound houtward =>
      have hsilent : ∀ report, (client.id, report) ∉ reports := fun report hreport =>
        (htidy.running client.id (by rw [hclient]; rfl)).1 report (hheeds.mem _ hreport)
      rw [houtward, hsound.subscription_of_client hclient]
      exact (hheeded.listeners _).closeClient
        (Or.inr ⟨_, Controller.mem_moveJob_self hmem, rfl⟩) rfl hsilent
  | launch asker hopen hstill hcontext hle hlt hcause hfits hfound hfolder houtward =>
      have hsilent : ∀ report, (before.controller.nextClient, report) ∉ reports :=
        fun report hreport => Nat.lt_irrefl _ (htidy.report_lt _ report (hheeds.mem _ hreport))
      rw [houtward]
      exact (hheeded.listeners _).openClient rfl
        (Or.inr ⟨_, Controller.mem_moveJob_self hmem, rfl⟩) (Nat.lt_succ_self _) hsilent
  | pause hopen hstill hle hlt herrand hstage hserver houtward =>
      rw [houtward]
      exact hheeded
  | @fall _ _ context generation hopen hle hcause hcontext houtward hfinish =>
      rcases houtward with ⟨hstill, houtward⟩ | ⟨client, hstage, houtward⟩
      · rw [houtward]
        exact hheeded
      · have hquiet : ∀ session, before.sessions.lookup client.id = some session →
            session.Quiet := by
          intro session hlookup
          have hawaited := (Controller.awaited?_eq hjob).trans
            (show job.stage.awaited? = some client.id by rw [hstage]; rfl)
          obtain ⟨-, report, hreport, hend⟩ := hheeds.awaited client.id hawaited
          obtain ⟨hidle, hnone⟩ := htidy.told client.id report hreport session hlookup
          exact ⟨hnone (hend.resolve_right (by simp [Controller.retire, Controller.vacate,
            Controller.release])), hidle⟩
        rw [houtward]
        exact (hheeded.listeners _).dropClient around rfl hquiet
  | rise hopen hstage houtward hfinish =>
      rw [houtward]
      exact hheeded

theorem Tidy.begin (htidy : lifecycle.Tidy) (errand : Controller.Errand) :
    Tidy { lifecycle with controller := (lifecycle.controller.begin errand).1 } where
  sole := htidy.sole
  session_lt := htidy.session_lt
  report_lt := htidy.report_lt
  told := htidy.told
  running := htidy.running
  engaged := by
    intro client session hlookup
    refine (htidy.engaged client session hlookup).imp_right (Or.imp_right ?_)
    rintro ⟨job, hmem, hawaited⟩
    exact ⟨job, Controller.mem_begin.mpr (Or.inl hmem), hawaited⟩

/-- Every move keeps a lifecycle tidy. -/
theorem Tidy.step (htidy : before.Tidy) (hsound : before.controller.Sound)
    (hmove : before.next? move = some (after, effects)) : after.Tidy := by
  cases advance_of_next? hsound hmove with
  | rest hawaits hcontroller hlisteners hcontrols hsession =>
      obtain ⟨client, session, outcome, hlookup, hevolves, habsorb⟩ := hsession
      have hevolved := htidy.evolve hlookup hevolves
      rw [habsorb] at hevolved
      exact hevolved
  | call herrand => exact htidy.begin _
  | announce => exact htidy.listeners _
  | turn hjob harrives hlisteners hperformed =>
      obtain ⟨-, rfl⟩ := Controller.mem_of_job? hjob
      obtain ⟨reports, hheeds, hresult⟩ := hperformed
      have hturned := htidy.turn hsound hjob harrives.2 hheeds
      rw [hresult] at hturned
      exact hturned
  | @read _ client _ rest reading hinbox hnext =>
      have hread := htidy.listeners (assign client rest before.listeners)
      rcases react_eq { before with listeners := assign client rest before.listeners }
        reading with hsame | hbegun
      · rw [hsame]
        exact hread
      · rw [hbegun]
        exact hread.begin .settle
  | hush hclosed hinbox hnext => exact htidy.listeners _

theorem tidy_idle (options : Controller.Options) : (idle options).Tidy where
  sole := fun _ _ hlookup => absurd hlookup (by simp [idle])
  session_lt := fun _ _ hlookup => absurd hlookup (by simp [idle])
  report_lt := fun _ _ hmem => absurd hmem List.not_mem_nil
  told := fun _ _ hmem => absurd hmem List.not_mem_nil
  running := fun _ hclient => absurd hclient (by simp [idle, Controller.idle])
  engaged := fun _ _ hlookup => absurd hlookup (by simp [idle])

/-- Where there is no client and no job waits for one, all sessions are quiet. -/
theorem Tidy.quiet (htidy : lifecycle.Tidy) (hclient : lifecycle.controller.client = none)
    (hidle : ∀ job ∈ lifecycle.controller.jobs, job.stage.isBusy = false) {client : ClientId}
    {session : Session} (hlookup : lifecycle.sessions.lookup client = some session) :
    session.Quiet := by
  rcases htidy.engaged client session hlookup with hquiet | hsome | ⟨job, hmem, hawaited⟩
  · exact hquiet
  · rw [hclient] at hsome
    exact absurd hsome (by simp)
  · have hbusy := Controller.isBusy_of_awaited hawaited
    rw [hidle job hmem] at hbusy
    exact absurd hbusy (by simp)

end Tidying

end Lifecycle

end NplLifecycle
