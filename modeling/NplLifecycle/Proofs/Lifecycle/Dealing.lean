import NplLifecycle.Proofs.Lifecycle.Tidy

/-!
# What a move does to a session

A session gets on by itself, or the controller stops it, forgets it or makes it.  Which of these a
move does to the session of a client, and what becomes of the controller's hold on that client, is
listed here once; what holds of every session in every run is read off this list.
-/

namespace NplLifecycle

namespace Controller

variable {situation : Situation} {before after : Controller} {job : Job} {actions : List Action}
  {client : ClientId}

theorem Stage.closing_or_opening {stage : Stage} (hbusy : stage.isBusy = true) :
    (∃ client aftermath, stage = .closing client aftermath) ∨
      ∃ client, stage = .opening client := by
  cases stage with
  | closing client aftermath => exact Or.inl ⟨client, aftermath, rfl⟩
  | opening client => exact Or.inr ⟨client, rfl⟩
  | arriving => simp [Stage.isBusy] at hbusy
  | inLine => simp [Stage.isBusy] at hbusy
  | settling generation wake => simp [Stage.isBusy] at hbusy
  | returning generation => simp [Stage.isBusy] at hbusy

/-- A job that opens a client has it run at the end of its turn, or forgets it. -/
theorem Turn.opened (hturn : Turn situation before job after actions) (hsound : before.Sound)
    (hmem : job ∈ before.jobs) {opened : Client} (hstage : job.stage = .opening opened) :
    after.client = some opened ∨
      outward actions = [.unsubscribe opened.id, .dropClient opened.id] := by
  have hbusy : job.stage.isBusy = true := by rw [hstage]; rfl
  have hstill := hsound.not_still_of_opening hmem hstage
  cases hturn with
  | wait hheld hwaits => exact absurd hbusy (by simp [(Turn.idle_of_wait hwaits).1])
  | leave hopen hidle => exact absurd hbusy (by simp [hidle])
  | close hopen hclient =>
      rw [(hsound.ledger.opening job hmem opened hstage).1.2.1] at hclient
      exact absurd hclient (by simp)
  | launch asker hopen hnow => exact absurd hnow hstill
  | pause hopen hnow => exact absurd hnow hstill
  | fall hopen hle hcause hcontext houtward =>
      rcases houtward with ⟨hnow, -⟩ | ⟨forgotten, hforgotten, houtward⟩
      · exact absurd hnow hstill
      · rw [Stage.opening.inj (hstage.symm.trans hforgotten)]
        exact Or.inr houtward
  | rise hopen hrisen =>
      rw [Stage.opening.inj (hstage.symm.trans hrisen)]
      exact Or.inl rfl

/-- A turn lets go of a client that its job was stopping, or that it forgets. -/
theorem Turn.lets (hturn : Turn situation before job after actions) (hsound : before.Sound)
    (hmem : job ∈ before.jobs) (hengages : before.Engages client) :
    after.Engages client ∨ (∃ aftermath, job.stage = .closing client aftermath) ∨
      outward actions = [.unsubscribe client, .dropClient client] := by
  rcases hturn.engages hsound hmem hengages with hstays | hawaited
  · exact Or.inl hstays
  rcases Stage.closing_or_opening (isBusy_of_awaited hawaited) with
    ⟨closed, aftermath, hstage⟩ | ⟨opened, hstage⟩
  · rw [hstage] at hawaited
    rw [← Option.some.inj hawaited]
    exact Or.inr (Or.inl ⟨aftermath, hstage⟩)
  · rw [hstage] at hawaited
    rw [← Option.some.inj hawaited]
    rcases hturn.opened hsound hmem hstage with hclient | hdropped
    · exact Or.inl (Or.inl (congrArg (Option.map Client.id) hclient))
    · exact Or.inr (Or.inr hdropped)

/-- A turn takes up no client but the one that it makes. -/
theorem Turn.takes (hturn : Turn situation before job after actions) (hsound : before.Sound)
    (hmem : job ∈ before.jobs) (hengages : after.Engages client) :
    before.Engages client ∨ (client = before.nextClient ∧ before.Still ∧
      ∃ opened context, opened.id = client ∧
        outward actions = [.subscribe client, .openClient opened context]) := by
  rcases hengages with hclient | ⟨other, hother, hawaited⟩
  · rcases hturn.client_after hclient with hsame | hwaited
    · exact Or.inl (Or.inl hsame)
    · exact Or.inl (Or.inr ⟨job, hmem, hwaited⟩)
  have hold : other ∈ before.jobs → before.Engages client :=
    fun hbefore => Or.inr ⟨other, hbefore, hawaited⟩
  cases hturn with
  | wait hheld hwaits =>
      rcases (hsound.orderly.mem_moveJob_iff hmem).mp hother with ⟨hbefore, -⟩ | rfl
      · exact Or.inl (hold hbefore)
      · exact absurd (isBusy_of_awaited hawaited) (by simp [(Turn.idle_of_wait hwaits).2])
  | leave => exact Or.inl (hold (mem_retire.mp hother).1)
  | close hopen hclient =>
      rcases (hsound.orderly.mem_moveJob_iff hmem).mp hother with ⟨hbefore, -⟩ | rfl
      · exact Or.inl (hold hbefore)
      · rw [← Option.some.inj hawaited]
        exact Or.inl (Or.inl (by rw [hclient]; rfl))
  | launch asker hopen hstill hcontext hle hlt hcause hfits hfound hfolder houtward =>
      rcases (hsound.orderly.mem_moveJob_iff hmem).mp hother with ⟨hbefore, -⟩ | rfl
      · exact Or.inl (hold hbefore)
      · rw [← Option.some.inj hawaited]
        exact Or.inr ⟨rfl, hstill, _, asker, rfl, houtward⟩
  | pause =>
      rcases (hsound.orderly.mem_moveJob_iff hmem).mp hother with ⟨hbefore, -⟩ | rfl
      · exact Or.inl (hold hbefore)
      · exact absurd hawaited (by simp [Stage.awaited?])
  | fall => exact Or.inl (hold (mem_retire.mp hother).1)
  | rise => exact Or.inl (hold (mem_retire.mp hother).1)

end Controller

namespace Lifecycle

open Controller (Action)

def Effect.dealing? (client : ClientId) : Effect → Option Session.Effect
  | .session other effect => if other = client then some effect else none
  | _ => none

def dealings (client : ClientId) (effects : List Effect) : List Session.Effect :=
  effects.filterMap (·.dealing? client)

/-- A stop of the client has ended, and no job has looked at that yet. -/
def Stopped (lifecycle : Lifecycle) (client : ClientId) : Prop :=
  ∃ result, (client, .stopped result) ∈ lifecycle.reports

/-- Whatever is reported of a client after something has happened, its session has just said, or it
was reported before. -/
def Reporting (before : Lifecycle) (outcome : Lifecycle × List Effect) : Prop :=
  ∀ client report, (client, report) ∈ outcome.1.reports →
    (client, report) ∈ before.reports ∨
      ∃ effect ∈ dealings client outcome.2, reportOf? effect = some report

/-- What a move does to the session of a client, with what the session does then. -/
inductive Deals (before after : Lifecycle) (client : ClientId) : List Session.Effect → Prop
  /-- Nothing; and the controller has hold of the client as before, if it was not stopped. -/
  | keep (hsession : after.sessions.lookup client = before.sessions.lookup client)
      (htakes : after.controller.Engages client → before.controller.Engages client)
      (hlets : ∀ session, before.sessions.lookup client = some session →
        before.controller.Engages client →
          after.controller.Engages client ∨ before.Stopped client) :
      Deals before after client []
  /-- It gets on by itself. -/
  | evolve {session : Session} {outcome : Session × List Session.Effect}
      (hsession : before.sessions.lookup client = some session)
      (hevolves : session.Evolves outcome) (hcontroller : after.controller = before.controller)
      (hafter : after.sessions.lookup client = some outcome.1) :
      Deals before after client outcome.2
  /-- The controller, whose client it is, stops it. -/
  | close {around : Session.Surroundings} {session : Session}
      (hsession : before.sessions.lookup client = some session)
      (hclient : before.controller.client.map Controller.Client.id = some client)
      (hengages : after.controller.Engages client)
      (hafter : after.sessions.lookup client = some (session.beginStop around).1) :
      Deals before after client (session.beginStop around).2
  /-- The controller could not start it, and forgets it. -/
  | drop {session : Session} (hsession : before.sessions.lookup client = some session)
      (hengages : before.controller.Engages client) (hidle : session.call = .idle)
      (hafter : after.sessions.lookup client = some session.abandon.1) :
      Deals before after client session.abandon.2
  /-- It is made, and begins its start. -/
  | make {profile : ClientProfile} (hnew : client = before.controller.nextClient)
      (hengages : after.controller.Engages client)
      (hafter : after.sessions.lookup client = some (Session.fresh profile).beginStart.1) :
      Deals before after client [.connect .start]

section Dealings

variable {client other : ClientId} {effects : List Effect}

theorem mem_dealings {effect : Session.Effect} :
    effect ∈ dealings client effects ↔ .session client effect ∈ effects := by
  rw [dealings, List.mem_filterMap]
  constructor
  · rintro ⟨found, hmem, hdealing⟩
    cases found with
    | session other made =>
        simp only [Effect.dealing?, Option.ite_none_right_eq_some, Option.some.injEq] at hdealing
        obtain ⟨rfl, rfl⟩ := hdealing
        exact hmem
    | control action => simp [Effect.dealing?] at hdealing
    | log line => simp [Effect.dealing?] at hdealing
  · exact fun hmem => ⟨_, hmem, if_pos rfl⟩

@[simp]
theorem dealings_nil : dealings client [] = [] := rfl

@[simp]
theorem dealings_append (early late : List Effect) :
    dealings client (early ++ late) = dealings client early ++ dealings client late :=
  List.filterMap_append

@[simp]
theorem dealings_control (action : Action) (rest : List Effect) :
    dealings client (.control action :: rest) = dealings client rest := rfl

@[simp]
theorem dealings_log (line : LogLine) (rest : List Effect) :
    dealings client (.log line :: rest) = dealings client rest := rfl

@[simp]
theorem dealings_session (effect : Session.Effect) (rest : List Effect) :
    dealings client (.session client effect :: rest) = effect :: dealings client rest := by
  simp [dealings, Effect.dealing?]

theorem dealings_session_of_ne (hne : other ≠ client) (effect : Session.Effect)
    (rest : List Effect) :
    dealings other (.session client effect :: rest) = dealings other rest := by
  simp [dealings, Effect.dealing?, Ne.symm hne]

@[simp]
theorem dealings_map_self (made : List Session.Effect) :
    dealings client (made.map (.session client)) = made := by
  simp [dealings, Effect.dealing?]

theorem dealings_map_of_ne (hne : other ≠ client) (made : List Session.Effect) :
    dealings other (made.map (.session client)) = [] := by
  simp [dealings, Effect.dealing?, Ne.symm hne]

@[simp]
theorem dealings_map_log (lines : List LogLine) : dealings client (lines.map .log) = [] := by
  simp [dealings, Effect.dealing?]

@[simp]
theorem dealings_map_control (actions : List Action) :
    dealings client (actions.map .control) = [] := by
  simp [dealings, Effect.dealing?]

variable {before after : Lifecycle} {dealt : List Session.Effect}

/-- A session lasts, and whatever it does, it is there. -/
theorem Deals.isSome_after (hdeals : Deals before after client dealt)
    (hthere : (before.sessions.lookup client).isSome ∨ dealt ≠ []) :
    (after.sessions.lookup client).isSome := by
  cases hdeals with
  | keep hsession htakes hlets =>
      rw [hsession]
      exact hthere.resolve_right fun hnone => hnone rfl
  | evolve hsession hevolves hcontroller hafter => simp [hafter]
  | close hsession hclient hengages hafter => simp [hafter]
  | drop hsession hengages hidle hafter => simp [hafter]
  | make hnew hengages hafter => simp [hafter]

/-- A session that is new has asked for its first connection. -/
theorem Deals.isSome_before (hdeals : Deals before after client dealt)
    (hthere : (after.sessions.lookup client).isSome) :
    (before.sessions.lookup client).isSome ∨ .connect .start ∈ dealt := by
  cases hdeals with
  | keep hsession htakes hlets => exact Or.inl (hsession ▸ hthere)
  | evolve hsession hevolves hcontroller hafter => simp [hsession]
  | close hsession hclient hengages hafter => simp [hsession]
  | drop hsession hengages hidle hafter => simp [hsession]
  | make hnew hengages hafter => simp

end Dealings

section Performing

variable {lifecycle : Lifecycle} {around : Surroundings} {client other : ClientId}

theorem absorb_self (lifecycle : Lifecycle) (client : ClientId)
    (outcome : Session × List Session.Effect) :
    (lifecycle.absorb client outcome).1.sessions.lookup client = some outcome.1 ∧
      dealings client (lifecycle.absorb client outcome).2 = outcome.2 :=
  ⟨lookup_assign_self .., dealings_map_self _⟩

/-- What becomes of one session leaves the others alone. -/
theorem absorb_of_ne (lifecycle : Lifecycle) (outcome : Session × List Session.Effect)
    (hne : other ≠ client) :
    (lifecycle.absorb client outcome).1.sessions.lookup other = lifecycle.sessions.lookup other ∧
      dealings other (lifecycle.absorb client outcome).2 = [] :=
  ⟨lookup_assign_of_ne hne .., dealings_map_of_ne hne _⟩

/-- To change a session that is there changes that one; otherwise all sessions stay as they are. -/
theorem withSession_cases (lifecycle : Lifecycle) (client other : ClientId)
    (change : Session → Session × List Session.Effect) :
    (other = client ∧ ∃ session, lifecycle.sessions.lookup client = some session ∧
        (lifecycle.withSession client change).1.sessions.lookup client = some (change session).1 ∧
        dealings client (lifecycle.withSession client change).2 = (change session).2) ∨
      ((other = client → lifecycle.sessions.lookup client = none) ∧
        (lifecycle.withSession client change).1.sessions.lookup other =
          lifecycle.sessions.lookup other ∧
        dealings other (lifecycle.withSession client change).2 = []) := by
  cases hsession : lifecycle.sessions.lookup client with
  | none => simp [withSession, hsession]
  | some session =>
      simp only [withSession, hsession]
      by_cases hid : other = client
      · exact Or.inl ⟨hid, session, rfl, absorb_self lifecycle client (change session)⟩
      · exact Or.inr ⟨fun hsame => absurd hsame hid, absorb_of_ne lifecycle _ hid⟩

theorem reporting_absorb (lifecycle : Lifecycle) (client : ClientId)
    (outcome : Session × List Session.Effect) :
    Reporting lifecycle (lifecycle.absorb client outcome) := by
  intro other report hmem
  rcases reports_absorb hmem with hold | ⟨rfl, hsaid⟩
  · exact Or.inl hold
  · rw [(absorb_self lifecycle other outcome).2]
    exact Or.inr hsaid

theorem reporting_withSession (lifecycle : Lifecycle) (client : ClientId)
    (change : Session → Session × List Session.Effect) :
    Reporting lifecycle (lifecycle.withSession client change) := by
  cases hsession : lifecycle.sessions.lookup client with
  | none =>
      simp only [withSession, hsession]
      exact fun _ _ hmem => Or.inl hmem
  | some session =>
      simp only [withSession, hsession]
      exact reporting_absorb lifecycle client (change session)

theorem reporting_perform (around : Surroundings) (lifecycle : Lifecycle) (action : Action) :
    Reporting lifecycle (lifecycle.perform around action) := by
  cases action with
  | openClient opened context => exact reporting_absorb lifecycle opened.id _
  | closeClient client => exact reporting_withSession lifecycle client _
  | dropClient client => exact reporting_withSession lifecycle client _
  | _ => exact fun _ _ hmem => Or.inl hmem

theorem reporting_performAll (around : Surroundings) (lifecycle : Lifecycle)
    (actions : List Action) : Reporting lifecycle (lifecycle.performAll around actions) := by
  induction actions generalizing lifecycle with
  | nil => exact fun _ _ hmem => Or.inl hmem
  | cons action rest ih =>
      intro client report hmem
      simp only [performAll, dealings_append, List.mem_append]
      rcases ih _ client report hmem with hmiddle | ⟨effect, heffect, hreport⟩
      · rcases reporting_perform around lifecycle action client report hmiddle with
          hold | ⟨effect, heffect, hreport⟩
        · exact Or.inl hold
        · exact Or.inr ⟨effect, Or.inl heffect, hreport⟩
      · exact Or.inr ⟨effect, Or.inr heffect, hreport⟩

theorem dealings_performAll_outward (client : ClientId) (actions : List Action) :
    dealings client (lifecycle.performAll around actions).2 =
      dealings client (lifecycle.performAll around (Controller.outward actions)).2 := by
  induction actions generalizing lifecycle with
  | nil => rfl
  | cons action rest ih =>
      cases action <;> simp only [performAll, Controller.outward_cons, Action.isOutward,
        Bool.false_eq_true, if_true, if_false, List.nil_append, List.cons_append,
        dealings_append] <;> rw [ih] <;> rfl

/-- A turn that makes a client begins its start and touches no other session. -/
theorem performAll_of_launch {after : Lifecycle} {effects : List Effect} {actions : List Action}
    {opened : Controller.Client} {context : ActivationContext}
    (houtward : Controller.outward actions = [.subscribe client, .openClient opened context])
    (hid : opened.id = client)
    (hperformed : lifecycle.performAll around actions = (after, effects)) :
    (∃ profile, after.sessions.lookup client = some (Session.fresh profile).beginStart.1) ∧
      dealings client effects = [.connect .start] ∧ ∀ other, other ≠ client →
        after.sessions.lookup other = lifecycle.sessions.lookup other ∧
          dealings other effects = [] := by
  have hafter : (lifecycle.performAll around actions).1 = _ := performAll_outward actions
  have hdealings : ∀ other, dealings other (lifecycle.performAll around actions).2 = _ :=
    fun other => dealings_performAll_outward other actions
  simp only [hperformed, houtward, performAll, perform, hid, List.cons_append, List.nil_append,
    List.append_nil, dealings_control] at hafter hdealings
  refine ⟨⟨_, hafter ▸ (absorb_self _ client _).1⟩,
    (hdealings client).trans (absorb_self _ client _).2, fun other hne => ?_⟩
  obtain ⟨hsession, hnothing⟩ := absorb_of_ne _ _ hne
  exact ⟨hafter ▸ hsession, (hdealings other).trans hnothing⟩

/-- A turn that stops listening for a client and then stops or forgets it changes the session of
that client, if there is one, and touches no other session. -/
theorem performAll_of_change {after : Lifecycle} {effects : List Effect} {actions : List Action}
    {action : Action} {change : Session → Session × List Session.Effect}
    (houtward : Controller.outward actions = [.unsubscribe client, action])
    (hchange : ∀ lifecycle : Lifecycle, lifecycle.perform around action =
      ((lifecycle.withSession client change).1,
        .control action :: (lifecycle.withSession client change).2))
    (hperformed : lifecycle.performAll around actions = (after, effects)) (other : ClientId) :
    (other = client ∧ ∃ session, lifecycle.sessions.lookup client = some session ∧
        after.sessions.lookup client = some (change session).1 ∧
        dealings client effects = (change session).2) ∨
      ((other = client → lifecycle.sessions.lookup client = none) ∧
        after.sessions.lookup other = lifecycle.sessions.lookup other ∧
        dealings other effects = []) := by
  have hafter : (lifecycle.performAll around actions).1 = _ := performAll_outward actions
  have hdealings (named : ClientId) : dealings named (lifecycle.performAll around actions).2 = _ :=
    dealings_performAll_outward named actions
  have hunsubscribe : lifecycle.perform around (.unsubscribe client) =
      ({ lifecycle with listeners := lifecycle.listeners.filter (·.1 ≠ client) },
        [.control (.unsubscribe client)]) := rfl
  simp only [hperformed, houtward, performAll, hunsubscribe, hchange, List.cons_append,
    List.nil_append, List.append_nil, dealings_control] at hafter hdealings
  rw [hafter, hdealings, hdealings]
  exact withSession_cases
    { lifecycle with listeners := lifecycle.listeners.filter (·.1 ≠ client) } client other change

end Performing

section Moving

variable {before after : Lifecycle} {move : Move} {effects : List Effect}
  {around : Surroundings} {job : Controller.Job} {next : Controller} {actions : List Action}
  {reports : List (ClientId × Report)}

/-- A job that waits for a client goes on when the client has reported how its start or stop went;
until then it lets the client get on. -/
theorem stepJob_of_awaited {id : JobId} {client : ClientId}
    (hawaited : before.controller.awaited? id = some client)
    (hstep : before.stepJob around id = some (after, effects)) :
    (after.controller = before.controller ∧ controls effects = []) ∨
      (∃ result, (client, .stopped result) ∈ before.reports ∧
        before.controller.clientStopped around.situation id result =
          some (after.controller, controls effects)) ∨
      ∃ result, (client, .started result) ∈ before.reports ∧
        before.controller.clientStarted id result =
          some (after.controller, controls effects) := by
  cases works_of_stepJob hstep with
  | @lets awaited session outcome hclient hreport hsession hcall hafter =>
      rw [← absorb_controller before awaited outcome, ← controls_absorb before awaited outcome,
        hafter]
      exact Or.inl ⟨rfl, rfl⟩
  | steps hnobody => exact absurd (hawaited.symm.trans hnobody) (by simp)
  | stopped hclient hreport hstopped =>
      rw [hawaited] at hclient
      rw [← Option.some.inj hclient] at hreport
      exact Or.inr (Or.inl ⟨_, mem_of_lookup hreport, hstopped⟩)
  | started hclient hreport hstarted =>
      rw [hawaited] at hclient
      rw [← Option.some.inj hclient] at hreport
      exact Or.inr (Or.inr ⟨_, mem_of_lookup hreport, hstarted⟩)

/-- A job that waits for a stop goes on when the client has reported it, and then the server is
stopped first of all. -/
theorem stepJob_of_closing (hjob : before.controller.job? job.id = some job) {client : ClientId}
    {aftermath : Controller.Aftermath} (hstage : job.stage = .closing client aftermath)
    (hstep : before.stepJob around job.id = some (after, effects)) :
    after.controller = before.controller ∨
      (before.Stopped client ∧ ∃ rest, effects = .control .stopServer :: rest) := by
  have hawaited : before.controller.awaited? job.id = some client := by
    rw [Controller.awaited?_eq hjob, hstage]
    rfl
  cases works_of_stepJob hstep with
  | @lets awaited session outcome hclient hreport hsession hcall hafter =>
      rw [← absorb_controller before awaited outcome, hafter]
      exact Or.inl rfl
  | steps hnobody => exact absurd (hawaited.symm.trans hnobody) (by simp)
  | stopped hclient hreport hstopped hperformed =>
      rw [hawaited] at hclient
      rw [← Option.some.inj hclient] at hreport
      simp only [Controller.clientStopped, hjob, hstage, Option.bind_some, Option.some.injEq,
        Controller.concludeStop, Prod.mk.injEq] at hstopped
      rw [← hstopped.2] at hperformed
      exact Or.inr ⟨⟨_, mem_of_lookup hreport⟩, _, (Prod.mk.inj hperformed).2.symm⟩
  | started hclient hreport hstarted => simp [Controller.clientStarted, hjob, hstage] at hstarted

/-- A turn that neither makes nor forgets a client keeps hold of it, if it was not stopped. -/
theorem deals_of_untouched (hsound : before.controller.Sound) (hmem : job ∈ before.controller.jobs)
    (hturn : Controller.Turn around.situation before.controller job after.controller actions)
    (hstopped : ∀ closed aftermath, job.stage = .closing closed aftermath →
      after.controller = before.controller ∨ before.Stopped closed) (client : ClientId)
    (hsession : after.sessions.lookup client = before.sessions.lookup client)
    (hunmade : ∀ opened context, Controller.outward actions ≠
      [.subscribe client, .openClient opened context])
    (hundropped : ∀ session, before.sessions.lookup client = some session →
      Controller.outward actions ≠ [.unsubscribe client, .dropClient client]) :
    Deals before after client [] := by
  refine .keep hsession ?_ ?_
  · intro hengages
    rcases hturn.takes hsound hmem hengages with hold | ⟨-, -, opened, context, -, hmade⟩
    · exact hold
    · exact absurd hmade (hunmade opened context)
  · intro session hlookup hengages
    rcases hturn.lets hsound hmem hengages with hstays | ⟨aftermath, hstage⟩ | hdropped
    · exact Or.inl hstays
    · rcases hstopped client aftermath hstage with hsame | hstop
      · exact Or.inl (hsame ▸ hengages)
      · exact Or.inr hstop
    · exact absurd hdropped (hundropped session hlookup)

/-- A turn that asks for nothing outward deals with nobody. -/
theorem deals_of_silent (hsound : before.controller.Sound) (hmem : job ∈ before.controller.jobs)
    (hturn : Controller.Turn around.situation before.controller job after.controller actions)
    (hstopped : ∀ closed aftermath, job.stage = .closing closed aftermath →
      after.controller = before.controller ∨ before.Stopped closed)
    (hperformed : performAll around { before with controller := next, reports := reports }
      actions = (after, effects)) (houtward : Controller.outward actions = []) (client : ClientId) :
    Deals before after client (dealings client effects) := by
  have huntouched := deals_of_untouched hsound hmem hturn hstopped client
  obtain ⟨rfl, rfl⟩ := Prod.mk.inj ((performAll_of_silent houtward).symm.trans hperformed)
  rw [dealings_map_control]
  exact huntouched rfl (by simp [houtward]) (by simp [houtward])

/-- A turn deals with one client at most: with the one that it stops, makes or forgets. -/
theorem deals_of_turn (htidy : before.Tidy) (hsound : before.controller.Sound)
    (hjob : before.controller.job? job.id = some job)
    (hturn : Controller.Turn around.situation before.controller job next actions)
    (hheeds : Heeds before job.id next reports)
    (hstopped : ∀ closed aftermath, job.stage = .closing closed aftermath →
      next = before.controller ∨ before.Stopped closed)
    (hperformed : performAll around { before with controller := next, reports := reports }
      actions = (after, effects)) (client : ClientId) :
    Deals before after client (dealings client effects) := by
  have hmem := (Controller.mem_of_job? hjob).1
  have hnext : after.controller = next := by
    have hframe := (performAll_frame around
      { before with controller := next, reports := reports } actions).1
    rwa [hperformed] at hframe
  have huntouched := deals_of_untouched hsound hmem (hnext ▸ hturn) (hnext ▸ hstopped) client
  have hsilent (houtward : Controller.outward actions = []) :=
    deals_of_silent hsound hmem (hnext ▸ hturn) (hnext ▸ hstopped) hperformed houtward client
  cases hturn with
  | wait hheld hstage => exact hsilent rfl
  | leave hopen hidle hserved hstop houtward hfinish => exact hsilent houtward
  | close hopen hclient hlt hcause hcontext hfits hfound houtward =>
      rw [hsound.subscription_of_client hclient] at houtward
      rcases performAll_of_change houtward (fun _ => rfl) hperformed client with
        ⟨rfl, session, hlookup, hsession, hdealings⟩ | ⟨-, hsession, hdealings⟩
      · rw [hdealings]
        refine .close hlookup (by rw [hclient]; rfl) ?_ hsession
        rw [hnext]
        exact Or.inr ⟨_, Controller.mem_moveJob_self hmem, rfl⟩
      · rw [hdealings]
        exact huntouched hsession (by simp [houtward]) (by simp [houtward])
  | launch asker hopen hstill hcontext hle hlt hcause hfits hfound hfolder houtward =>
      obtain ⟨⟨profile, hmade⟩, hself, hothers⟩ := performAll_of_launch houtward rfl hperformed
      by_cases hid : client = before.controller.nextClient
      · rw [hid, hself]
        refine .make rfl ?_ hmade
        rw [hnext]
        exact Or.inr ⟨_, Controller.mem_moveJob_self hmem, rfl⟩
      · obtain ⟨hsession, hnothing⟩ := hothers client hid
        rw [houtward] at huntouched
        rw [hnothing]
        exact huntouched hsession (by simpa using fun hsame => absurd hsame.symm hid) (by simp)
  | pause hopen hstill hle hlt herrand hstage hserver houtward => exact hsilent houtward
  | fall hopen hle hcause hcontext houtward hfinish =>
      rcases houtward with ⟨-, houtward⟩ | ⟨opened, hstage, houtward⟩
      · exact hsilent houtward
      have hawaited := (Controller.awaited?_eq hjob).trans
        (show job.stage.awaited? = some opened.id by rw [hstage]; rfl)
      rcases performAll_of_change houtward (fun _ => rfl) hperformed client with
        ⟨rfl, session, hlookup, hsession, hdealings⟩ | ⟨hnone, hsession, hdealings⟩
      · rw [hdealings]
        obtain ⟨-, report, hreport, -⟩ := hheeds.awaited opened.id hawaited
        exact .drop hlookup (Or.inr ⟨job, hmem, by rw [hstage]; rfl⟩)
          (htidy.told opened.id report hreport session hlookup).1 hsession
      · rw [hdealings]
        refine huntouched hsession (by simp [houtward]) ?_
        intro session hlookup hsame
        simp only [houtward, List.cons.injEq, Action.unsubscribe.injEq, and_true] at hsame
        exact absurd (hlookup.symm.trans (hsame.1 ▸ hnone hsame.1.symm)) (by simp)
  | rise hopen hstage houtward hfinish => exact hsilent houtward

theorem engages_begin {controller : Controller} {errand : Controller.Errand} {client : ClientId} :
    (controller.begin errand).1.Engages client ↔ controller.Engages client := by
  refine or_congr Iff.rfl ⟨?_, ?_⟩
  · rintro ⟨job, hjob, hawaited⟩
    refine ⟨job, Controller.mem_of_begin hjob ?_, hawaited⟩
    intro hnew
    simp [hnew, Controller.Stage.awaited?] at hawaited
  · rintro ⟨job, hjob, hawaited⟩
    exact ⟨job, Controller.mem_begin.mpr (Or.inl hjob), hawaited⟩

theorem dealings_react (lifecycle : Lifecycle) (reading : Inbox.Reading) (client : ClientId) :
    dealings client (lifecycle.react reading).2 = [] := by
  obtain ⟨lines, hlines⟩ := lifecycle.exists_lines_react reading
  rw [hlines, dealings_map_log]

/-- What leaves the sessions alone, and the controller's hold on the clients. -/
theorem deals_of_same {client : ClientId} (hsessions : after.sessions = before.sessions)
    (hengages : after.controller.Engages client ↔ before.controller.Engages client) :
    Deals before after client [] :=
  .keep (by rw [hsessions]) hengages.mp fun _ _ hengaged => Or.inl (hengages.mpr hengaged)

/-- Every move deals with the session of a client in one of the ways listed. -/
theorem deals_of_next? (htidy : before.Tidy) (hsound : before.controller.Sound)
    (hmove : before.next? move = some (after, effects)) (client : ClientId) :
    Deals before after client (dealings client effects) := by
  cases advance_of_next? hsound hmove with
  | rest hawaits hcontroller hlisteners hcontrols hsession =>
      obtain ⟨changed, session, outcome, hlookup, hevolves, habsorb⟩ := hsession
      by_cases hid : client = changed
      · obtain ⟨hafter, hdealings⟩ := absorb_self before changed outcome
        rw [habsorb] at hafter hdealings
        rw [hid, hdealings]
        exact .evolve hlookup hevolves hcontroller hafter
      · obtain ⟨hafter, hdealings⟩ := absorb_of_ne before outcome hid
        rw [habsorb] at hafter hdealings
        rw [hdealings]
        exact .keep hafter (hcontroller ▸ id) fun _ _ hengaged => Or.inl (hcontroller ▸ hengaged)
  | call herrand => exact deals_of_same rfl engages_begin
  | announce => exact deals_of_same rfl Iff.rfl
  | turn hjob harrives hlisteners hperformed =>
      obtain ⟨-, rfl⟩ := Controller.mem_of_job? hjob
      obtain ⟨reports, hheeds, hresult⟩ := hperformed
      refine deals_of_turn htidy hsound hjob harrives.2 hheeds ?_ hresult client
      intro closed aftermath hstage
      exact (stepJob_of_closing hjob hstage hmove).imp_right And.left
  | @read _ listener _ rest reading hinbox hnext =>
      rw [dealings_react]
      rcases react_eq { before with listeners := assign listener rest before.listeners }
        reading with hsame | hbegun
      · rw [hsame]
        exact deals_of_same rfl Iff.rfl
      · rw [hbegun]
        exact deals_of_same rfl engages_begin
  | hush hclosed hinbox hnext => exact deals_of_same rfl Iff.rfl

theorem reporting_of_next? (hsound : before.controller.Sound)
    (hmove : before.next? move = some (after, effects)) : Reporting before (after, effects) := by
  cases advance_of_next? hsound hmove with
  | rest hawaits hcontroller hlisteners hcontrols hsession =>
      obtain ⟨changed, session, outcome, hlookup, hevolves, habsorb⟩ := hsession
      rw [← habsorb]
      exact reporting_absorb before changed outcome
  | call herrand => exact fun _ _ hmem => Or.inl hmem
  | announce => exact fun _ _ hmem => Or.inl hmem
  | turn hjob harrives hlisteners hperformed =>
      obtain ⟨reports, hheeds, hresult⟩ := hperformed
      intro client report hmem
      have hreporting := reporting_performAll _ _ _ client report (hresult ▸ hmem)
      rw [hresult] at hreporting
      exact hreporting.imp_left (hheeds.mem _)
  | @read _ listener _ rest reading hinbox hnext =>
      intro client report hmem
      rcases react_eq { before with listeners := assign listener rest before.listeners }
        reading with hsame | hbegun
      · rw [hsame] at hmem
        exact Or.inl hmem
      · rw [hbegun] at hmem
        exact Or.inl hmem
  | hush hclosed hinbox hnext => exact fun _ _ hmem => Or.inl hmem

end Moving

end Lifecycle

end NplLifecycle
