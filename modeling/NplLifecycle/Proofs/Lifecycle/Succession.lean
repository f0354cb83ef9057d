import NplLifecycle.Proofs.Lifecycle.Cycle
import NplLifecycle.Proofs.Lifecycle.Parted

/-!
# The succession of clients

A client is made only where the controller has no other and stops none, and on the way there the
server was stopped.  So behind the last connection that a client asks for, and before the first one
that the next client asks for, the server is stopped, and by then nothing is left of the earlier
client.
-/

namespace NplLifecycle

namespace Controller

/-- What holds around a turn that makes a client. -/
structure Launches (before : Controller) (job : Job) (actions : List Action) (after : Controller)
    (client : ClientId) : Prop where
  still : before.Still
  hold : before.Open job.id
  fresh : client = before.nextClient
  outward : ∃ opened context, opened.id = client ∧
    Controller.outward actions = [.subscribe client, .openClient opened context]
  engages : ∀ other, after.Engages other ↔ other = client

variable {situation : Situation} {before after : Controller} {job : Job} {actions : List Action}

theorem Turn.launches (hturn : Turn situation before job after actions) (hsound : before.Sound)
    (hmem : job ∈ before.jobs) {opened : Client} {context : ActivationContext}
    (hopened : .openClient opened context ∈ actions) :
    Launches before job actions after opened.id := by
  have houtgoing : .openClient opened context ∈ outward actions :=
    List.mem_filter.mpr ⟨hopened, rfl⟩
  cases hturn with
  | wait => exact absurd houtgoing List.not_mem_nil
  | leave hopen hidle hserved hstop houtward =>
      exact absurd houtgoing (houtward ▸ List.not_mem_nil)
  | close hopen hclient hlt hcause hcontext hfits hfound houtward =>
      rw [houtward, hsound.subscription_of_client hclient] at houtgoing
      exact absurd houtgoing (by simp)
  | launch asker hopen hstill hcontext hle hlt hcause hfits hfound hfolder houtward =>
      rw [houtward] at houtgoing
      simp only [List.mem_cons, reduceCtorEq, Action.openClient.injEq, false_or,
        List.not_mem_nil, or_false] at houtgoing
      obtain ⟨rfl, rfl⟩ := houtgoing
      refine ⟨hstill, hopen, rfl, ⟨_, context, rfl, houtward⟩, ?_⟩
      intro other
      constructor
      · rintro (hclient | ⟨worker, hworker, hawaited⟩)
        · exact absurd hclient (by simp [moveJob, vacate])
        · rcases (hsound.orderly.mem_moveJob_iff hmem).mp hworker with ⟨hold, hne⟩ | rfl
          · exact absurd (isBusy_of_awaited hawaited)
              (by simp [hsound.orderly.other_idle hopen hold hne])
          · exact (Option.some.inj hawaited).symm
      · rintro rfl
        exact Or.inr ⟨_, mem_moveJob_self hmem, rfl⟩
  | pause hopen hstill hle hlt herrand hstage hserver houtward =>
      exact absurd houtgoing (houtward ▸ List.not_mem_nil)
  | fall hopen hle hcause hcontext houtward =>
      rcases houtward with ⟨-, houtward⟩ | ⟨forgotten, -, houtward⟩
      · exact absurd houtgoing (houtward ▸ List.not_mem_nil)
      · rw [houtward] at houtgoing
        exact absurd houtgoing (by simp)
  | rise hopen hstage houtward => exact absurd houtgoing (houtward ▸ List.not_mem_nil)

end Controller

namespace Lifecycle

open Controller (Action)

def Asks (effects : List Effect) : Prop :=
  ∃ client asker, .session client (.connect asker) ∈ effects

/-- Behind every wish for a connection the server is stopped. -/
def Released (trace : List Effect) : Prop :=
  ∀ early client asker late, trace = early ++ .session client (.connect asker) :: late →
    .control .stopServer ∈ late

/-- What has happened so far fits to the sessions and to the controller. -/
structure Traced (lifecycle : Lifecycle) (past : List Effect) : Prop where
  known : ∀ client effect, .session client effect ∈ past →
    (lifecycle.sessions.lookup client).isSome
  born : ∀ client, (lifecycle.sessions.lookup client).isSome →
    .session client (.connect .start) ∈ past
  /-- Where the controller has no client and no job waits for one, the server was stopped. -/
  released : (∀ client, ¬lifecycle.controller.Engages client) → Released past

section Releasing

variable {past more early late : List Effect} {client : ClientId} {asker : Session.Asker}

theorem released_nil : Released [] := by
  intro early client asker late h
  exact absurd h.symm (List.append_ne_nil_of_right_ne_nil _ (List.cons_ne_nil _ _))

/-- Where nobody asks for a connection, every wish stands further in front. -/
theorem exists_of_append_eq (hplain : ¬Asks more)
    (h : past ++ more = early ++ .session client (.connect asker) :: late) :
    ∃ rest, past = early ++ .session client (.connect asker) :: rest ∧ late = rest ++ more := by
  have hnot : .session client (.connect asker) ∉ more := fun hmem => hplain ⟨client, asker, hmem⟩
  rcases List.append_eq_append_iff.mp h with ⟨rest, -, hmore⟩ | ⟨rest, hpast, hrest⟩
  · rw [hmore] at hnot
    exact absurd (by simp) hnot
  · cases rest with
    | nil =>
        rw [List.nil_append] at hrest
        rw [← hrest] at hnot
        exact absurd List.mem_cons_self hnot
    | cons effect rest =>
        obtain ⟨rfl, hlate⟩ := List.cons.inj hrest
        exact ⟨rest, hpast, hlate⟩

theorem Released.append (hreleased : Released past) (hplain : ¬Asks more) :
    Released (past ++ more) := by
  intro early client asker late h
  obtain ⟨rest, hpast, rfl⟩ := exists_of_append_eq hplain h
  exact List.mem_append_left _ (hreleased early client asker rest hpast)

theorem released_of_stopServer (hstop : .control .stopServer ∈ more) (hplain : ¬Asks more) :
    Released (past ++ more) := by
  intro early client asker late h
  obtain ⟨rest, -, rfl⟩ := exists_of_append_eq hplain h
  exact List.mem_append_right _ hstop

end Releasing

section Asking

variable {lifecycle after : Lifecycle} {around : Surroundings} {actions : List Action}
  {effects : List Effect}

theorem not_asks_of_dealings (h : ∀ client, dealings client effects = []) : ¬Asks effects := by
  rintro ⟨client, asker, hmem⟩
  rw [← mem_dealings, h client] at hmem
  exact absurd hmem List.not_mem_nil

/-- To stop or to forget a client is not to ask for a connection. -/
theorem not_asks_withSession {client : ClientId}
    {change : Session → Session × List Session.Effect}
    (hplain : ∀ session, ∀ effect ∈ (change session).2, effect.isConnect = false) :
    ¬Asks (lifecycle.withSession client change).2 := by
  rintro ⟨other, asker, hmem⟩
  cases hsession : lifecycle.sessions.lookup client with
  | none => simp [withSession, hsession] at hmem
  | some session =>
      simp only [withSession, hsession] at hmem
      obtain ⟨effect, heffect, hsame⟩ := List.mem_map.mp hmem
      have hconnect := hplain session effect heffect
      rw [(Effect.session.inj hsame).2] at hconnect
      exact absurd hconnect (by simp [Session.Effect.isConnect])

/-- The controller asks for a connection only where it makes a client. -/
theorem openClient_of_asks (hasks : Asks (lifecycle.performAll around actions).2) :
    ∃ opened context, .openClient opened context ∈ actions := by
  induction actions generalizing lifecycle with
  | nil =>
      obtain ⟨client, asker, hmem⟩ := hasks
      exact absurd hmem List.not_mem_nil
  | cons action rest ih =>
      obtain ⟨client, asker, hmem⟩ := hasks
      cases List.mem_append.mp hmem with
      | inr hrest =>
          obtain ⟨opened, context, hopened⟩ := ih ⟨client, asker, hrest⟩
          exact ⟨opened, context, List.mem_cons_of_mem _ hopened⟩
      | inl hfirst =>
          cases action with
          | openClient opened context => exact ⟨opened, context, List.mem_cons_self⟩
          | closeClient closed =>
              have hmade := (List.mem_cons.mp hfirst).resolve_left (by simp)
              exact absurd ⟨client, asker, hmade⟩
                (not_asks_withSession fun _ _ => Session.beginStop_plain)
          | dropClient dropped =>
              have hmade := (List.mem_cons.mp hfirst).resolve_left (by simp)
              exact absurd ⟨client, asker, hmade⟩
                (not_asks_withSession fun _ _ => Session.close_plain)
          | _ => simp at hfirst

end Asking

section Stepping

variable {before after : Lifecycle} {around : Surroundings} {job : Controller.Job}
  {effects past : List Effect} {move : Move}

/-- A job that waits for a start goes on when the client has reported it: then the controller has
the client, or the server is stopped. -/
theorem stepJob_of_opening (hjob : before.controller.job? job.id = some job)
    {opened : Controller.Client} (hstage : job.stage = .opening opened)
    (hstep : before.stepJob around job.id = some (after, effects)) :
    after.controller = before.controller ∨ after.controller.client = some opened ∨
      .control .stopServer ∈ effects := by
  have hawaited : before.controller.awaited? job.id = some opened.id := by
    rw [Controller.awaited?_eq hjob, hstage]
    rfl
  rcases stepJob_of_awaited hawaited hstep with ⟨hsame, -⟩ | ⟨result, -, hstopped⟩ |
    ⟨result, -, hstarted⟩
  · exact Or.inl hsame
  · simp [Controller.clientStopped, hjob, hstage] at hstopped
  · right
    cases result with
    | ok done =>
        simp only [Controller.clientStarted, hjob, hstage, Option.bind_some,
          Option.some.injEq] at hstarted
        rw [← (Prod.mk.inj hstarted).1]
        exact Or.inl rfl
    | error failure =>
        simp only [Controller.clientStarted, hjob, hstage, Option.bind_some,
          Option.some.injEq] at hstarted
        refine Or.inr (mem_controls.mp ?_)
        rw [← (Prod.mk.inj hstarted).2]
        simp

/-- A job goes on behind its wait only after the server was stopped, or when its client runs. -/
theorem stopServer_of_busy (hjob : before.controller.job? job.id = some job)
    (hbusy : job.stage.isBusy = true) (hstep : before.stepJob around job.id = some (after, effects))
    (hfree : ∀ client, ¬after.controller.Engages client) : .control .stopServer ∈ effects := by
  have hmem := (Controller.mem_of_job? hjob).1
  have hmoved : ∀ client, job.stage.awaited? = some client →
      after.controller ≠ before.controller := by
    intro client hawaited hsame
    exact hfree client (hsame ▸ Or.inr ⟨job, hmem, hawaited⟩)
  rcases Controller.Stage.closing_or_opening hbusy with
    ⟨client, aftermath, hstage⟩ | ⟨opened, hstage⟩
  · rcases stepJob_of_closing hjob hstage hstep with hsame | ⟨-, rest, rfl⟩
    · exact absurd hsame (hmoved client (by rw [hstage]; rfl))
    · exact List.mem_cons_self
  · rcases stepJob_of_opening hjob hstage hstep with hsame | hclient | hstop
    · exact absurd hsame (hmoved opened.id (by rw [hstage]; rfl))
    · exact absurd (Or.inl (congrArg (Option.map Controller.Client.id) hclient))
        (hfree opened.id)
    · exact hstop

/-- A turn after which the controller has no hold on any client was free of clients before it, or
has stopped the server. -/
theorem released_of_turn (hreleased : (∀ client, ¬before.controller.Engages client) → Released past)
    (hsound : before.controller.Sound) (hjob : before.controller.job? job.id = some job)
    (hturn : Controller.Turn around.situation before.controller job after.controller
      (controls effects))
    (hstep : before.stepJob around job.id = some (after, effects)) (hplain : ¬Asks effects)
    (hfree : ∀ client, ¬after.controller.Engages client) : Released (past ++ effects) := by
  by_cases hbusy : job.stage.isBusy = true
  · exact released_of_stopServer (stopServer_of_busy hjob hbusy hstep hfree) hplain
  · refine (hreleased ?_).append hplain
    intro client hengages
    rcases hturn.engages hsound (Controller.mem_of_job? hjob).1 hengages with hstays | hawaited
    · exact hfree client hstays
    · exact hbusy (Controller.isBusy_of_awaited hawaited)

theorem Traced.released_step (htraced : before.Traced past) (htidy : before.Tidy)
    (hsound : before.controller.Sound) (hmove : before.next? move = some (after, effects))
    (hfree : ∀ client, ¬after.controller.Engages client) : Released (past ++ effects) := by
  cases advance_of_next? hsound hmove with
  | rest hawaits hcontroller hlisteners hcontrols hsession =>
      obtain ⟨client, session, outcome, hlookup, hevolves, habsorb⟩ := hsession
      rw [hcontroller] at hfree
      have hquiet := (htidy.engaged client session hlookup).resolve_right (hfree client)
      refine (htraced.released hfree).append ?_
      rintro ⟨other, asker, hmem⟩
      rw [← (Prod.mk.inj habsorb).2] at hmem
      obtain ⟨effect, heffect, hsame⟩ := List.mem_map.mp hmem
      have hplain := ((hevolves.quiet hquiet).2 effect heffect).2
      rw [(Effect.session.inj hsame).2] at hplain
      exact absurd hplain (by simp [Session.Effect.isConnect])
  | call herrand =>
      rw [List.append_nil]
      exact htraced.released fun client hengages => hfree client (engages_begin.mpr hengages)
  | announce =>
      rw [List.append_nil]
      exact htraced.released hfree
  | turn hjob harrives hlisteners hperformed =>
      obtain ⟨-, rfl⟩ := Controller.mem_of_job? hjob
      obtain ⟨reports, -, hresult⟩ := hperformed
      have hplain : ¬Asks effects := by
        intro hasks
        obtain ⟨opened, context, hopened⟩ := openClient_of_asks
          ((congrArg (fun made => Asks made.2) hresult).mpr hasks)
        have hlaunches := harrives.2.launches hsound (Controller.mem_of_job? hjob).1 hopened
        exact hfree opened.id ((hlaunches.engages opened.id).mpr rfl)
      exact released_of_turn htraced.released hsound hjob harrives.2 hmove hplain hfree
  | @read _ listener _ rest reading hinbox hnext =>
      refine (htraced.released ?_).append (not_asks_of_dealings (dealings_react _ _))
      rcases react_eq { before with listeners := assign listener rest before.listeners }
        reading with hsame | hbegun
      · rw [hsame] at hfree
        exact hfree
      · rw [hbegun] at hfree
        exact fun client hengages => hfree client (engages_begin.mpr hengages)
  | hush hclosed hinbox hnext =>
      rw [List.append_nil]
      exact htraced.released hfree

theorem Traced.step (htraced : before.Traced past) (htidy : before.Tidy)
    (hsound : before.controller.Sound) (hmove : before.next? move = some (after, effects)) :
    after.Traced (past ++ effects) where
  known := by
    intro client effect hmem
    refine (deals_of_next? htidy hsound hmove client).isSome_after ?_
    exact (List.mem_append.mp hmem).imp (htraced.known client effect)
      fun hnew => List.ne_nil_of_mem (mem_dealings.mpr hnew)
  born := by
    intro client hsome
    rcases (deals_of_next? htidy hsound hmove client).isSome_before hsome with hold | hnew
    · exact List.mem_append_left _ (htraced.born client hold)
    · exact List.mem_append_right _ (mem_dealings.mp hnew)
  released := htraced.released_step htidy hsound hmove

theorem traced_idle (options : Controller.Options) : (idle options).Traced [] where
  known := fun _ _ hmem => absurd hmem List.not_mem_nil
  born := fun _ hsome => absurd hsome (by simp [idle])
  released := fun _ => released_nil

end Stepping

section Succeeding

variable {before after : Lifecycle} {around : Surroundings} {job : Controller.Job} {move : Move}
  {moves : List Move} {effects past head tail : List Effect} {client other : ClientId}
  {asker : Session.Asker}

theorem traced_of_run (options : Controller.Options)
    (hrun : Run.follow next? (idle options) moves = some (after, past)) :
    after.Traced past := by
  have hholds := Run.follow_induction
    (fun lifecycle past => lifecycle.Sound ∧ lifecycle.Tidy ∧ lifecycle.Traced past)
    ⟨sound_idle options, tidy_idle options, traced_idle options⟩ ?_ hrun
  · exact hholds.2.2
  · rintro before past move after effects - ⟨hsound, htidy, htraced⟩ hmove
    exact ⟨hsound.step hmove, htidy.step hsound.controller hmove,
      htraced.step htidy hsound.controller hmove⟩

/-- The first connection of a client is asked for in the turn that makes the client. -/
theorem launch_of_first (htraced : before.Traced past) (hsound : before.controller.Sound)
    (hmove : before.next? move = some (after, effects))
    (hmem : .session client (.connect asker) ∈ effects)
    (hfirst : .session client (.connect .start) ∉ past) :
    ∃ around job reports, move = .task around (.job job.id) ∧
      before.controller.job? job.id = some job ∧
      Controller.Launches before.controller job (controls effects) after.controller client ∧
      performAll around { before with controller := after.controller, reports := reports }
        (controls effects) = (after, effects) := by
  have hdealt : dealings client effects ≠ [] := List.ne_nil_of_mem (mem_dealings.mpr hmem)
  cases advance_of_next? hsound hmove with
  | rest hawaits hcontroller hlisteners hcontrols hsession =>
      obtain ⟨changed, session, outcome, hlookup, hevolves, habsorb⟩ := hsession
      by_cases hid : client = changed
      · exact absurd (htraced.born client (by rw [hid, hlookup]; rfl)) hfirst
      · have hnothing := (absorb_of_ne before outcome hid).2
        rw [habsorb] at hnothing
        exact absurd hnothing hdealt
  | call herrand => exact absurd hmem List.not_mem_nil
  | announce => exact absurd hmem List.not_mem_nil
  | @turn around id job _ _ hjob harrives hlisteners hperformed =>
      obtain ⟨hmem_job, rfl⟩ := Controller.mem_of_job? hjob
      obtain ⟨reports, -, hresult⟩ := hperformed
      obtain ⟨opened, context, hopened⟩ := openClient_of_asks
        ((congrArg (fun made => Asks made.2) hresult).mpr ⟨client, asker, hmem⟩)
      have hlaunches := harrives.2.launches hsound hmem_job hopened
      obtain ⟨made, context, hid, houtward⟩ := hlaunches.outward
      have hothers := (performAll_of_launch houtward hid hresult).2.2
      have hself : client = opened.id := by
        by_contra hne
        exact hdealt (hothers client hne).2
      rw [← hself] at hlaunches
      exact ⟨around, job, reports, rfl, hjob, hlaunches, hresult⟩
  | read hinbox hnext => exact absurd (dealings_react _ _ client) hdealt
  | hush hclosed hinbox hnext => exact absurd hmem List.not_mem_nil

/-- Where a client is made behind the stop of another, the server is stopped first of all. -/
theorem stopServer_of_launch (hsound : before.controller.Sound)
    (hjob : before.controller.job? job.id = some job)
    (hlaunches : Controller.Launches before.controller job (controls effects) after.controller
      client)
    (hstep : before.stepJob around job.id = some (after, effects))
    (hbusy : job.stage.isBusy = true) : ∃ rest, effects = .control .stopServer :: rest := by
  have hmem := (Controller.mem_of_job? hjob).1
  rcases Controller.Stage.closing_or_opening hbusy with
    ⟨closed, aftermath, hstage⟩ | ⟨opened, hstage⟩
  · rcases stepJob_of_closing hjob hstage hstep with hsame | ⟨-, hstop⟩
    · have hengages : after.controller.Engages closed :=
        hsame ▸ Or.inr ⟨job, hmem, by rw [hstage]; rfl⟩
      have hlt := (hsound.ledger.closing job hmem closed aftermath hstage).2
      rw [(hlaunches.engages closed).mp hengages, hlaunches.fresh] at hlt
      exact absurd hlt (Nat.lt_irrefl _)
    · exact hstop
  · exact absurd hlaunches.still (hsound.not_still_of_opening hmem hstage)

/-- Up to the first connection that a client asks for, the server is stopped behind every wish for a
connection. -/
theorem released_of_launch (htraced : before.Traced past) (hsound : before.controller.Sound)
    (hjob : before.controller.job? job.id = some job)
    (hlaunches : Controller.Launches before.controller job
      (controls (head ++ .session client (.connect asker) :: tail)) after.controller client)
    (hstep : before.stepJob around job.id =
      some (after, head ++ .session client (.connect asker) :: tail))
    (hplain : ¬Asks head) : Released (past ++ head) := by
  have hmem := (Controller.mem_of_job? hjob).1
  by_cases hbusy : job.stage.isBusy = true
  · obtain ⟨rest, hrest⟩ := stopServer_of_launch hsound hjob hlaunches hstep hbusy
    cases head with
    | nil => exact absurd hrest (by simp)
    | cons first head =>
        rw [(List.cons.inj hrest).1]
        exact released_of_stopServer List.mem_cons_self (fun hasks => hplain (by
          rw [(List.cons.inj hrest).1]
          exact hasks))
  · refine (htraced.released ?_).append hplain
    rintro engaged (hclient | ⟨worker, hworker, hawaited⟩)
    · have hnone : before.controller.client = none := by
        rcases hlaunches.still with ⟨-, hnone, -⟩ | ⟨-, hnone, -⟩
        · exact hnone
        · exact hnone
      rw [hnone] at hclient
      exact absurd hclient (by simp)
    · have hworks := Controller.isBusy_of_awaited hawaited
      by_cases hid : worker.id = job.id
      · rw [hsound.orderly.eq_of_id hmem hworker hid] at hworks
        exact hbusy hworks
      · rw [hsound.orderly.other_idle hlaunches.hold hworker hid] at hworks
        exact absurd hworks (by simp)

/-- When a client asks for its first connection, the server was stopped behind every connection that
an earlier client asked for, and nothing is left of that client: it is not alive, has nothing to
send on, and nobody keeps it connected or reads for it.  From then on it does nothing more. -/
theorem succession_of_run (options : Controller.Options) {earlier : Session.Asker}
    (hrun : Run.follow next? (idle options) moves = some (before, past))
    (hmove : before.next? move =
      some (after, head ++ .session client (.connect asker) :: tail))
    (hfirst : ∀ asker, .session client (.connect asker) ∉ past ++ head)
    (hearlier : .session other (.connect earlier) ∈ past ++ head) :
    (∀ early asker late, past ++ head = early ++ .session other (.connect asker) :: late →
        .control .stopServer ∈ late) ∧
      (∃ session, before.sessions.lookup other = some session ∧
        after.sessions.lookup other = some session ∧ session.Over ∧
        ∀ around message, session.send around message = .error .connectionClosed) ∧
      ∀ later last more, Run.follow next? after later = some (last, more) →
        ∀ effect, .session other effect ∉ tail ++ more := by
  obtain ⟨hsound, htidy, -⟩ := parted_of_run options hrun
  have htraced := traced_of_run options hrun
  obtain ⟨hsound_after, htidy_after, hparted⟩ : after.Sound ∧ after.Tidy ∧ _ :=
    parted_of_run options (Run.follow_append_eq_some.mpr
      ⟨before, past, _, hrun, Run.follow_singleton hmove, rfl⟩)
  obtain ⟨around, job, reports, rfl, hjob, hlaunches, hresult⟩ := launch_of_first htraced
    hsound.controller hmove (List.mem_append_right _ List.mem_cons_self)
    fun hmem => hfirst .start (List.mem_append_left _ hmem)
  obtain ⟨opened, context, hid, houtward⟩ := hlaunches.outward
  obtain ⟨-, hself, hothers⟩ := performAll_of_launch houtward hid hresult
  -- The new client's wish is the only thing that any session does in this turn.
  have haround : ∀ dealer, dealings dealer head = [] ∧ dealings dealer tail = [] := by
    intro dealer
    by_cases hnew : dealer = client
    · rw [dealings_append, dealings_session, List.append_eq_singleton_iff] at hself
      rw [hnew]
      rcases hself with ⟨hhead, hrest⟩ | ⟨-, hrest⟩
      · exact ⟨hhead, (List.cons.inj hrest).2⟩
      · exact absurd hrest (List.cons_ne_nil _ _)
    · have hnothing := (hothers dealer hnew).2
      rw [dealings_append, dealings_session_of_ne hnew] at hnothing
      exact List.append_eq_nil_iff.mp hnothing
  have hplain : ¬Asks head := not_asks_of_dealings fun dealer => (haround dealer).1
  have hpast : .session other (.connect earlier) ∈ past :=
    (List.mem_append.mp hearlier).resolve_right fun hmem => hplain ⟨other, earlier, hmem⟩
  have hne : other ≠ client := by
    rintro rfl
    exact hfirst earlier hearlier
  obtain ⟨session, hlookup⟩ := Option.isSome_iff_exists.mp (htraced.known other _ hpast)
  have hlookup_after : after.sessions.lookup other = some session :=
    (hothers other hne).1.trans hlookup
  have hfree : ¬after.controller.Engages other :=
    fun hengages => hne ((hlaunches.engages other).mp hengages)
  have hover : session.Over :=
    ((hparted other).ended session hlookup_after).resolve_right hfree
  have hgone : after.Gone other := ⟨⟨session, hlookup_after, hover⟩, hfree⟩
  refine ⟨?_, ⟨session, hlookup, hlookup_after, hover, fun _ => hover.send⟩, ?_⟩
  · intro early asker late
    exact released_of_launch htraced hsound.controller hjob hlaunches hmove hplain early other
      asker late
  · intro later last more hlater effect hmem
    have hnothing := (hgone.run hsound_after htidy_after hlater).2
    rw [← mem_dealings, dealings_append, (haround other).2, hnothing] at hmem
    exact absurd hmem List.not_mem_nil

/-- A client runs, another start is called for, and the server does not agree to a shutdown in
time. -/
def practiceReplacing : List Move :=
  practiceStart ++ [.call (.start ⟨.ofString "/s", "npl", "1"⟩),
    .task (practiceSurroundings {} 0 none) (.job 1),
    .task (practiceSurroundings {} 5000 none) (.job 1)]

def practiceLaunch : Move :=
  .task (practiceSurroundings {} 5000 none) (.job 1)

/-- A client asks for a connection, and the one that is made next does so later. -/
def practiceWishes : Option (Bool × Bool × List Bool) :=
  (Run.follow next? (idle ⟨500, 3⟩) practiceReplacing).bind fun (before, past) =>
    (before.next? practiceLaunch).map fun (_, effects) =>
      ((dealings 0 past).any Session.Effect.isConnect, (dealings 1 past).isEmpty,
        (dealings 1 effects).map Session.Effect.isConnect)

set_option maxRecDepth 100000 in
theorem practiceWishes_eq : practiceWishes = some (true, true, [true]) := by
  decide +kernel

theorem asker_of_isConnect {effect : Session.Effect} (h : effect.isConnect = true) :
    ∃ asker, effect = .connect asker := by
  cases effect with
  | connect asker => exact ⟨asker, rfl⟩
  | _ => exact absurd h (by simp [Session.Effect.isConnect])

theorem succession_of_practiceReplacing : ∃ before past after head asker tail,
    Run.follow next? (idle ⟨500, 3⟩) practiceReplacing = some (before, past) ∧
      before.next? practiceLaunch =
        some (after, head ++ .session 1 (.connect asker) :: tail) ∧
      (∃ early asker late, past ++ head = early ++ .session 0 (.connect asker) :: late ∧
        .control .stopServer ∈ late) ∧
      ∃ session, after.sessions.lookup 0 = some session ∧ session.Over := by
  obtain ⟨⟨before, past⟩, hrun, hwishes⟩ := Option.bind_eq_some_iff.mp practiceWishes_eq
  obtain ⟨⟨after, effects⟩, hmove, hwishes⟩ := Option.map_eq_some_iff.mp hwishes
  simp only [Prod.mk.injEq, List.isEmpty_iff, List.any_eq_true, List.map_eq_singleton_iff]
    at hwishes
  obtain ⟨⟨wish, hwish, hasks⟩, hsilent, made, hmade, hnew⟩ := hwishes
  obtain ⟨earlier, rfl⟩ := asker_of_isConnect hasks
  obtain ⟨asker, rfl⟩ := asker_of_isConnect hnew
  have hmem : .session 1 (.connect asker) ∈ effects :=
    mem_dealings.mp (hmade ▸ List.mem_singleton_self _)
  obtain ⟨head, tail, rfl⟩ := List.append_of_mem hmem
  have hhead : dealings 1 head = [] := by
    rw [dealings_append, dealings_session, List.append_eq_singleton_iff] at hmade
    exact hmade.elim And.left fun hrest => absurd hrest.2 (List.cons_ne_nil _ _)
  have hfirst : ∀ asker, .session 1 (.connect asker) ∉ past ++ head := by
    intro asker hmem
    rw [← mem_dealings, dealings_append, hsilent, hhead] at hmem
    exact absurd hmem List.not_mem_nil
  have hearlier : .session 0 (.connect earlier) ∈ past ++ head :=
    List.mem_append_left _ (mem_dealings.mp hwish)
  obtain ⟨hstopped, ⟨session, -, hlookup, hover, -⟩, -⟩ :=
    succession_of_run ⟨500, 3⟩ hrun hmove hfirst hearlier
  obtain ⟨early, late, hsplit⟩ := List.append_of_mem hearlier
  exact ⟨before, past, after, head, asker, tail, hrun, hmove,
    ⟨early, earlier, late, hsplit, hstopped early earlier late hsplit⟩, session, hlookup, hover⟩

end Succeeding

end Lifecycle

end NplLifecycle
