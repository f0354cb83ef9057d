import NplLifecycle.Proofs.Controller.Settling
import NplLifecycle.Proofs.Lifecycle.Failure
import NplLifecycle.Proofs.Lifecycle.Remembering
import NplLifecycle.Proofs.Lifecycle.Supersession
import NplLifecycle.Proofs.Session.Turn

/-!
# How a restart ends

A restart after a change of the settings ends in one of four ways.  It cannot stop the client, or
somebody else starts or stops one while it pauses; then it has asked for no connection, and the user
hears nothing of it.  Or it goes on with a start, for whoever asked for one last, and with the
settings that it reads then; and the user is told once whether that went well.
-/

namespace NplLifecycle.Lifecycle

open Controller (Action)

/-- Does an effect tell the user something, make a client, ask for a connection or end a job? -/
def Effect.isOvert : Effect → Bool
  | .control action => action.isOvert
  | .session _ effect => effect.isConnect
  | .log _ => false

/-- The effects that tell the user something, make clients, ask for connections or end jobs. -/
def overt (effects : List Effect) : List Effect :=
  effects.filter Effect.isOvert

/-- What comes of an overt action: a client that is made asks for a connection. -/
def carriedOut (action : Action) : List Effect :=
  match action with
  | .openClient client context =>
    [.control (.openClient client context), .session client.id (.connect .start)]
  | _ => [.control action]

def doings (id : JobId) (lifecycle : Lifecycle) : Move → List Effect
  | .task around (.job worker) =>
    if worker = id then ((lifecycle.stepJob around id).map Prod.snd).getD [] else []
  | _ => []

def work (options : Controller.Options) (moves : List Move) (id : JobId) : List Effect :=
  Run.notes next? (doings id) (idle options) moves

/-- A restart began its pause in a move of a run, until a moment. -/
def RestsUntil (options : Controller.Options) (moves : List Move) (id : JobId)
    (wake : Nat) : Prop :=
  ∃ early around late before past after effects,
    moves = early ++ .task around (.job id) :: late ∧
    Run.follow next? (idle options) early = some (before, past) ∧
    before.next? (.task around (.job id)) = some (after, effects) ∧
    before.controller.recorded? id = none ∧ (after.controller.recorded? id).isSome ∧
    wake = around.situation.now + options.settleMs

/-- The pause of a restart is over: in a later move of its own it saw that the moment had come. -/
def Awoke (options : Controller.Options) (moves : List Move) (id : JobId) : Prop :=
  ∃ early around late wake, moves = early ++ .task around (.job id) :: late ∧
    RestsUntil options early id wake ∧ wake ≤ around.situation.now

/-- After its pause a restart went on with a start: nobody had started or stopped the client since,
and in the move in which it went on it built a client from what the host said then, for whoever had
called last for a start that found a root. -/
def WentOn (options : Controller.Options) (moves : List Move) (id : JobId)
    (client : Controller.Client) (context : ActivationContext) : Prop :=
  ∃ early around late before past after effects,
    moves = early ++ .task around (.job id) :: late ∧
    Awoke options (early ++ [.task around (.job id)]) id ∧
    Run.follow next? (idle options) early = some (before, past) ∧
    before.next? (.task around (.job id)) = some (after, effects) ∧
    before.controller.recorded? id = some before.controller.generation ∧
    around.situation.Builds options client ∧ latest? options early = some context ∧
    .control (.openClient client context) ∈ effects

inductive Conclusion where
  /-- Its client could not be stopped well. -/
  | unstopped
  | superseded
  | restarted
  | failed
  deriving DecidableEq

/-- How a restart after a change has ended in a run, with all that is overt of what it did. -/
inductive Concludes (options : Controller.Options) (moves : List Move) (id : JobId)
    (before after : Lifecycle) (trace : List Effect) : Conclusion → Prop
  /-- It told a client to stop, that failed, and it gave up. -/
  | unstopped {client : ClientId} {failure : ClientError}
      (hclosed : .control (.closeClient client) ∈ work options moves id)
      (hfailed : .session client (.stopped (.error failure)) ∈ trace)
      (hwork : overt (work options moves id) =
        [.control (.finish id (.done (.error failure)))]) :
      Concludes options moves id before after trace .unstopped
  /-- It did not find the generation again that it had recorded. -/
  | superseded {recorded : Nat} (hrecorded : before.controller.recorded? id = some recorded)
      (hlt : recorded < before.controller.generation)
      (hwork : overt (work options moves id) = [.control (.finish id .superseded)]) :
      Concludes options moves id before after trace .superseded
  /-- The client that it made runs. -/
  | restarted {client : Controller.Client} {context : ActivationContext}
      (hwent : WentOn options moves id client context)
      (hstate : after.controller.state = .running)
      (hclient : after.controller.client = some client)
      (hwork : overt (work options moves id) =
        [.control (.openClient client context), .session client.id (.connect .start),
          .control
            (.showInfo "NPL Language Server restarted with updated workspace settings."),
          .control (.finish id (.done (.ok ())))]) :
      Concludes options moves id before after trace .restarted
  /-- Its start failed, and nothing runs. -/
  | failed {attempt : List Effect} {failure : ClientError}
      (hattempt : attempt = [] ∨ ∃ (client : Controller.Client) (context : ActivationContext),
        attempt = [.control (.openClient client context), .session client.id (.connect .start)])
      (hvacant : after.controller.Vacant .idle)
      (hwork : overt (work options moves id) = attempt ++
        [.control (.showError
            "Failed to restart NPL Language Server. You may need to reload the window."),
          .control (.finish id (.done (.error failure)))]) :
      Concludes options moves id before after trace .failed

/-- How far a restart after a change has got that has not ended, by the stage that it is at. -/
inductive Settling (options : Controller.Options) (moves : List Move) (id : JobId) :
    Controller.Stage → Prop
  | fresh {stage : Controller.Stage} (hnew : stage.isNew = true)
      (hwork : overt (work options moves id) = []) : Settling options moves id stage
  | closing {client : ClientId} (hclosed : .control (.closeClient client) ∈ work options moves id)
      (hwork : overt (work options moves id) = []) :
      Settling options moves id (.closing client .settle)
  | settling {generation wake : Nat} (hrests : RestsUntil options moves id wake)
      (hwork : overt (work options moves id) = []) :
      Settling options moves id (.settling generation wake)
  | returning {generation : Nat} (hawoke : Awoke options moves id)
      (hwork : overt (work options moves id) = []) :
      Settling options moves id (.returning generation)
  | opening {client : Controller.Client} {context : ActivationContext}
      (hwent : WentOn options moves id client context)
      (hwork : overt (work options moves id) =
        [.control (.openClient client context), .session client.id (.connect .start)]) :
      Settling options moves id (.opening client)

section Overt

variable {lifecycle before after : Lifecycle} {around : Surroundings} {actions : List Action}
  {effects : List Effect} {job : Controller.Job}

@[simp]
theorem overt_nil : overt [] = [] := rfl

@[simp]
theorem overt_append (early late : List Effect) :
    overt (early ++ late) = overt early ++ overt late :=
  List.filter_append ..

/-- Where no connection is asked for, nothing that a session does is overt. -/
theorem overt_map_session (client : ClientId) {dealt : List Session.Effect}
    (hplain : ∀ effect ∈ dealt, effect.isConnect = false) :
    overt (dealt.map (.session client)) = [] := by
  apply List.filter_eq_nil_iff.mpr
  intro effect hmem
  obtain ⟨made, hmade, rfl⟩ := List.mem_map.mp hmem
  simp [Effect.isOvert, hplain made hmade]

theorem overt_withSession {client : ClientId} {change : Session → Session × List Session.Effect}
    (hplain : ∀ session, ∀ effect ∈ (change session).2, effect.isConnect = false) :
    overt (lifecycle.withSession client change).2 = [] := by
  cases hsession : lifecycle.sessions.lookup client with
  | none => simp [withSession, hsession]
  | some session =>
      simp only [withSession, hsession]
      exact overt_map_session client (hplain session)

/-- What is overt of the controller's actions is carried out, and nothing else is overt. -/
theorem overt_performAll : overt (lifecycle.performAll around actions).2 =
    (Controller.overt actions).flatMap carriedOut := by
  induction actions generalizing lifecycle with
  | nil => rfl
  | cons action rest ih =>
      have hfirst : overt (lifecycle.perform around action).2 =
          (Controller.overt [action]).flatMap carriedOut := by
        cases action with
        | closeClient client =>
            exact overt_withSession fun _ _ => Session.beginStop_plain
        | dropClient client =>
            exact overt_withSession fun _ _ => Session.close_plain
        | _ => rfl
      simp only [performAll, overt_append, hfirst, ih, ← List.flatMap_append,
        ← Controller.overt_append, List.cons_append, List.nil_append]

/-- What is overt of a job's move is what is overt of the controller's actions. -/
theorem Works.overt_eq {id : JobId} (hworks : Works before around id after effects) :
    overt effects = (Controller.overt (controls effects)).flatMap carriedOut := by
  have hperforms {lifecycle : Lifecycle}
      (hperformed : lifecycle.performAll around (controls effects) = (after, effects)) :
      overt effects = (Controller.overt (controls effects)).flatMap carriedOut := by
    rw [← overt_performAll, hperformed]
  cases hworks with
  | @lets client session outcome hawaited hreport hsession hcall hafter =>
      obtain ⟨-, rfl⟩ := Prod.mk.inj hafter
      rw [controls_map_session]
      exact overt_map_session client fun _ => (Session.stepCall_turn hcall).plain
  | steps hawaited hstep hperformed => exact hperforms hperformed
  | stopped hawaited hreport hstep hperformed => exact hperforms hperformed
  | started hawaited hreport hstep hperformed => exact hperforms hperformed

end Overt

section Working

variable {options : Controller.Options} {before after : Lifecycle} {move : Move}
  {moves : List Move} {effects past : List Effect} {around : Surroundings} {id : JobId}
  {job : Controller.Job} {wake : Nat} {client : Controller.Client} {context : ActivationContext}

theorem doings_own (hmove : before.next? (.task around (.job id)) = some (after, effects)) :
    doings id before (.task around (.job id)) = effects := by
  have hstep : before.stepJob around id = some (after, effects) := hmove
  simp [doings, hstep]

theorem doings_other (hother : ∀ around, move ≠ .task around (.job id)) :
    doings id before move = [] := by
  cases move with
  | task around task =>
      cases task with
      | job worker =>
          have hne : worker ≠ id := fun hsame => hother around (hsame ▸ rfl)
          simp [doings, hne]
      | _ => rfl
  | _ => rfl

theorem work_own (hrun : Run.follow next? (idle options) moves = some (before, past))
    (hmove : before.next? (.task around (.job id)) = some (after, effects)) :
    work options (moves ++ [.task around (.job id)]) id = work options moves id ++ effects := by
  rw [work, Run.notes_concat hrun hmove, doings_own hmove]
  rfl

theorem work_other (hrun : Run.follow next? (idle options) moves = some (before, past))
    (hmove : before.next? move = some (after, effects))
    (hother : ∀ around, move ≠ .task around (.job id)) :
    work options (moves ++ [move]) id = work options moves id := by
  rw [work, Run.notes_concat hrun hmove, doings_other hother]
  exact List.append_nil _

theorem RestsUntil.append (hrests : RestsUntil options moves id wake) (more : List Move) :
    RestsUntil options (moves ++ more) id wake := by
  obtain ⟨early, around, late, before, past, after, effects, rfl, hrest⟩ := hrests
  exact ⟨early, around, late ++ more, before, past, after, effects, by simp, hrest⟩

theorem Awoke.append (hawoke : Awoke options moves id) (more : List Move) :
    Awoke options (moves ++ more) id := by
  obtain ⟨early, around, late, wake, rfl, hawoke⟩ := hawoke
  exact ⟨early, around, late ++ more, wake, by simp, hawoke⟩

theorem WentOn.append (hwent : WentOn options moves id client context) (more : List Move) :
    WentOn options (moves ++ more) id client context := by
  obtain ⟨early, around, late, before, past, after, effects, rfl, hwent⟩ := hwent
  exact ⟨early, around, late ++ more, before, past, after, effects, by simp, hwent⟩

/-- Who does not move the restart leaves it where it is. -/
theorem Settling.other {stage : Controller.Stage} (hsettling : Settling options moves id stage)
    (hrun : Run.follow next? (idle options) moves = some (before, past))
    (hmove : before.next? move = some (after, effects))
    (hother : ∀ around, move ≠ .task around (.job id)) :
    Settling options (moves ++ [move]) id stage := by
  have hsame := work_other hrun hmove hother
  cases hsettling with
  | fresh hnew hwork => exact .fresh hnew (hsame ▸ hwork)
  | closing hclosed hwork => exact .closing (hsame ▸ hclosed) (hsame ▸ hwork)
  | settling hrests hwork => exact .settling (hrests.append _) (hsame ▸ hwork)
  | returning hawoke hwork => exact .returning (hawoke.append _) (hsame ▸ hwork)
  | opening hwent hwork => exact .opening (hwent.append _) (hsame ▸ hwork)

/-- The options are never changed. -/
theorem options_of_run (options : Controller.Options)
    (hrun : Run.follow next? (idle options) moves = some (after, past)) :
    after.controller.options = options := by
  have hholds : after.Sound ∧ after.controller.options = options := by
    refine Run.follow_induction (fun lifecycle _ =>
      lifecycle.Sound ∧ lifecycle.controller.options = options) ⟨sound_idle options, rfl⟩ ?_ hrun
    rintro before trace move after effects - ⟨hsound, hoptions⟩ hmove
    refine ⟨hsound.step hmove, ?_⟩
    rcases (advance_of_next? hsound.controller hmove).shadow with ⟨-, hsame⟩ |
      ⟨-, errand, hbegun, -⟩ | ⟨around, job, rfl, -, harrives⟩
    · rw [hsame, hoptions]
    · rw [hbegun]
      exact hoptions
    · rw [harrives.2.options, hoptions]
  exact hholds.2

/-- Whatever is reported of a stop has happened. -/
theorem mem_of_report (options : Controller.Options)
    (hrun : Run.follow next? (idle options) moves = some (after, past)) {client : ClientId}
    {result : Except ClientError Unit} (hreport : (client, .stopped result) ∈ after.reports) :
    .session client (.stopped result) ∈ past := by
  have hholds : after.Sound ∧ ∀ client result, (client, .stopped result) ∈ after.reports →
      .session client (.stopped result) ∈ past := by
    refine Run.follow_induction (fun lifecycle trace => lifecycle.Sound ∧
      ∀ client result, (client, .stopped result) ∈ lifecycle.reports →
        .session client (.stopped result) ∈ trace) ⟨sound_idle options, by simp [idle]⟩ ?_ hrun
    rintro before trace move after effects - ⟨hsound, hreported⟩ hmove
    refine ⟨hsound.step hmove, fun client result hmem => ?_⟩
    rcases reporting_of_next? hsound.controller hmove client _ hmem with
      hold | ⟨effect, heffect, hreport⟩
    · exact List.mem_append_left _ (hreported client result hold)
    · rw [isStopped_of_reportOf? hreport, mem_dealings] at heffect
      exact List.mem_append_right _ heffect
  exact hholds.2 client result hreport

end Working

section Stepping

variable {options : Controller.Options} {before after : Lifecycle} {moves : List Move}
  {effects past : List Effect} {around : Surroundings} {job : Controller.Job}

/-- What a move of its own makes of a restart: it is still there, or it has ended. -/
def Goes (options : Controller.Options) (moves : List Move) (job : Controller.Job)
    (before after : Lifecycle) (trace : List Effect) : Prop :=
  (∃ stage, { job with stage := stage } ∈ after.controller.jobs ∧
      Settling options moves job.id stage) ∨
    ((∀ other ∈ after.controller.jobs, other.id ≠ job.id) ∧
      ∃ conclusion, Concludes options moves job.id before after trace conclusion)

/-- What was overt of a restart, and what is overt of its move. -/
theorem overt_work_own (hrun : Run.follow next? (idle options) moves = some (before, past))
    (hmem : job ∈ before.controller.jobs)
    (hmove : before.next? (.task around (.job job.id)) = some (after, effects)) :
    overt (work options (moves ++ [.task around (.job job.id)]) job.id) =
      overt (work options moves job.id) ++
        (Controller.overt (controls effects)).flatMap carriedOut := by
  have hjob := ((sound_idle options).run hrun).controller.orderly.job?_of_mem hmem
  rw [work_own hrun hmove, overt_append, (works_of_stepJob hmove).overt_eq]

/-- A restart that begins its pause rests from now on for as long as the options say. -/
theorem restsUntil_of_pause (hrun : Run.follow next? (idle options) moves = some (before, past))
    (hmem : job ∈ before.controller.jobs) (hfirst : job.stage.recorded? = none)
    (hmove : before.next? (.task around (.job job.id)) = some (after, effects))
    {generation wake : Nat}
    (hwake : wake = around.situation.now + before.controller.options.settleMs)
    (hthere : { job with stage := .settling generation wake } ∈ after.controller.jobs) :
    RestsUntil options (moves ++ [.task around (.job job.id)]) job.id wake := by
  have hsound : before.Sound := (sound_idle options).run hrun
  refine ⟨moves, around, [], before, past, after, effects, rfl, hrun, hmove, ?_, ?_, ?_⟩
  · rw [Controller.recorded?, hsound.controller.orderly.job?_of_mem hmem]
    exact hfirst
  · have hrecorded : after.controller.recorded? job.id = some generation :=
      (hsound.step hmove).controller.orderly.recorded?_eq_some.mpr ⟨_, hthere, rfl, rfl⟩
    rw [hrecorded]
    rfl
  · rw [hwake, options_of_run options hrun]

/-- A restart that has not worked yet gets in line, or it gets the lock and closes the client, or it
begins its pause. -/
theorem goes_of_new (hrun : Run.follow next? (idle options) moves = some (before, past))
    (hmem : job ∈ before.controller.jobs) (herrand : job.errand = .settle)
    (hnew : job.stage.isNew = true) (hwork : overt (work options moves job.id) = [])
    (hmove : before.next? (.task around (.job job.id)) = some (after, effects)) :
    Goes options (moves ++ [.task around (.job job.id)]) job before after (past ++ effects) := by
  have hsound : before.Sound := (sound_idle options).run hrun
  have hsilent (hnothing : Controller.overt (controls effects) = []) :
      overt (work options (moves ++ [.task around (.job job.id)]) job.id) = [] := by
    rw [overt_work_own hrun hmem hmove, hwork, hnothing]
    rfl
  by_cases hopen : before.controller.Open job.id
  · have hobey := obey_of_new hsound hmem hopen hnew hmove
    obtain ⟨hcontroller, hcontrols⟩ :=
      obey_frame around before ((before.controller.hold job.id).run around.situation job)
    rw [hobey] at hcontroller hcontrols
    obtain ⟨hnothing, hgoes⟩ := @Controller.Sound.run_of_settle around.situation _ _
      hsound.controller hmem herrand hopen (Controller.Stage.not_isBusy_of_isNew hnew)
    rw [← hcontrols] at hnothing
    rw [← hcontroller, ← hcontrols] at hgoes
    rcases hgoes with ⟨client, hclosed, hthere⟩ | ⟨generation, hthere⟩
    · refine .inl ⟨_, hthere, .closing ?_ (hsilent hnothing)⟩
      rw [work_own hrun hmove]
      exact List.mem_append_right _ (mem_controls.mp hclosed)
    · exact .inl ⟨_, hthere, .settling (restsUntil_of_pause hrun hmem
        (Controller.Stage.not_recorded_of_isNew hnew) hmove rfl hthere) (hsilent hnothing)⟩
  · obtain ⟨hnothing, stage, hstage, hthere⟩ := waits_of_closed hsound hmem hnew hopen hmove
    refine .inl ⟨stage, hthere, .fresh hstage (hsilent ?_)⟩
    rw [hnothing]
    rfl

/-- A restart that waits for its client to stop. -/
theorem goes_of_closing (hrun : Run.follow next? (idle options) moves = some (before, past))
    (hmem : job ∈ before.controller.jobs) {client : ClientId}
    (hstage : job.stage = .closing client .settle)
    (hclosed : .control (.closeClient client) ∈ work options moves job.id)
    (hwork : overt (work options moves job.id) = [])
    (hmove : before.next? (.task around (.job job.id)) = some (after, effects)) :
    Goes options (moves ++ [.task around (.job job.id)]) job before after (past ++ effects) := by
  have hsound : before.Sound := (sound_idle options).run hrun
  have hjob := hsound.controller.orderly.job?_of_mem hmem
  have hovert := overt_work_own hrun hmem hmove
  rw [hwork, List.nil_append] at hovert
  have hclient : before.controller.awaited? job.id = some client := by
    rw [Controller.awaited?_eq hjob, hstage]
    rfl
  have hkept : .control (.closeClient client) ∈
      work options (moves ++ [.task around (.job job.id)]) job.id := by
    rw [work_own hrun hmove]
    exact List.mem_append_left _ hclosed
  cases works_of_stepJob hmove with
  | @lets awaited session outcome hawaited hreport hsession hcall hafter =>
      obtain ⟨rfl, rfl⟩ := Prod.mk.inj hafter
      refine .inl ⟨job.stage, hmem, ?_⟩
      rw [hstage]
      exact .closing hkept (hovert.trans (by rw [controls_map_session]; rfl))
  | steps hnobody => exact absurd (hclient.symm.trans hnobody) (by simp)
  | @stopped awaited result hawaited hreport hstep =>
      rw [hclient] at hawaited
      obtain rfl : client = awaited := Option.some.inj hawaited
      rcases Controller.clientStopped_of_settle hjob hstage hstep with
        ⟨hnothing, generation, hthere⟩ | ⟨failure, rfl, hfinish, hgone⟩
      · rw [hnothing] at hovert
        exact .inl ⟨_, hthere, .settling
          (restsUntil_of_pause hrun hmem (by rw [hstage]; rfl) hmove rfl hthere) hovert⟩
      · rw [hfinish] at hovert
        refine .inr ⟨hgone, .unstopped, .unstopped hkept ?_ hovert⟩
        exact List.mem_append_left _ (mem_of_report options hrun (mem_of_lookup hreport))
  | started hawaited hreport hstep =>
      simp [Controller.clientStarted, hjob, hstage] at hstep

/-- A restart that finds its generation again goes on with a start. -/
theorem goes_of_current (hrun : Run.follow next? (idle options) moves = some (before, past))
    (hmem : job ∈ before.controller.jobs) (herrand : job.errand = .settle)
    (hcurrent : before.controller.recorded? job.id = some before.controller.generation)
    (hawoke : Awoke options (moves ++ [.task around (.job job.id)]) job.id)
    (hwork : overt (work options moves job.id) = [])
    (hmove : before.next? (.task around (.job job.id)) = some (after, effects))
    {context : ActivationContext} (hcontext : before.controller.context = some context)
    (hobey : before.obey around
      ((before.controller.hold job.id).runStart around.situation job context) = (after, effects)) :
    Goes options (moves ++ [.task around (.job job.id)]) job before after (past ++ effects) := by
  have hsound : before.Sound := (sound_idle options).run hrun
  have hovert := overt_work_own hrun hmem hmove
  rw [hwork, List.nil_append] at hovert
  obtain ⟨hcontroller, hcontrols⟩ := obey_frame around before
    ((before.controller.hold job.id).runStart around.situation job context)
  rw [hobey] at hcontroller hcontrols
  rcases @Controller.runStart_of_settle around.situation _ _ context hmem herrand
    (hsound.controller.vacant_of_current hcurrent) with
    ⟨hvacant, hgone, failure, hsaid⟩ | ⟨client, hbuilt, hopened, hthere⟩
  · rw [← hcontroller] at hvacant hgone
    rw [← hcontrols] at hsaid
    rw [hsaid] at hovert
    exact .inr ⟨hgone, .failed, .failed (.inl rfl) hvacant hovert⟩
  · rw [← hcontroller] at hthere
    rw [← hcontrols] at hopened
    rw [hopened] at hovert
    have hmade : .openClient client context ∈ controls effects :=
      List.mem_of_mem_filter (hopened ▸ List.mem_singleton_self _)
    have hlatest : latest? options moves = some context := by
      rw [← context_of_run options hrun, hcontext]
    rw [options_of_run options hrun] at hbuilt
    exact .inl ⟨_, hthere, .opening ⟨moves, around, [], before, past, after, effects, rfl, hawoke,
      hrun, hmove, hcurrent, hbuilt, hlatest, mem_controls.mp hmade⟩ hovert⟩

/-- A restart whose pause is over waits for the lock, is superseded, or goes on with its start. -/
theorem goes_of_waiting (hrun : Run.follow next? (idle options) moves = some (before, past))
    (hmem : job ∈ before.controller.jobs) (herrand : job.errand = .settle) {generation : Nat}
    (hwaits : job.stage.recorded? = some generation)
    (hawoke : Awoke options (moves ++ [.task around (.job job.id)]) job.id)
    (hwork : overt (work options moves job.id) = [])
    (hmove : before.next? (.task around (.job job.id)) = some (after, effects)) :
    Goes options (moves ++ [.task around (.job job.id)]) job before after (past ++ effects) := by
  have hsound : before.Sound := (sound_idle options).run hrun
  have hjob := hsound.controller.orderly.job?_of_mem hmem
  have hrecorded : before.controller.recorded? job.id = some generation :=
    hsound.controller.orderly.recorded?_eq_some.mpr ⟨job, hmem, rfl, hwaits⟩
  have hovert := overt_work_own hrun hmem hmove
  rw [hwork, List.nil_append] at hovert
  cases hmay : before.controller.mayResume around.situation job with
  | false =>
      rw [next?_of_waiting hjob (hwaits ▸ rfl), Option.map_eq_some_iff] at hmove
      obtain ⟨outcome, hstep, hobey⟩ := hmove
      obtain ⟨hcontroller, hcontrols⟩ := obey_frame around before outcome
      rw [hobey, Controller.step_of_not_mayResume hjob hwaits hmay hstep] at hcontroller hcontrols
      refine .inl ⟨.returning generation, ?_, .returning hawoke ?_⟩
      · have hmoved : { job with stage := .returning generation } ∈
            (before.controller.moveJob job.id (.returning generation)).jobs :=
          Controller.mem_moveJob_self hmem
        rw [hcontroller]
        exact hmoved
      · rw [hovert, hcontrols]
        rfl
  | true =>
      obtain ⟨context, hcontext, hnext⟩ := hsound.next?_of_mayResume hjob hwaits hmay
      have hobey := Option.some.inj (hnext.symm.trans hmove)
      by_cases hcurrent : before.controller.generation = generation
      · rw [if_pos hcurrent] at hobey
        rw [← hcurrent] at hrecorded
        exact goes_of_current hrun hmem herrand hrecorded hawoke hwork hmove hcontext hobey
      · rw [if_neg hcurrent] at hobey
        obtain ⟨hcontroller, hcontrols⟩ := obey_frame around before
          ((before.controller.hold job.id).finish job.id .superseded)
        rw [hobey, Controller.finish_eq] at hcontroller hcontrols
        refine .inr ⟨?_, .superseded, .superseded hrecorded ?_ ?_⟩
        · rw [hcontroller]
          exact fun other hother => (Controller.mem_retire.mp hother).2
        · exact Nat.lt_of_le_of_ne (hsound.controller.recorded_le hrecorded) (Ne.symm hcurrent)
        · rw [hovert, hcontrols]
          rfl

/-- A restart that waits for its client to start. -/
theorem goes_of_opening (hrun : Run.follow next? (idle options) moves = some (before, past))
    (hmem : job ∈ before.controller.jobs) (herrand : job.errand = .settle)
    {client : Controller.Client} {context : ActivationContext}
    (hstage : job.stage = .opening client)
    (hwent : WentOn options moves job.id client context)
    (hwork : overt (work options moves job.id) =
      [.control (.openClient client context), .session client.id (.connect .start)])
    (hmove : before.next? (.task around (.job job.id)) = some (after, effects)) :
    Goes options (moves ++ [.task around (.job job.id)]) job before after (past ++ effects) := by
  have hsound : before.Sound := (sound_idle options).run hrun
  have hjob := hsound.controller.orderly.job?_of_mem hmem
  have hclient : before.controller.awaited? job.id = some client.id := by
    rw [Controller.awaited?_eq hjob, hstage]
    rfl
  have hovert := overt_work_own hrun hmem hmove
  rw [hwork] at hovert
  cases works_of_stepJob hmove with
  | @lets awaited session outcome hawaited hreport hsession hcall hafter =>
      obtain ⟨rfl, rfl⟩ := Prod.mk.inj hafter
      rw [controls_map_session] at hovert
      refine .inl ⟨job.stage, hmem, ?_⟩
      rw [hstage]
      exact .opening (hwent.append _) hovert
  | steps hnobody => exact absurd (hclient.symm.trans hnobody) (by simp)
  | stopped hawaited hreport hstep =>
      simp [Controller.clientStopped, hjob, hstage] at hstep
  | started hawaited hreport hstep =>
      obtain ⟨hgone, hends⟩ :=
        hsound.controller.clientStarted_of_settle hmem herrand hstage hstep
      refine .inr ⟨hgone, ?_⟩
      rcases hends with ⟨hstate, hclient, hsaid⟩ | ⟨hvacant, failure, hsaid⟩
      · rw [hsaid] at hovert
        exact ⟨.restarted, .restarted (hwent.append _) hstate hclient hovert⟩
      · rw [hsaid] at hovert
        exact ⟨.failed, .failed (.inr ⟨client, context, rfl⟩) hvacant hovert⟩

theorem Settling.step (hrun : Run.follow next? (idle options) moves = some (before, past))
    (hmem : job ∈ before.controller.jobs) (herrand : job.errand = .settle)
    (hsettling : Settling options moves job.id job.stage)
    (hmove : before.next? (.task around (.job job.id)) = some (after, effects)) :
    Goes options (moves ++ [.task around (.job job.id)]) job before after (past ++ effects) := by
  generalize hstage : job.stage = stage at hsettling
  cases hsettling with
  | fresh hnew hwork => exact goes_of_new hrun hmem herrand (hstage ▸ hnew) hwork hmove
  | closing hclosed hwork => exact goes_of_closing hrun hmem hstage hclosed hwork hmove
  | @settling generation wake hrests hwork =>
      have hwaits : job.stage.recorded? = some generation := by
        rw [hstage]
        rfl
      have hjob := ((sound_idle options).run hrun).controller.orderly.job?_of_mem hmem
      have hstep := hmove
      rw [next?_of_waiting hjob (hwaits ▸ rfl), Option.map_eq_some_iff] at hstep
      obtain ⟨outcome, hstep, -⟩ := hstep
      exact goes_of_waiting hrun hmem herrand hwaits ⟨moves, around, [], wake, rfl, hrests,
        Controller.wake_le_of_step hjob hstage hstep⟩ hwork hmove
  | returning hawoke hwork =>
      exact goes_of_waiting hrun hmem herrand (congrArg _ hstage) (hawoke.append _) hwork hmove
  | opening hwent hwork => exact goes_of_opening hrun hmem herrand hstage hwent hwork hmove

end Stepping

section Absent

variable {options : Controller.Options} {before after : Lifecycle} {move : Move}
  {moves : List Move} {effects past : List Effect} {id : JobId}

/-- A job that is not there does nothing. -/
theorem doings_of_absent (habsent : ∀ job ∈ before.controller.jobs, job.id ≠ id)
    (hmove : before.next? move = some (after, effects)) : doings id before move = [] := by
  apply doings_other
  rintro around rfl
  obtain ⟨job, hid, hjob⟩ := exists_job hmove
  exact habsent job (Controller.mem_of_job? hjob).1 hid

theorem nextJob_le (hsound : before.Sound) (hmove : before.next? move = some (after, effects)) :
    before.controller.nextJob ≤ after.controller.nextJob := by
  rcases (advance_of_next? hsound.controller hmove).shadow with ⟨-, hsame⟩ |
    ⟨-, errand, hbegun, -⟩ | ⟨around, job, rfl, -, harrives⟩
  · exact Nat.le_of_eq (congrArg Controller.nextJob hsame).symm
  · rw [hbegun]
    exact Nat.le_succ _
  · exact Nat.le_of_eq harrives.1.nextJob.symm

/-- A job that there has never been has done nothing. -/
theorem work_of_unborn (options : Controller.Options)
    (hrun : Run.follow next? (idle options) moves = some (after, past))
    (hunborn : after.controller.nextJob ≤ id) : work options moves id = [] := by
  have hholds : after.Sound ∧ (after.controller.nextJob ≤ id → work options moves id = []) := by
    refine Run.follow_notes_induction (fun lifecycle _ noted => lifecycle.Sound ∧
      (lifecycle.controller.nextJob ≤ id → noted = [])) ⟨sound_idle options, fun _ => rfl⟩ ?_ hrun
    rintro before trace noted move after effects - ⟨hsound, hnothing⟩ hmove
    refine ⟨hsound.step hmove, fun hunborn => ?_⟩
    have hbefore := Nat.le_trans (nextJob_le hsound hmove) hunborn
    have habsent : ∀ job ∈ before.controller.jobs, job.id ≠ id := fun job hmem =>
      Nat.ne_of_lt (Nat.lt_of_lt_of_le (hsound.controller.orderly.lt_nextJob job hmem) hbefore)
    rw [hnothing hbefore, doings_of_absent habsent hmove]
    rfl
  exact hholds.2 hunborn

/-- A job that was there once and has ended does nothing more. -/
theorem doings_of_gone (hsound : before.Sound) (hborn : id < before.controller.nextJob)
    (hgone : ∀ job ∈ before.controller.jobs, job.id ≠ id)
    (hrun : Run.follow next? before moves = some (after, past)) :
    Run.notes next? (doings id) before moves = [] := by
  have hholds : (after.Sound ∧ id < after.controller.nextJob ∧
      ∀ job ∈ after.controller.jobs, job.id ≠ id) ∧
        Run.notes next? (doings id) before moves = [] := by
    refine Run.follow_notes_induction (fun lifecycle _ noted => (lifecycle.Sound ∧
      id < lifecycle.controller.nextJob ∧ ∀ job ∈ lifecycle.controller.jobs, job.id ≠ id) ∧
        noted = []) ⟨⟨hsound, hborn, hgone⟩, rfl⟩ ?_ hrun
    rintro before trace noted move after effects - ⟨⟨hsound, hborn, hgone⟩, rfl⟩ hmove
    refine ⟨⟨hsound.step hmove, Nat.lt_of_lt_of_le hborn (nextJob_le hsound hmove), ?_⟩,
      doings_of_absent hgone hmove⟩
    intro job hmem
    rcases (advance_of_next? hsound.controller hmove).shadow with ⟨-, hsame⟩ |
      ⟨-, errand, hbegun, -⟩ | ⟨around, worker, rfl, hworker, harrives⟩
    · exact hgone job (hsame ▸ hmem)
    · rw [hbegun] at hmem
      rcases Controller.mem_begin.mp hmem with hold | rfl
      · exact hgone job hold
      · exact (Nat.ne_of_lt hborn).symm
    · have hworks := (Controller.mem_of_job? hworker).1
      rcases harrives.2.mem_jobs hsound.controller.orderly hworks hmem with ⟨hold, -⟩ | ⟨stage, rfl⟩
      · exact hgone job hold
      · exact hgone worker hworks
  exact hholds.2

end Absent

section Concluding

variable {options : Controller.Options} {before after : Lifecycle} {move : Move}
  {moves : List Move} {effects past : List Effect} {job : Controller.Job}

/-- Every restart that is there after some moves has got somewhere. -/
def Traceable (options : Controller.Options) (moves : List Move) (lifecycle : Lifecycle) : Prop :=
  ∀ job ∈ lifecycle.controller.jobs, job.errand = .settle →
    Settling options moves job.id job.stage

/-- A restart that is still there after a move of its own has got somewhere. -/
theorem Settling.stays {around : Surroundings} {worker : Controller.Job}
    (hsettling : Settling options moves worker.id worker.stage)
    (hrun : Run.follow next? (idle options) moves = some (before, past))
    (hworker : worker ∈ before.controller.jobs) (herrand : worker.errand = .settle)
    (hmove : before.next? (.task around (.job worker.id)) = some (after, effects))
    (hmem : job ∈ after.controller.jobs) (hid : job.id = worker.id) :
    Settling options (moves ++ [.task around (.job worker.id)]) job.id job.stage := by
  have hsound : before.Sound := (sound_idle options).run hrun
  rcases hsettling.step hrun hworker herrand hmove with ⟨stage, hthere, hgot⟩ | ⟨hgone, -⟩
  · rw [(hsound.step hmove).controller.orderly.eq_of_id hthere hmem hid]
    exact hgot
  · exact absurd hid (hgone job hmem)

theorem Traceable.step (htraceable : Traceable options moves before)
    (hrun : Run.follow next? (idle options) moves = some (before, past))
    (hmove : before.next? move = some (after, effects)) :
    Traceable options (moves ++ [move]) after := by
  have hsound : before.Sound := (sound_idle options).run hrun
  intro job hmem herrand
  have hold (hbefore : job ∈ before.controller.jobs) :
      Settling options (moves ++ [move]) job.id job.stage := by
    have hsettling := htraceable job hbefore herrand
    by_cases hown : ∃ around, move = .task around (.job job.id)
    · obtain ⟨around, rfl⟩ := hown
      exact hsettling.stays hrun hbefore herrand hmove hmem rfl
    · exact hsettling.other hrun hmove fun around hsame => hown ⟨around, hsame⟩
  rcases (advance_of_next? hsound.controller hmove).shadow with ⟨-, hsame⟩ |
    ⟨-, errand, hbegun, -⟩ | ⟨around, worker, rfl, hworker, harrives⟩
  · exact hold (hsame ▸ hmem)
  · rw [hbegun] at hmem
    rcases Controller.mem_begin.mp hmem with hbefore | rfl
    · exact hold hbefore
    · refine .fresh rfl ?_
      have hnothing : work options moves before.controller.nextJob = [] :=
        work_of_unborn options hrun (Nat.le_refl _)
      have habsent : ∀ job ∈ before.controller.jobs, job.id ≠ before.controller.nextJob :=
        fun job hjob => Nat.ne_of_lt (hsound.controller.orderly.lt_nextJob job hjob)
      rw [work, Run.notes_concat hrun hmove, doings_of_absent habsent hmove, List.append_nil]
      exact congrArg overt hnothing
  · have hworks := (Controller.mem_of_job? hworker).1
    rcases harrives.2.mem_jobs hsound.controller.orderly hworks hmem with
      ⟨hbefore, -⟩ | ⟨stage, rfl⟩
    · exact hold hbefore
    · exact (htraceable worker hworks herrand).stays hrun hworks herrand hmove hmem rfl

theorem traceable_of_run (options : Controller.Options)
    (hrun : Run.follow next? (idle options) moves = some (after, past)) :
    Traceable options moves after := by
  have hholds := Run.follow_history_induction
    (fun done lifecycle past => Run.follow next? (idle options) done = some (lifecycle, past) ∧
      Traceable options done lifecycle) ⟨rfl, by simp [Traceable, idle, Controller.idle]⟩ ?_ hrun
  · exact hholds.2
  · rintro done before past move after effects - ⟨hdone, htraceable⟩ hmove
    exact ⟨Run.follow_append_eq_some.mpr
      ⟨before, past, effects, hdone, Run.follow_singleton hmove, rfl⟩,
      htraceable.step hdone hmove⟩

def Effect.conclusion? : Effect → Option Conclusion
  | .control (.showInfo _) => some .restarted
  | .control (.showError _) => some .failed
  | .control (.finish _ .superseded) => some .superseded
  | _ => none

/-- How a restart has ended, by what it did: it gave up after its stop if nothing else is said. -/
def conclusionOf (effects : List Effect) : Conclusion :=
  (effects.findSome? Effect.conclusion?).getD .unstopped

/-- What is overt of a restart tells how it ended. -/
theorem Concludes.conclusionOf_eq {trace : List Effect} {id : JobId} {conclusion : Conclusion}
    (hends : Concludes options moves id before after trace conclusion) :
    conclusionOf (overt (work options moves id)) = conclusion := by
  cases hends with
  | unstopped hclosed hfailed hwork => rw [hwork]; rfl
  | superseded hrecorded hlt hwork => rw [hwork]; rfl
  | restarted hwent hstate hclient hwork => rw [hwork]; rfl
  | failed hattempt hvacant hwork =>
      rw [hwork]
      rcases hattempt with rfl | ⟨client, context, rfl⟩
      · rfl
      · rfl

/-- Whatever the host, the server and everybody else do: no restart after a change misses the
context of an earlier start, and one that ends has ended in exactly one of four ways, in a move of
its own, and does nothing more. -/
theorem conclusion_of_run (options : Controller.Options)
    (hrun : Run.follow next? (idle options) moves = some (before, past)) :
    (∀ id, .control (.finish id .contextMissing) ∉ past) ∧
    ∀ job ∈ before.controller.jobs, job.errand = .settle → ∀ move after effects,
      before.next? move = some (after, effects) →
      (∀ other ∈ after.controller.jobs, other.id ≠ job.id) →
        (∃ around, move = .task around (.job job.id)) ∧
        (∃! conclusion, Concludes options (moves ++ [move]) job.id before after
          (past ++ effects) conclusion) ∧
        ∀ later last more, Run.follow next? after later = some (last, more) →
          work options (moves ++ [move] ++ later) job.id =
            work options (moves ++ [move]) job.id := by
  have hsound : before.Sound := (sound_idle options).run hrun
  refine ⟨not_contextMissing_of_run options hrun, ?_⟩
  intro job hmem herrand move after effects hmove hgone
  have hsettling := traceable_of_run options hrun job hmem herrand
  have hown : ∃ around, move = .task around (.job job.id) := by
    rcases (advance_of_next? hsound.controller hmove).shadow with ⟨-, hsame⟩ |
      ⟨-, errand, hbegun, -⟩ | ⟨around, worker, rfl, hworker, harrives⟩
    · exact absurd rfl (hgone job (hsame ▸ hmem))
    · exact absurd rfl (hgone job (hbegun ▸ Controller.mem_begin.mpr (.inl hmem)))
    · by_contra hother
      refine hgone job (harrives.2.other_mem_jobs hmem fun hid => hother ⟨around, ?_⟩) rfl
      rw [hid]
  refine ⟨hown, ?_, ?_⟩
  · obtain ⟨around, rfl⟩ := hown
    rcases hsettling.step hrun hmem herrand hmove with ⟨stage, hthere, -⟩ | ⟨-, conclusion, hends⟩
    · exact (hgone _ hthere rfl).elim
    · refine ⟨conclusion, hends, fun other hother => ?_⟩
      rw [← hother.conclusionOf_eq, hends.conclusionOf_eq]
  · intro later last more hlater
    have hlast : Run.follow next? (idle options) (moves ++ [move]) =
        some (after, past ++ effects) :=
      Run.follow_append_eq_some.mpr
        ⟨before, past, effects, hrun, Run.follow_singleton hmove, rfl⟩
    have hborn : job.id < after.controller.nextJob := Nat.lt_of_lt_of_le
      (hsound.controller.orderly.lt_nextJob job hmem) (nextJob_le hsound hmove)
    rw [work, Run.notes_append hlast,
      doings_of_gone (hsound.step hmove) hborn hgone hlater, List.append_nil]
    rfl

/-- A run up to the last move of a restart that a burst of two changes has caused. -/
def practiceSettling : List Move :=
  practiceStart ++ practiceGathering ++ practiceWaking.dropLast

def practiceSettled : Move :=
  .task (practiceSurroundings {} 500 none) (.job 2)

/-- Which jobs there are before and after that move, and what the restart has done by then. -/
def practiceConclusion : Option (List (JobId × Controller.Errand) × List JobId × Conclusion) :=
  (Run.follow next? (idle ⟨500, 3⟩) practiceSettling).bind fun (before, _) =>
    (before.next? practiceSettled).map fun (after, _) =>
      (before.controller.jobs.map fun job => (job.id, job.errand),
        after.controller.jobs.map Controller.Job.id,
        conclusionOf (overt (work ⟨500, 3⟩ (practiceSettling ++ [practiceSettled]) 2)))

set_option maxRecDepth 100000 in
theorem practiceConclusion_eq :
    practiceConclusion = some ([(2, .settle)], [], .restarted) := by
  decide +kernel

theorem conclusion_of_practiceSettling : ∃ before past after effects,
    Run.follow next? (idle ⟨500, 3⟩) practiceSettling = some (before, past) ∧
      before.next? practiceSettled = some (after, effects) ∧
      Concludes ⟨500, 3⟩ (practiceSettling ++ [practiceSettled]) 2 before after (past ++ effects)
        .restarted := by
  obtain ⟨⟨before, past⟩, hrun, hends⟩ := Option.bind_eq_some_iff.mp practiceConclusion_eq
  obtain ⟨⟨after, effects⟩, hmove, hends⟩ := Option.map_eq_some_iff.mp hends
  simp only [Prod.mk.injEq, List.map_eq_singleton_iff, List.map_eq_nil_iff] at hends
  obtain ⟨⟨job, hjobs, hid, herrand⟩, hnobody, hkind⟩ := hends
  have hmem : job ∈ before.controller.jobs := by simp [hjobs]
  have hgone : ∀ other ∈ after.controller.jobs, other.id ≠ job.id := by simp [hnobody]
  obtain ⟨-, hconcludes⟩ := conclusion_of_run ⟨500, 3⟩ hrun
  obtain ⟨-, ⟨conclusion, hended, -⟩, -⟩ :=
    hconcludes job hmem herrand practiceSettled after effects hmove hgone
  rw [hid] at hended
  obtain rfl : conclusion = .restarted := hended.conclusionOf_eq.symm.trans hkind
  exact ⟨before, past, after, effects, hrun, hmove, hended⟩

end Concluding

end NplLifecycle.Lifecycle
