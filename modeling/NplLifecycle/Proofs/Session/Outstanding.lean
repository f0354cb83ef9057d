import NplLifecycle.Proofs.Session.Correlation
import NplLifecycle.Proofs.Session.Course

/-!
# Outstanding requests

Where a client is started once, every request without an answer has gone out on the connection that
the session sends on, and some task waits for it, up to a deadline.
-/

namespace NplLifecycle.Session

/-- A task waits for a request up to a deadline. -/
structure Attends (session : Session) (task : Task) (id : RequestId) (deadline : Nat) : Prop where
  request : session.requestOf task = some id
  deadline : session.deadline? task = some deadline

/-- Every request that waits is attended, and went out where the session sends. -/
structure Outstanding (session : Session) (trace : List Effect) : Prop where
  attended : ∀ id ∈ session.pending, ∃ task deadline,
    session.Attends task id deadline ∧ 0 < deadline
  sent : ∀ connection request, .write connection (.request request) ∈ trace →
    request.id ∈ session.pending → session.writer = some connection

section Steps

variable {session after : Session} {around : Surroundings} {steward changed : Steward}
  {id : RequestId} {deadline : Nat} {task : Task} {move : Move} {trace effects : List Effect}
  {journal : List Entry} {outcome : Session × List Effect}

/-- The owner's call waits for a request only while it stops the session. -/
theorem Attends.stops (hattends : session.Attends .call id deadline) :
    session.call = .stopping id deadline := by
  obtain ⟨hrequest, hdeadline⟩ := hattends
  cases hcall : session.call with
  | stopping request limit =>
      simp only [requestOf, deadline?, hcall, Option.some.injEq] at hrequest hdeadline
      rw [hrequest, hdeadline]
  | idle | connecting | starting => simp [requestOf, hcall] at hrequest

theorem attends_call (hcall : session.call = .stopping id deadline) :
    session.Attends .call id deadline := by
  constructor <;> simp [requestOf, deadline?, hcall]

/-- A steward waits for a request only while it greets the server. -/
theorem Attends.greets {number : StewardId}
    (hattends : session.Attends (.steward number) id deadline) :
    ∃ steward connection, session.steward? number = some steward ∧
      steward.stage = .greeting connection id deadline := by
  obtain ⟨hrequest, hdeadline⟩ := hattends
  obtain ⟨steward, hsteward, hrequest⟩ := Option.bind_eq_some_iff.mp hrequest
  simp only [deadline?, hsteward, Option.bind_some] at hdeadline
  cases hstage : steward.stage with
  | greeting connection request limit =>
      simp only [Steward.request?, hstage, Option.some.injEq] at hrequest hdeadline
      exact ⟨steward, connection, hsteward, by rw [hstage, hrequest, hdeadline]⟩
  | _ => simp [Steward.request?, hstage] at hrequest

theorem attends_steward {connection : ConnectionId} {number : StewardId}
    (hsteward : session.steward? number = some steward)
    (hstage : steward.stage = .greeting connection id deadline) :
    session.Attends (.steward number) id deadline := by
  constructor <;> simp [requestOf, deadline?, hsteward, Steward.request?, hstage]

/-- Who waits is either the owner's call or the steward. -/
theorem Attends.cases (hattends : session.Attends task id deadline) :
    session.call = .stopping id deadline ∨ ∃ steward ∈ session.stewards, ∃ connection,
      steward.stage = .greeting connection id deadline := by
  cases task with
  | call => exact .inl hattends.stops
  | reader connection => exact absurd hattends.request (by simp [requestOf])
  | steward number =>
      obtain ⟨steward, connection, hsteward, hstage⟩ := hattends.greets
      exact .inr ⟨steward, (steward?_eq_some hsteward).1, connection, hstage⟩

/-- At a stage in which the steward waits for nothing, only the owner's call waits. -/
theorem Attends.call_of_idle (hattends : session.Attends task id deadline)
    (hsingle : session.stewards = [steward])
    (hidle : ∀ connection request limit, steward.stage ≠ .greeting connection request limit) :
    session.call = .stopping id deadline := by
  apply hattends.cases.resolve_right
  rintro ⟨other, hmem, connection, hstage⟩
  rw [hsingle, List.mem_singleton] at hmem
  exact hidle _ _ _ (hmem ▸ hstage)

theorem Attends.congr (hattends : session.Attends task id deadline)
    (hcall : after.call = session.call) (hstewards : after.stewards = session.stewards) :
    after.Attends task id deadline := by
  refine ⟨(requestOf_congr hcall hstewards) ▸ hattends.request, ?_⟩
  rw [← hattends.deadline]
  cases task with
  | call => simp only [deadline?, hcall]
  | steward number => simp only [deadline?, steward?, hstewards]
  | reader connection => rfl

theorem mem_requestsIn {connection : ConnectionId} {request : Request}
    (hmem : .write connection (.request request) ∈ effects) : request.id ∈ requestsIn effects :=
  List.mem_filterMap.mpr ⟨_, hmem, rfl⟩

theorem outstanding_of_nil (hnone : after.pending = []) : after.Outstanding trace := by
  constructor <;> simp [hnone]

/-- No request is made. -/
theorem Outstanding.keep (houtstanding : session.Outstanding trace)
    (hnone : requestsIn effects = []) (hwriter : after.writer = session.writer)
    (hpending : ∀ id ∈ after.pending, id ∈ session.pending)
    (hattended : ∀ id ∈ after.pending, ∀ task deadline, session.Attends task id deadline →
      ∃ other, after.Attends other id deadline) : after.Outstanding (trace ++ effects) where
  attended id hmem := by
    obtain ⟨task, deadline, hattends, hlong⟩ := houtstanding.attended id (hpending id hmem)
    obtain ⟨other, hstill⟩ := hattended id hmem task deadline hattends
    exact ⟨other, deadline, hstill, hlong⟩
  sent connection request hmem hwaits := by
    rcases List.mem_append.mp hmem with hold | hnew
    · exact hwriter.trans (houtstanding.sent connection request hold (hpending _ hwaits))
    · have hmade := mem_requestsIn hnew
      rw [hnone] at hmade
      exact absurd hmade List.not_mem_nil

/-- A request is made, and its maker begins to wait. -/
theorem Outstanding.ask {method : String} {params : Json} {effect : Effect}
    (houtstanding : session.Outstanding trace) (haccounted : Accounted session trace journal)
    (hsend : session.sendRequest around method params = .ok effect)
    (hpending : after.pending = session.pending ++ [.number session.nextRequest])
    (hwriter : after.writer = session.writer)
    (hmaker : ∃ task deadline, after.Attends task (.number session.nextRequest) deadline ∧
      0 < deadline)
    (hattended : ∀ id ∈ session.pending, ∀ task deadline, session.Attends task id deadline →
      ∃ other, after.Attends other id deadline) : after.Outstanding (trace ++ [effect]) where
  attended id hmem := by
    rw [hpending] at hmem
    rcases List.mem_append.mp hmem with hold | hnew
    · obtain ⟨task, deadline, hattends, hlong⟩ := houtstanding.attended id hold
      obtain ⟨other, hstill⟩ := hattended id hold task deadline hattends
      exact ⟨other, deadline, hstill, hlong⟩
    · rw [List.mem_singleton.mp hnew]
      exact hmaker
  sent connection request hmem hwaits := by
    rw [hwriter]
    rcases List.mem_append.mp hmem with hold | hnew
    · rw [hpending] at hwaits
      rcases List.mem_append.mp hwaits with hwaited | hlast
      · exact houtstanding.sent connection request hold hwaited
      · -- No request of the past has the number of the next one.
        have hmade := haccounted.sent.subset (mem_requestsIn hold)
        rw [List.mem_singleton.mp hlast] at hmade
        exact absurd hmade haccounted.sound.fresh
    · obtain ⟨sent, hsent, heffect⟩ := send_eq_ok hsend
      rw [heffect, List.mem_singleton, Effect.write.injEq] at hnew
      rw [hnew.1]
      exact hsent

theorem outstanding_failGreeting (connection : ConnectionId) (failure : ClientError) :
    (session.failGreeting steward connection failure).1.Outstanding trace := by
  apply outstanding_of_nil
  rw [failGreeting_eq]
  rfl

theorem StewardTurn.outstanding (hturn : StewardTurn around session steward outcome)
    (hsingle : session.stewards = [steward]) (hcourse : session.Course)
    (haccounted : Accounted session trace journal) (houtstanding : session.Outstanding trace) :
    outcome.1.Outstanding (trace ++ outcome.2) := by
  have hupkeep := hcourse.guided.upkeep_of_single hsingle
  cases hturn with
  | attach hstage =>
      rw [hstage] at hupkeep
      exact outstanding_of_nil hupkeep.1.pending
  | @listen connection hstage =>
      have hframe : (session.listen steward connection).1.pending = session.pending ∧
          (session.listen steward connection).1.writer = session.writer ∧
          (session.listen steward connection).1.call = session.call := by
        rw [listen_eq]
        exact ⟨rfl, rfl, rfl⟩
      obtain ⟨hpending, hwriter, hcall⟩ := hframe
      refine houtstanding.keep rfl hwriter (fun _ hmem => hpending ▸ hmem) ?_
      intro id hmem task deadline hattends
      exact ⟨.call, attends_call (hcall.trans (hattends.call_of_idle hsingle (by simp [hstage])))⟩
  | unfit | unsent | refused => exact outstanding_failGreeting _ _
  | @greet connection params effect hstage hprofile hsend =>
      have hstewards : (session.enrolled.setSteward { steward with
          stage := .greeting connection (.number session.nextRequest)
            (around.now + greetingTimeout) }).steward? steward.id = some { steward with
          stage := .greeting connection (.number session.nextRequest)
            (around.now + greetingTimeout) } := by
        have henrolled : session.enrolled.stewards = [steward] := hsingle
        simp [steward?, stewards_setSteward henrolled]
      refine houtstanding.ask haccounted hsend rfl rfl
        ⟨_, _, attends_steward hstewards rfl, by simp [greetingTimeout]⟩ ?_
      intro id hmem task deadline hattends
      exact ⟨.call, attends_call (hattends.call_of_idle hsingle (by simp [hstage]))⟩
  | @welcomed connection request deadline next answer welcome effect lines hstage hpoll hconfirm =>
      obtain ⟨hwelcome, hnotify⟩ := confirm_eq_ok hconfirm
      have hnone : requestsIn (effect :: lines.map Effect.log) = [] := by
        rw [requestsIn_cons_notify hnotify]
        exact requestsIn_of_routine (routine_logs lines)
      rcases poll_cases hpoll with ⟨settled, hlookup, -, rfl⟩ | ⟨-, -, rfl, -⟩
      · refine houtstanding.keep hnone rfl (fun _ hmem => hmem) ?_
        intro id hmem task limit hattends
        rcases hattends.cases with hcall | ⟨other, hother, place, hgreets⟩
        · exact ⟨.call, attends_call hcall⟩
        · -- The greeting is answered and waits no longer.
          rw [hsingle, List.mem_singleton] at hother
          rw [hother, hstage, Stage.greeting.injEq] at hgreets
          have hunsettled := haccounted.unsettled hmem
          rw [← hgreets.2.1, hlookup] at hunsettled
          exact absurd hunsettled (by simp)
      · simp [welcomeOf, Except.bind] at hwelcome
  | lose => exact outstanding_of_nil rfl
  | retire hstage | resign hstage | exhaust hstage | reconnect hstage =>
      rw [hstage] at hupkeep
      exact outstanding_of_nil hupkeep.1.pending

theorem CallTurn.outstanding (hturn : CallTurn around session outcome) (hcourse : session.Course)
    (houtstanding : session.Outstanding trace) :
    outcome.1.Outstanding (trace ++ outcome.2) := by
  cases hturn with
  | started hcall =>
      refine houtstanding.keep rfl rfl (fun _ hmem => hmem) ?_
      intro id hmem task deadline hattends
      cases task with
      | call => exact absurd (hcall.symm.trans hattends.stops) (by simp)
      | reader connection => exact absurd hattends.request (by simp [requestOf])
      | steward number =>
          obtain ⟨steward, connection, hsteward, hstage⟩ := hattends.greets
          exact ⟨.steward number, attends_steward hsteward hstage⟩
  | failed hcall hready =>
      apply outstanding_of_nil
      rw [abandonTasks_eq]
      exact (hcourse.offline_of_none (hcourse.ready _ _ (Ledger.mem_of_lookup hready))).pending
  | orphaned hcall hready hgone =>
      apply outstanding_of_nil
      rw [abandonTasks_eq]
      exact (hcourse.offline_of_none (hcourse.leaderless_of_gone hcall hgone)).pending
  | refused | agreed => exact outstanding_of_nil rfl

/-- Every move but another start leaves every outstanding request attended. -/
theorem Passage.outstanding (hpassage : Passage session move outcome) (hother : move ≠ .start)
    (hcourse : session.Course) (haccounted : Accounted session trace journal)
    (houtstanding : session.Outstanding trace) :
    outcome.1.Outstanding (trace ++ outcome.2) := by
  cases hpassage with
  | start => exact absurd rfl hother
  | stopDead | stopUnsent | abandon => exact outstanding_of_nil rfl
  | stop hidle halive hsend =>
      refine houtstanding.ask haccounted hsend rfl rfl
        ⟨.call, _, attends_call rfl, by simp [shutdownTimeout]⟩ ?_
      intro id hmem task deadline hattends
      cases task with
      | call => exact absurd (hidle.symm.trans hattends.stops) (by simp)
      | reader connection => exact absurd hattends.request (by simp [requestOf])
      | steward number =>
          obtain ⟨steward, connection, hsteward, hstage⟩ := hattends.greets
          exact ⟨.steward number, attends_steward hsteward hstage⟩
  | openDocument heffects =>
      exact houtstanding.keep (requestsIn_of_routine (routine_openDocument heffects)) rfl
        (fun _ hmem => hmem) fun _ _ task _ hattends => ⟨task, hattends⟩
  | steward hsteward hturn =>
      exact hturn.outstanding (hcourse.guided.stewards_eq hsteward) hcourse haccounted houtstanding
  | reader hreader hexit hconnection hturn =>
      obtain ⟨pending, settled, hafter, -, -, hpending⟩ := hturn.frame hexit
      rw [hafter]
      exact houtstanding.keep (requestsIn_of_routine hturn.routine) rfl hpending
        fun _ _ task _ hattends => ⟨task, hattends.congr rfl rfl⟩
  | call hturn => exact hturn.outstanding hcourse houtstanding
  | supplyStart hcall | refuseStart hcall =>
      exact outstanding_of_nil (hcourse.offline_of_none (hcourse.awaited hcall).1).pending
  | resupply hsteward hstage | refuse hsteward hstage =>
      exact outstanding_of_nil (hcourse.guided.offline_of_awaits hsteward hstage).pending

end Steps

section Runs

variable {profile : ClientProfile} {moves : List Move} {session last : Session}
  {trace : List Effect} {journal : List Entry}

/-- What is known of a client that was started once, and of its requests. -/
structure Tracked (session : Session) (trace : List Effect) (journal : List Entry) : Prop where
  accounted : Accounted session trace journal
  course : session.Course
  outstanding : session.Outstanding trace

theorem Tracked.step {before after : Session} {past effects : List Effect} {move : Move}
    (htracked : Tracked before past journal) (hother : move ≠ .start)
    (hmove : before.next? move = some (after, effects)) :
    Tracked after (past ++ effects) (journal ++ before.entries move) := by
  have hpassage := next?_passage hmove
  exact ⟨htracked.accounted.step hmove, hpassage.course htracked.course hother,
    hpassage.outstanding hother htracked.course htracked.accounted htracked.outstanding⟩

theorem tracked_of_run
    (hrun : Run.follow next? (fresh profile) (.start :: moves) = some (last, trace))
    (honce : .start ∉ moves) : ∃ journal, Tracked last trace journal := by
  obtain ⟨more, hrest, rfl⟩ := follow_start hrun
  have hbegin : (fresh profile).next? .start = some (fresh profile).beginStart := rfl
  refine Run.follow_induction
    (fun session past => ∃ journal, Tracked session (.connect .start :: past) journal) ?_ ?_ hrest
  · exact ⟨_, (accounted_fresh profile).step hbegin, course_beginStart profile,
      outstanding_of_nil rfl⟩
  · rintro before past move after effects hmem ⟨journal, htracked⟩ hmove
    exact ⟨_, htracked.step (fun hsame => honce (hsame ▸ hmem)) hmove⟩

end Runs

end NplLifecycle.Session
