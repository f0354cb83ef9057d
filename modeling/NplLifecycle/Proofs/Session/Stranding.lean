import NplLifecycle.Proofs.Session.Hangup

/-!
# Requests that outlive their connection

A steward that waits for a welcome which cannot come neither closes the session nor sees that the
reader has ended.  So nothing makes a request that waits on that connection fail, and it is only
over when its own time is up.  The request of the greeting is the one that the steward waits for
itself, and the request to shut down is another one.
-/

namespace NplLifecycle.Session

/-- A request waits on a connection whose reader has ended, and the steward waits there for a
welcome until the request's own time is up. -/
structure Stuck (session : Session) (id : RequestId) (deadline : Nat)
    (connection : ConnectionId) : Prop extends Hung session id connection where
  attended : ∃ task, session.Attends task id deadline
  greeting : ∃ steward request limit, session.stewards = [steward] ∧
    steward.stage = .greeting connection request limit ∧ request ∈ session.pending ∧
      deadline ≤ limit

section Turns

variable {session middle after : Session} {around : Surroundings} {steward : Steward}
  {connection : ConnectionId} {id : RequestId} {deadline : Nat} {task : Task}
  {move : Move} {turns : List Move} {trace effects : List Effect} {journal : List Entry}
  {outcome : Session × List Effect}

theorem mem_returnedIn {result : Except ClientError Response}
    (hmem : .returned id result ∈ journal) : id ∈ returnedIn journal :=
  List.mem_filterMap.mpr ⟨_, hmem, rfl⟩

theorem returnedIn_reader (place : ConnectionId) :
    returnedIn (session.entries (.task around (.reader place))) = [] := by
  simp only [entries]
  cases session.heard? around place <;> rfl

/-- The steward has no turn before the deadline. -/
theorem Stuck.next?_steward (hstuck : session.Stuck id deadline connection)
    (htracked : Tracked session trace journal) (hnow : around.now < deadline)
    (number : StewardId) : session.next? (.task around (.steward number)) = none := by
  obtain ⟨steward, request, limit, hsingle, hstage, hwaits, hlate⟩ := hstuck.greeting
  have hunsettled := htracked.accounted.unsettled hwaits
  show (session.steward? number).bind _ = none
  cases hsteward : session.steward? number with
  | none => rfl
  | some found =>
      obtain rfl : found = steward :=
        List.singleton_inj.mp ((htracked.course.guided.stewards_eq hsteward).symm.trans hsingle)
      rw [Option.bind_some, hstage]
      exact congrArg (Option.map _) (poll_none hunsettled (Nat.lt_of_lt_of_le hnow hlate))

/-- What the owner's call learns before the deadline, it learns of another request. -/
theorem Stuck.other_of_poll {asked : RequestId} {limit : Nat} {next : Session}
    {answer : Except ClientError Response} (hstuck : session.Stuck id deadline connection)
    (htracked : Tracked session trace journal) (hnow : around.now < deadline)
    (hcall : session.call = .stopping asked limit)
    (hpoll : session.poll around shutdownMethod asked limit shutdownTimeout =
      some (next, answer)) : id ∉ returnedIn (session.callEntries around) := by
  simp only [callEntries, hcall, hpoll]
  intro hmem
  obtain rfl : id = asked := List.mem_singleton.mp hmem
  -- Otherwise the call would be the one that waits for the request, and its time is not up.
  obtain ⟨task, hattends⟩ := hstuck.attended
  obtain rfl : task = .call := htracked.accounted.waiting.distinct _ _ _ hattends.request
    (attends_call hcall).request
  have hsame : Call.stopping id limit = .stopping id deadline :=
    hcall.symm.trans hattends.stops
  have hunsettled := htracked.accounted.unsettled hstuck.pending
  rw [(Call.stopping.inj hsame).2, poll_none hunsettled hnow] at hpoll
  exact absurd hpoll (by simp)

/-- The owner's call does not learn anything about the request before the deadline; it may learn
about another one, and then it ends the session. -/
theorem Stuck.call_turn (hstuck : session.Stuck id deadline connection)
    (htracked : Tracked session trace journal) (hnow : around.now < deadline)
    (hturn : CallTurn around session outcome) :
    (outcome.1.Stuck id deadline connection ∨ outcome.1.Quiet) ∧
      id ∉ returnedIn (session.callEntries around) := by
  obtain ⟨steward, request, limit, hsingle, hgreets⟩ := hstuck.greeting
  cases hturn with
  | started hcall =>
      rw [callEntries_of_starting hcall]
      refine ⟨.inl ⟨⟨hstuck.pending, hstuck.writer, hstuck.ended⟩, ?_,
        ⟨steward, request, limit, hsingle, hgreets⟩⟩, List.not_mem_nil⟩
      obtain ⟨task, hattends⟩ := hstuck.attended
      rcases hattends.cases with hstops | ⟨other, hmem, place, hstage⟩
      · exact absurd (hcall.symm.trans hstops) (by simp)
      · obtain rfl : other = steward := List.mem_singleton.mp (hsingle ▸ hmem)
        have hleads := htracked.course.steward?_zero hsingle
        exact ⟨.steward 0, attends_steward hleads hstage⟩
  | failed hcall hready =>
      have hnone := htracked.course.ready _ _ (Ledger.mem_of_lookup hready)
      exact absurd (hsingle.symm.trans hnone) (by simp)
  | orphaned hcall hready hgone =>
      have hnone := htracked.course.leaderless_of_gone hcall hgone
      exact absurd (hsingle.symm.trans hnone) (by simp)
  | refused hcall hpoll =>
      exact ⟨.inr ((htracked.course.guided.poll hpoll).guided.sole.concludeStop _),
        hstuck.other_of_poll htracked hnow hcall hpoll⟩
  | agreed hcall hpoll =>
      exact ⟨.inr ((htracked.course.guided.poll hpoll).guided.sole.concludeStop (.ok ())),
        hstuck.other_of_poll htracked hnow hcall hpoll⟩

/-- Whichever task has a turn before the deadline: the request is not over, unless the owner has
ended the session meanwhile. -/
theorem Stuck.turn (hstuck : session.Stuck id deadline connection)
    (htracked : Tracked session trace journal) (hnow : around.now < deadline)
    (hmove : session.next? (.task around task) = some (after, effects)) :
    (after.Stuck id deadline connection ∨ after.Quiet) ∧
      id ∉ returnedIn (session.entries (.task around task)) := by
  cases task with
  | call =>
      exact hstuck.call_turn htracked hnow (stepCall_turn hmove)
  | steward number =>
      rw [hstuck.next?_steward htracked hnow] at hmove
      exact absurd hmove (by simp)
  | reader place =>
      rw [returnedIn_reader]
      refine ⟨.inl ?_, List.not_mem_nil⟩
      obtain ⟨reader, rfl, hhung⟩ := hstuck.toHung.reader_turn htracked.course hmove
      obtain ⟨task, hattends⟩ := hstuck.attended
      exact ⟨hhung, ⟨task, hattends.congr rfl rfl⟩, hstuck.greeting⟩

/-- Once the owner has ended the session, nothing is over any more. -/
theorem Quiet.turn (hquiet : session.Quiet)
    (hmove : session.next? (.task around task) = some (after, effects)) :
    after.Quiet ∧ returnedIn (session.entries (.task around task)) = [] := by
  have hevolves : Evolves session (after, effects) := .inl ⟨around, task, hmove⟩
  refine ⟨(hevolves.quiet hquiet).1, ?_⟩
  obtain ⟨hnone, hidle⟩ := hquiet
  cases task with
  | call => simp [entries, callEntries, hidle, returnedIn]
  | steward number => simp [entries, steward?, hnone, returnedIn]
  | reader place => exact returnedIn_reader place

/-- However the tasks have their turns before the deadline, the request is not over. -/
theorem Stuck.silent (hstuck : session.Stuck id deadline connection)
    (htracked : Tracked session trace journal)
    (hearly : ∀ move ∈ turns, move.IsTurnBefore deadline)
    (hrun : Run.follow next? session turns = some (middle, effects)) :
    id ∉ returnedIn (Run.notes next? entries session turns) := by
  have hall : id ∉ returnedIn (Run.notes next? entries session turns) ∧
      (middle.Quiet ∨ middle.Stuck id deadline connection ∧
        ∃ trace journal, Tracked middle trace journal) := by
    refine Run.follow_notes_induction (fun session _ noted => id ∉ returnedIn noted ∧
      (session.Quiet ∨ session.Stuck id deadline connection ∧
        ∃ trace journal, Tracked session trace journal)) ?_ ?_ hrun
    · exact ⟨List.not_mem_nil, .inr ⟨hstuck, trace, journal, htracked⟩⟩
    · rintro before past noted move after effects hmem ⟨hnone, hbefore⟩ hmove
      cases move with
      | task around task =>
          rw [returnedIn_append, List.mem_append, not_or]
          rcases hbefore with hquiet | ⟨hstuck, trace, journal, htracked⟩
          · obtain ⟨hafter, hsilent⟩ := hquiet.turn hmove
            exact ⟨⟨hnone, hsilent ▸ List.not_mem_nil⟩, .inl hafter⟩
          · obtain ⟨hafter, hsilent⟩ := hstuck.turn htracked (hearly _ hmem) hmove
            refine ⟨⟨hnone, hsilent⟩, hafter.symm.imp_right fun hstill => ?_⟩
            exact ⟨hstill, _, _, htracked.step (by simp) hmove⟩
      | _ => exact (hearly _ hmem).elim
  exact hall.1

/-- Turns before the deadline lead to where nothing lets the request fail before its time is up. -/
theorem Stuck.not_prompt (hstuck : middle.Stuck id deadline connection)
    (htracked : Tracked middle trace journal) (hlong : 0 < deadline)
    (hearly : ∀ move ∈ turns, move.IsTurnBefore deadline)
    (hrun : Run.follow next? session turns = some (middle, effects))
    (hnone : id ∉ returnedIn (Run.notes next? entries session turns)) :
    ¬session.Prompt id deadline := by
  intro hprompt
  rcases hprompt turns middle effects hearly hrun with hreturned | hdrops
  · exact hnone (mem_returnedIn hreturned)
  · obtain ⟨time, -, hbefore, tasks, last, more, hmore, hmem⟩ :=
      hdrops (practiceSurroundings 0 none .proceed) hlong
    refine hstuck.silent htracked ?_ hmore (mem_returnedIn hmem)
    intro move hturn
    obtain ⟨task, -, rfl⟩ := List.mem_map.mp hturn
    exact hbefore

/-- A steward that greets the server just before the deadline is stuck until then. -/
theorem Hung.not_prompt_of_listening {params : Json} (hhung : session.Hung id connection)
    (htracked : Tracked session trace journal) (hcall : session.call = .stopping id deadline)
    (hsingle : session.stewards = [steward]) (hstage : steward.stage = .listening connection)
    (hprofile : session.profile.handshake = .ok params) (hlong : 0 < deadline) :
    ¬session.Prompt id deadline := by
  let around := practiceSurroundings (deadline - 1) none .proceed
  let changed : Steward := { steward with
    stage := .greeting connection (.number session.nextRequest) (around.now + greetingTimeout) }
  let effect : Effect := .write connection
    (.request (.ofClient (.number session.nextRequest) greetingMethod params))
  have hsend : session.sendRequest around greetingMethod params = .ok effect := by
    simp only [sendRequest, send, hhung.writer]
    rfl
  have hsteward := htracked.course.steward?_zero hsingle
  have hmove : session.next? (.task around (.steward 0)) =
      some (session.enrolled.setSteward changed, [effect]) := by
    rw [next?_of_listening hsteward hstage]
    simp only [greet, hprofile, request_of_ok hsend]
    rfl
  have hstewards : (session.enrolled.setSteward changed).stewards = [changed] :=
    stewards_setSteward hsingle rfl
  have hstuck : (session.enrolled.setSteward changed).Stuck id deadline connection := by
    refine ⟨⟨List.mem_append_left _ hhung.pending, hhung.writer, hhung.ended⟩,
      ⟨.call, attends_call hcall⟩, changed, .number session.nextRequest, _, hstewards, rfl,
      List.mem_append_right _ (List.mem_singleton_self _), ?_⟩
    show deadline ≤ deadline - 1 + greetingTimeout
    simp only [greetingTimeout]
    omega
  refine hstuck.not_prompt (htracked.step (by simp) hmove) hlong ?_ (Run.follow_singleton hmove) ?_
  · intro move hmem
    rw [List.mem_singleton.mp hmem]
    exact Nat.sub_one_lt_of_lt hlong
  · rw [Run.notes_cons hmove]
    simp [entries, hsteward, stewardEntries, hstage, hprofile, requestEntries, hsend, Run.notes,
      returnedIn, Entry.returned?]

/-- A request does not fail promptly where the steward is stranded. -/
theorem Hung.not_prompt_of_stranded (hhung : session.Hung id connection)
    (htracked : Tracked session trace journal) (hattends : session.Attends task id deadline)
    (hlong : 0 < deadline) (hstranded : session.Stranded deadline) :
    ¬session.Prompt id deadline := by
  obtain ⟨steward, hsingle, -, hat⟩ := hhung.stage htracked.course
  obtain ⟨found, hfound, hseeks⟩ := hstranded
  obtain rfl : found = steward := List.mem_singleton.mp (hsingle ▸ hfound)
  rcases hat with hstage | ⟨request, limit, hstage⟩ | hstage
  · rw [hstage] at hseeks
    obtain ⟨params, hprofile⟩ := hseeks
    -- The steward waits for nothing yet, so the request is the owner's.
    rcases hattends.cases with hcall | ⟨other, hother, place, hgreets⟩
    · exact hhung.not_prompt_of_listening htracked hcall hsingle hstage hprofile hlong
    · obtain rfl : other = found := List.mem_singleton.mp (hsingle ▸ hother)
      exact absurd (hgreets.symm.trans hstage) (by simp)
  · rw [hstage] at hseeks
    have hstuck : session.Stuck id deadline connection :=
      ⟨hhung, ⟨task, hattends⟩, found, request, limit, hsingle, hstage, hseeks⟩
    exact hstuck.not_prompt htracked hlong (List.forall_mem_nil _) rfl List.not_mem_nil
  · rw [hstage] at hseeks
    exact hseeks.elim

end Turns

section Runs

variable {profile : ClientProfile} {moves : List Move} {last : Session} {trace : List Effect}
  {connection : ConnectionId} {request : Request}

/-- A request that waits on a connection whose reader has ended fails promptly if the steward is not
stranded in a greeting, and only then.  The request of a greeting itself never does. -/
theorem prompt_iff_of_run
    (hrun : Run.follow next? (fresh profile) (.start :: moves) = some (last, trace))
    (honce : .start ∉ moves) (hsent : .write connection (.request request) ∈ trace)
    (hpending : request.id ∈ last.pending) (hended : (last.exit? connection).isSome) :
    ∃ task deadline, last.Attends task request.id deadline ∧
      (last.Prompt request.id deadline ↔ ¬last.Stranded deadline) ∧
      ∀ number, task = .steward number → last.Stranded deadline := by
  obtain ⟨journal, htracked⟩ := tracked_of_run hrun honce
  have hhung : last.Hung request.id connection :=
    ⟨hpending, htracked.outstanding.sent connection request hsent hpending, hended⟩
  obtain ⟨task, deadline, hattends, hlong⟩ := htracked.outstanding.attended request.id hpending
  have hgreeting {steward : Steward} {place : ConnectionId} (hmem : steward ∈ last.stewards)
      (hstage : steward.stage = .greeting place request.id deadline) : last.Stranded deadline := by
    refine ⟨steward, hmem, ?_⟩
    rw [hstage]
    exact ⟨hpending, Nat.le_refl deadline⟩
  refine ⟨task, deadline, hattends, ⟨?_, ?_⟩, ?_⟩
  · intro hprompt hstranded
    exact hhung.not_prompt_of_stranded htracked hattends hlong hstranded hprompt
  · intro hunstranded
    rcases hattends.cases with hcall | ⟨steward, hmem, place, hstage⟩
    · have hlapsing : last.Lapsing request.id deadline connection := ⟨hhung, hcall, hunstranded⟩
      exact hlapsing.prompt htracked
    · exact absurd (hgreeting hmem hstage) hunstranded
  · rintro number rfl
    obtain ⟨steward, place, hsteward, hstage⟩ := hattends.greets
    exact hgreeting (steward?_eq_some hsteward).1 hstage

/-- The owner stops a client that serves, and the server goes away without an answer. -/
def practiceFarewell : List Move :=
  practiceGreeting .start 1 ++ practiceAnswers 1 ["1"] ++
    [practiceTurn (.steward 0), practiceTurn .call, .stop (practiceSurroundings 0 none .proceed),
      .task (practiceSurroundings 0 (some .finish) .proceed) (.reader 1)]

theorem start_not_mem_practiceFarewell : .start ∉ practiceFarewell := by
  simp [practiceFarewell, practiceGreeting, practiceAnswers, practiceTurn]

set_option maxRecDepth 100000 in
theorem practiceFarewell_outcome :
    (Run.follow next? (fresh (practiceProfile 0)) (.start :: practiceFarewell)).map
        (fun result => (requestsIn result.2, decide (result.1.Hung (.number 2) 1), result.1.call,
          result.1.stewards)) =
      some ([.number 1, .number 2], true, .stopping (.number 2) 5000,
        [⟨0, .serving 1, 0, true⟩]) := by
  decide +kernel

theorem exists_of_mem_requestsIn {id : RequestId} (hmem : id ∈ requestsIn trace) :
    ∃ connection request, .write connection (.request request) ∈ trace ∧ request.id = id := by
  obtain ⟨effect, heffect, hrequest⟩ := List.mem_filterMap.mp hmem
  cases effect with
  | write connection message =>
      cases message with
      | request request => exact ⟨connection, request, heffect, Option.some.inj hrequest⟩
      | _ => exact absurd hrequest (by simp [Effect.request?])
  | _ => exact absurd hrequest (by simp [Effect.request?])

/-- The request to shut down does not wait until its time is up. -/
theorem prompt_of_practiceFarewell : ∃ last trace,
    Run.follow next? (fresh (practiceProfile 0)) (.start :: practiceFarewell) =
        some (last, trace) ∧
      last.Hung (.number 2) 1 ∧ last.Prompt (.number 2) 5000 := by
  obtain ⟨⟨last, trace⟩, hrun, hfound⟩ := Option.map_eq_some_iff.mp practiceFarewell_outcome
  simp only [Prod.mk.injEq, decide_eq_true_eq] at hfound
  obtain ⟨hrequests, hhung, hcall, hstewards⟩ := hfound
  obtain ⟨connection, request, hsent, hid⟩ :=
    exists_of_mem_requestsIn (show .number 2 ∈ requestsIn trace by simp [hrequests])
  obtain ⟨journal, htracked⟩ := tracked_of_run hrun start_not_mem_practiceFarewell
  obtain rfl : connection = 1 := Option.some.inj
    ((htracked.outstanding.sent connection request hsent (hid ▸ hhung.pending)).symm.trans
      hhung.writer)
  obtain ⟨task, deadline, hattends, hprompt, -⟩ :=
    prompt_iff_of_run hrun start_not_mem_practiceFarewell hsent (hid ▸ hhung.pending)
      hhung.ended
  have hserves : ∀ steward ∈ last.stewards, steward.stage = .serving 1 := by
    simp [hstewards]
  obtain rfl : deadline = 5000 := by
    rcases hattends.cases with hstops | ⟨steward, hmem, place, hstage⟩
    · exact (Call.stopping.inj (hstops.symm.trans hcall)).2
    · exact absurd (hstage.symm.trans (hserves steward hmem)) (by simp)
  refine ⟨last, trace, hrun, hhung, hid ▸ hprompt.mpr ?_⟩
  rintro ⟨steward, hmem, hstranded⟩
  rw [hserves steward hmem] at hstranded
  exact hstranded

/-- The server goes away while it is greeted. -/
def practiceHangup : List Move :=
  practiceGreeting .start 1 ++
    [.task (practiceSurroundings 0 (some .finish) .proceed) (.reader 1)]

/-- The steward and the owner's call have a turn when the time of the greeting is up. -/
def practiceExpiry : List Move :=
  [.task (practiceSurroundings 30000 none .proceed) (.steward 0),
    .task (practiceSurroundings 30000 none .proceed) .call]

def Effect.failure? : Effect → Option ClientError
  | .started (.error failure) => some failure
  | _ => none

theorem start_not_mem_practiceHangup : .start ∉ practiceHangup := by
  simp [practiceHangup, practiceGreeting, practiceTurn]

set_option maxRecDepth 100000 in
theorem practiceHangup_outcome :
    (Run.follow next? (fresh (practiceProfile 0)) (.start :: practiceHangup)).map
        (fun result => (decide (result.1.Hung (.number 1) 1), result.1.stewards,
          (Run.follow next? result.1 practiceExpiry).map fun (_, effects) =>
            effects.filterMap Effect.failure?)) =
      some (true, [⟨0, .greeting 1 (.number 1) 30000, 0, false⟩],
        some [.requestTimeout greetingMethod 30000000]) := by
  decide +kernel

/-- The request of the greeting outlives its connection, and the start fails because its time is
up. -/
theorem not_prompt_of_practiceHangup : ∃ last trace final effects,
    Run.follow next? (fresh (practiceProfile 0)) (.start :: practiceHangup) =
        some (last, trace) ∧
      last.Hung (.number 1) 1 ∧ last.Attends (.steward 0) (.number 1) 30000 ∧
      ¬last.Prompt (.number 1) 30000 ∧
      Run.follow next? last practiceExpiry = some (final, effects) ∧
      effects.filterMap Effect.failure? = [.requestTimeout greetingMethod 30000000] := by
  obtain ⟨⟨last, trace⟩, hrun, hfound⟩ := Option.map_eq_some_iff.mp practiceHangup_outcome
  simp only [Prod.mk.injEq, decide_eq_true_eq] at hfound
  obtain ⟨hhung, hstewards, hexpiry⟩ := hfound
  obtain ⟨⟨final, effects⟩, hlater, hfailures⟩ := Option.map_eq_some_iff.mp hexpiry
  obtain ⟨journal, htracked⟩ := tracked_of_run hrun start_not_mem_practiceHangup
  have hattends : last.Attends (.steward 0) (.number 1) 30000 := by
    have hstage : Steward.stage ⟨0, .greeting 1 (.number 1) 30000, 0, false⟩ =
        .greeting 1 (.number 1) 30000 := rfl
    exact attends_steward (htracked.course.steward?_zero hstewards) hstage
  have hstranded : last.Stranded 30000 := by
    refine ⟨_, hstewards ▸ List.mem_singleton_self _, ?_⟩
    exact ⟨hhung.pending, Nat.le_refl 30000⟩
  exact ⟨last, trace, final, effects, hrun, hhung, hattends,
    hhung.not_prompt_of_stranded htracked hattends (by decide) hstranded, hlater, hfailures⟩

end Runs

end NplLifecycle.Session
