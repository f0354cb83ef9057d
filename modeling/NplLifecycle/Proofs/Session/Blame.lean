import NplLifecycle.Proofs.Session.Move

/-!
# What a client's start fails over

A start asks for a connection and waits for a welcome.  So it fails because no connection comes,
because the greeting or its confirmation cannot be sent, or because the server does not answer with
a welcome.  That there is no workspace, or that the settings cannot be read, is found out before
there is a client, and no session ever says so.
-/

namespace NplLifecycle

def ClientError.arisesInSession : ClientError → Bool
  | .noWorkspace | .settings _ => false
  | _ => true

namespace Session

/-- Whatever failure a session keeps for a start has arisen in the session. -/
def Candid (session : Session) : Prop :=
  ∀ id failure, (id, .error failure) ∈ session.ready → failure.arisesInSession = true

/-- Whatever failure is told to a start, now or later, has arisen in the session. -/
structure Confides (outcome : Session × List Effect) : Prop where
  candid : outcome.1.Candid
  told : ∀ failure, .started (.error failure) ∈ outcome.2 → failure.arisesInSession = true

section Failures

variable {session next : Session} {around : Surroundings} {failure : ClientError}
  {answer : Except ClientError Response}

theorem arises_of_send {message : Message} (hsend : session.send around message = .error failure) :
    failure.arisesInSession = true := by
  cases hwriter : session.writer with
  | none =>
      simp only [send, hwriter, Except.error.injEq] at hsend
      rw [← hsend]
      rfl
  | some connection =>
      cases hfault : around.writeFault connection with
      | none => simp [send, hwriter, hfault] at hsend
      | some cause =>
          simp only [send, hwriter, hfault, Except.error.injEq] at hsend
          rw [← hsend]
          rfl

theorem eq_error_of_bind {Failure First Second : Type} {first : Except Failure First}
    {second : First → Except Failure Second} {fault : Failure}
    (hbind : first.bind second = .error fault) :
    first = .error fault ∨ ∃ value, second value = .error fault := by
  cases first with
  | error failure => exact .inl (congrArg Except.error (Except.error.inj hbind))
  | ok value => exact .inr ⟨value, hbind⟩

/-- A request comes to nothing because the connection was closed or the time is up. -/
theorem arises_of_poll {method : String} {id : RequestId} {deadline timeout : Nat}
    (hpoll : session.poll around method id deadline timeout = some (next, .error failure)) :
    failure.arisesInSession = true := by
  rcases poll_cases hpoll with ⟨settled, -, hanswer, -⟩ | ⟨-, -, hanswer, -⟩
  · cases settled with
    | none =>
        rw [Except.error.inj hanswer]
        rfl
    | some response => exact absurd hanswer (by simp)
  · rw [Except.error.inj hanswer]
    rfl

theorem arises_of_resultOf {response : Response} (hresult : resultOf response = .error failure) :
    failure.arisesInSession = true := by
  cases hrefusal : response.refusal with
  | none => simp [resultOf, hrefusal] at hresult
  | some refusal =>
      simp only [resultOf, hrefusal, Except.error.injEq] at hresult
      rw [← hresult]
      rfl

theorem arises_of_welcomeOf
    (hanswer : ∀ fault, answer = .error fault → fault.arisesInSession = true)
    (hwelcome : welcomeOf answer = .error failure) : failure.arisesInSession = true := by
  simp only [welcomeOf] at hwelcome
  split at hwelcome
  · rw [← Except.error.inj hwelcome]
    rfl
  · rename_i fault _ hfault
    rw [← Except.error.inj hwelcome]
    rcases eq_error_of_bind hfault with hnone | ⟨response, hresult⟩
    · exact hanswer fault hnone
    · exact arises_of_resultOf hresult
  · rename_i value _
    cases hshape : Welcome.ofJson? value with
    | none =>
        simp only [hshape, Option.elim_none, Except.error.injEq] at hwelcome
        rw [← hwelcome]
        rfl
    | some welcome => simp [hshape] at hwelcome

theorem arises_of_confirm
    (hanswer : ∀ fault, answer = .error fault → fault.arisesInSession = true)
    (hconfirm : session.confirm around answer = .error failure) :
    failure.arisesInSession = true := by
  rcases eq_error_of_bind hconfirm with hwelcome | ⟨welcome, hnotify⟩
  · exact arises_of_welcomeOf hanswer hwelcome
  · cases hsend : session.notify around "initialized" (.obj []) with
    | error fault =>
        simp only [hsend, Except.map, Except.error.injEq] at hnotify
        rw [← hnotify]
        exact arises_of_send hsend
    | ok effect => simp [hsend, Except.map] at hnotify

end Failures

section Turns

variable {session : Session} {around : Surroundings} {outcome : Session × List Effect}

theorem candid_failGreeting (hcandid : session.Candid) (steward : Steward)
    (connection : ConnectionId) {failure : ClientError}
    (harises : failure.arisesInSession = true) :
    (session.failGreeting steward connection failure).1.Candid := by
  rw [failGreeting_eq]
  intro id fault hmem
  rcases List.mem_append.mp hmem with hold | hnew
  · exact hcandid id fault hold
  · cases hannounced : steward.announced with
    | true => simp [news, hannounced] at hnew
    | false =>
        simp only [news, hannounced, Bool.false_eq_true, if_false, List.mem_singleton,
          Prod.mk.injEq, Except.error.injEq] at hnew
        rw [hnew.2]
        exact harises

theorem candid_of_poll {next : Session} {method : String} {id : RequestId}
    {deadline timeout : Nat} {answer : Except ClientError Response}
    (hpoll : session.poll around method id deadline timeout = some (next, answer))
    (hcandid : session.Candid) : next.Candid := by
  obtain ⟨pending, settled, rfl, -⟩ := poll_eq hpoll
  exact hcandid

theorem StewardTurn.candid {steward : Steward} (hturn : StewardTurn around session steward outcome)
    (hcandid : session.Candid) : outcome.1.Candid := by
  cases hturn with
  | listen =>
      rw [listen_eq]
      exact hcandid
  | unfit => exact candid_failGreeting hcandid _ _ rfl
  | unsent hstage hprofile hsend =>
      have hcounted : session.counted.Candid := hcandid
      exact candid_failGreeting hcounted _ _ (arises_of_send hsend)
  | refused hstage hpoll hconfirm =>
      refine candid_failGreeting (candid_of_poll hpoll hcandid) _ _ (arises_of_confirm ?_ hconfirm)
      rintro fault rfl
      exact arises_of_poll hpoll
  | welcomed hstage hpoll hconfirm =>
      intro id fault hmem
      rcases List.mem_append.mp hmem with hold | hnew
      · exact candid_of_poll hpoll hcandid id fault hold
      · cases hannounced : steward.announced <;> simp [news, hannounced] at hnew
  | _ => exact hcandid

theorem ReaderTurn.candid {reader changed : Reader} {reading : Reading}
    (hturn : ReaderTurn around session reader reading changed outcome) (hcandid : session.Candid) :
    outcome.1.Candid := by
  cases hturn with
  | @message _ _ message =>
      cases message with
      | response response =>
          simp only [dispatch, handleResponse]
          split
          · exact hcandid
          · split
            · exact hcandid
            · exact hcandid
      | request request => exact hcandid
      | notification notification => exact hcandid
  | _ => exact hcandid

theorem confides_concludeStop (hcandid : session.Candid) (result : Except ClientError Unit) :
    Confides (session.concludeStop result) where
  candid := by
    intro id failure hmem
    simp only [concludeStop, close, abandonTasks_eq] at hmem
    exact hcandid id failure hmem
  told := by
    intro failure hmem
    rcases List.mem_append.mp hmem with hclose | hlast
    · obtain ⟨connection, -, hhangUp⟩ := Option.map_eq_some_iff.mp (Option.mem_toList.mp hclose)
      exact absurd hhangUp (by simp)
    · exact absurd (List.mem_singleton.mp hlast) (by simp)

theorem confides_failStart (hcandid : session.Candid) {failure : ClientError}
    (harises : failure.arisesInSession = true) :
    Confides (session.abandonTasks.failStart failure) where
  candid := by
    intro id fault hmem
    simp only [failStart, abandonTasks_eq] at hmem
    exact hcandid id fault hmem
  told := by
    intro fault hmem
    rw [Except.error.inj (Effect.started.inj (List.mem_singleton.mp hmem))]
    exact harises

theorem CallTurn.confides (hturn : CallTurn around session outcome) (hcandid : session.Candid) :
    Confides outcome := by
  have hfiltered (id : StewardId) :
      Candid { session with ready := session.ready.filter (·.1 ≠ id) } :=
    fun other failure hmem => hcandid other failure (List.mem_filter.mp hmem).1
  cases hturn with
  | started hcall hready =>
      exact ⟨hfiltered _, fun failure hmem => absurd (List.mem_singleton.mp hmem) (by simp)⟩
  | @failed id failure hcall hready =>
      obtain ⟨early, late, hsplit, -⟩ := List.lookup_eq_some_iff.mp hready
      refine confides_failStart (hfiltered id) (hcandid id failure ?_)
      rw [hsplit]
      exact List.mem_append_right _ List.mem_cons_self
  | orphaned => exact confides_failStart hcandid rfl
  | refused hcall hpoll hleave =>
      exact confides_concludeStop (candid_of_poll hpoll hcandid) _
  | agreed hcall hpoll hleave =>
      obtain ⟨-, -, hnotify⟩ := takeLeave_eq_ok hleave
      obtain ⟨connection, -, rfl⟩ := send_eq_ok hnotify
      have hstopped := confides_concludeStop (candid_of_poll hpoll hcandid) (.ok ())
      refine ⟨hstopped.candid, fun failure hmem => hstopped.told failure ?_⟩
      exact (List.mem_cons.mp hmem).resolve_left (by simp)

end Turns

section Changes

variable {session : Session} {around : Surroundings} {outcome : Session × List Effect}

/-- A steward or a reader tells a start nothing itself. -/
theorem confides_of_works (hcandid : outcome.1.Candid) (hworks : Works session outcome) :
    Confides outcome := by
  refine ⟨hcandid, fun failure hmem => ?_⟩
  have hverdict := (hworks.effects _ hmem).1
  exact absurd hverdict (by simp [Effect.isVerdict])

theorem confides_supply (hcandid : session.Candid) (asker : Asker)
    (result : Except (List String) ConnectionId) : Confides (session.supply asker result) := by
  cases asker with
  | start =>
      cases result with
      | ok connection => exact ⟨hcandid, fun _ hmem => absurd hmem List.not_mem_nil⟩
      | error causes =>
          refine ⟨hcandid, fun failure hmem => ?_⟩
          have hlast := (List.mem_cons.mp hmem).resolve_left (by simp)
          rw [Except.error.inj (Effect.started.inj (List.mem_singleton.mp hlast))]
          rfl
  | steward id =>
      constructor
      · simp only [supply, supplySteward]
        split
        · exact hcandid
        · exact hcandid
      · intro failure hmem
        cases result <;> simp [supply] at hmem

/-- Whatever a session does by itself keeps it candid, and tells a start only of failures that have
arisen in it. -/
theorem Evolves.confides (hevolves : Evolves session outcome) (hcandid : session.Candid) :
    Confides outcome := by
  rcases hevolves with ⟨around, task, hstep⟩ | ⟨asker, result, -, rfl⟩
  · cases task with
    | call => exact (stepCall_turn hstep).confides hcandid
    | steward id =>
        obtain ⟨steward, -, hturn⟩ := stepSteward_turn hstep
        exact confides_of_works (hturn.candid hcandid) (works_stepSteward hstep).1
    | reader connection =>
        obtain ⟨reader, reading, changed, -, -, -, hturn⟩ := stepReader_turn hstep
        exact confides_of_works (hturn.candid hcandid) (works_stepReader hstep)
  · exact confides_supply hcandid asker result

theorem confides_beginStart (profile : ClientProfile) : Confides (fresh profile).beginStart :=
  ⟨fun _ _ hmem => absurd hmem List.not_mem_nil,
    fun _ hmem => absurd (List.mem_singleton.mp hmem) (by simp)⟩

theorem confides_beginStop (hcandid : session.Candid) : Confides (session.beginStop around) := by
  have hhalting : session.halting.Candid := hcandid
  cases halive : session.alive with
  | false =>
      rw [beginStop_of_dead halive]
      exact confides_concludeStop hhalting _
  | true =>
      cases hsend : session.sendRequest around shutdownMethod .null with
      | error failure =>
          have hcounted : session.halting.counted.Candid := hcandid
          rw [beginStop_of_error halive hsend]
          exact confides_concludeStop hcounted _
      | ok effect =>
          obtain ⟨connection, -, rfl⟩ := send_eq_ok hsend
          rw [beginStop_of_ok halive hsend]
          exact ⟨hcandid, fun failure hmem => absurd (List.mem_singleton.mp hmem) (by simp)⟩

theorem confides_abandon (hcandid : session.Candid) : Confides session.abandon where
  candid := by
    intro id failure hmem
    simp only [abandon, close, abandonTasks_eq] at hmem
    exact hcandid id failure hmem
  told := by
    intro failure hmem
    obtain ⟨connection, -, hhangUp⟩ := Option.map_eq_some_iff.mp (Option.mem_toList.mp hmem)
    exact absurd hhangUp (by simp)

end Changes

end Session

end NplLifecycle
