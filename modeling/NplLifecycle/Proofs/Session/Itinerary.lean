import NplLifecycle.Proofs.Session.Course
import NplLifecycle.Proofs.Session.Effects

/-!
# What becomes of a client's connections

A trace tells on which connections a welcome was confirmed, and the loss of which of these was put
before the error handler: a loss that is reported is that of the connection whose welcome was
confirmed last.  Where a client is started once, the stage of its steward agrees with that.
-/

namespace NplLifecycle.Session

structure Itinerary where
  /-- The connection whose welcome was confirmed last, until its loss is reported. -/
  current : Option ConnectionId
  /-- The connections whose welcome was confirmed. -/
  welcomed : List ConnectionId
  /-- The connections whose loss was reported. -/
  lost : List ConnectionId
  /-- How often a loss was reported. -/
  losses : Nat
  deriving DecidableEq, Repr

namespace Itinerary

def welcome (itinerary : Itinerary) (connection : ConnectionId) : Itinerary :=
  { itinerary with
    current := some connection
    welcomed := itinerary.welcomed ++ [connection] }

/-- A loss is reported: it is that of the connection whose welcome was confirmed last. -/
def lose (itinerary : Itinerary) : Itinerary :=
  { itinerary with
    current := none
    lost := itinerary.lost ++ itinerary.current.toList
    losses := itinerary.losses + 1 }

def enter (itinerary : Itinerary) : Effect → Itinerary
  | .write connection (.notification notification) =>
    if notification.method = "initialized" then itinerary.welcome connection else itinerary
  | .consult .closed _ => itinerary.lose
  | _ => itinerary

def advance (itinerary : Itinerary) (effects : List Effect) : Itinerary :=
  effects.foldl enter itinerary

def ofTrace (trace : List Effect) : Itinerary :=
  advance ⟨none, [], [], 0⟩ trace

end Itinerary

/-- The connection whose loss a steward has to report. -/
def Stage.served? (reader : Option ConnectionId) : Stage → Option ConnectionId
  | .serving connection => some connection
  | .bereft _ => reader
  | _ => none

/-- The connection on which a steward seeks the server's welcome. -/
def Stage.courted? : Stage → Option ConnectionId
  | .listening connection | .greeting connection _ _ => some connection
  | _ => none

def served? (session : Session) : Option ConnectionId :=
  session.stage?.bind (Stage.served? session.reader)

def courted? (session : Session) : Option ConnectionId :=
  session.stage?.bind Stage.courted?

structure Charted (session : Session) (itinerary : Itinerary) : Prop where
  /-- Who has to report the loss of a connection has confirmed the welcome on it last. -/
  serves : ∀ connection ∈ session.served?, itinerary.current = some connection
  /-- A welcome is sought where none was confirmed. -/
  courts : ∀ connection ∈ session.courted?, connection ∉ itinerary.welcomed
  distinct : itinerary.welcomed.Nodup
  /-- No loss is reported twice. -/
  once : (itinerary.lost ++ itinerary.current.toList).Nodup
  known : ∀ connection ∈ itinerary.lost ++ itinerary.current.toList,
    connection ∈ itinerary.welcomed
  read : ∀ connection ∈ itinerary.welcomed, connection ∈ session.readers.map Reader.connection
  /-- The loss of a connection is reported after its reader has ended. -/
  closed : ∀ connection ∈ itinerary.lost, session.exit? connection = some .closed
  /-- Every loss is that of a connection. -/
  losses : itinerary.losses = itinerary.lost.length

section Entering

variable {effects early late : List Effect} {itinerary : Itinerary}

theorem ofTrace_append :
    Itinerary.ofTrace (early ++ late) = (Itinerary.ofTrace early).advance late :=
  List.foldl_append

theorem advance_of_routine (hroutine : Routine effects) :
    itinerary.advance effects = itinerary := by
  induction effects generalizing itinerary with
  | nil => rfl
  | cons effect rest ih =>
      have henter : itinerary.enter effect = itinerary := by
        have hplain := hroutine effect List.mem_cons_self
        cases effect with
        | write connection message =>
            cases message with
            | notification notification => exact if_neg hplain
            | _ => rfl
        | consult event decision =>
            cases event with
            | closed => exact hplain.elim
            | fault chain body count => rfl
        | _ => rfl
      have hrest : itinerary.advance rest = itinerary :=
        ih fun other hmem => hroutine other (List.mem_cons_of_mem effect hmem)
      calc
        itinerary.advance (effect :: rest) = (itinerary.enter effect).advance rest := rfl
        _ = itinerary := by rw [henter, hrest]

/-- A welcome is confirmed by a notification of its own. -/
theorem advance_welcome {connection : ConnectionId} {effect : Effect} {lines : List LogLine}
    {session : Session} {around : Surroundings} (hwriter : session.writer = some connection)
    (hnotify : session.notify around "initialized" (.obj []) = .ok effect) :
    itinerary.advance (effect :: lines.map Effect.log) = itinerary.welcome connection := by
  obtain ⟨sent, hsent, rfl⟩ := send_eq_ok hnotify
  obtain rfl : sent = connection := Option.some.inj (hsent.symm.trans hwriter)
  calc
    itinerary.advance _ = (itinerary.welcome sent).advance (lines.map Effect.log) := rfl
    _ = itinerary.welcome sent := advance_of_routine (routine_logs lines)

end Entering

section Charting

variable {session after : Session} {around : Surroundings} {steward : Steward} {id : StewardId}
  {outcome : Session × List Effect} {move : Move} {itinerary : Itinerary}

theorem served?_of_single (hsingle : session.stewards = [steward]) :
    session.served? = steward.stage.served? session.reader := by
  rw [served?, stage?_of_single hsingle]
  rfl

theorem courted?_of_single (hsingle : session.stewards = [steward]) :
    session.courted? = steward.stage.courted? := by
  rw [courted?, stage?_of_single hsingle]
  rfl

theorem served?_of_none (hnone : session.stewards = []) : session.served? = none := by
  rw [served?, stage?, hnone]
  rfl

theorem courted?_of_none (hnone : session.stewards = []) : session.courted? = none := by
  rw [courted?, stage?, hnone]
  rfl

/-- Without a new welcome or loss. -/
theorem Charted.keep (hcharted : session.Charted itinerary) (hlasts : Lasts session after)
    (hserved : ∀ connection ∈ after.served?, connection ∈ session.served?)
    (hcourted : ∀ connection ∈ after.courted?, connection ∈ session.courted? ∨
      session.Unread connection) : after.Charted itinerary where
  serves connection hmem := hcharted.serves connection (hserved connection hmem)
  courts connection hmem := by
    rcases hcourted connection hmem with hold | hunread
    · exact hcharted.courts connection hold
    · exact fun hwelcomed => hunread (hcharted.read connection hwelcomed)
  distinct := hcharted.distinct
  once := hcharted.once
  known := hcharted.known
  read connection hmem := hlasts.connections connection (hcharted.read connection hmem)
  closed connection hmem := hlasts.exits connection .closed (hcharted.closed connection hmem)
  losses := hcharted.losses

/-- What is routine leaves the itinerary alone. -/
theorem Charted.routine {effects : List Effect} (hcharted : session.Charted itinerary)
    (hroutine : Routine effects) : session.Charted (itinerary.advance effects) := by
  rwa [advance_of_routine hroutine]

theorem Charted.keep_of_none (hcharted : session.Charted itinerary) (hlasts : Lasts session after)
    (hnone : after.stewards = []) : after.Charted itinerary := by
  apply hcharted.keep hlasts
  · simp [served?_of_none hnone]
  · simp [courted?_of_none hnone]

theorem Charted.keep_of_eq (hcharted : session.Charted itinerary) (hlasts : Lasts session after)
    (hstewards : after.stewards = session.stewards) (hreader : after.reader = session.reader) :
    after.Charted itinerary := by
  have hstage : after.stage? = session.stage? := by rw [stage?, hstewards, stage?]
  apply hcharted.keep hlasts
  · rw [served?, hstage, hreader]
    exact fun _ hmem => hmem
  · rw [courted?, hstage]
    exact fun _ hmem => .inl hmem

theorem Charted.keep_of_single {changed : Steward} (hcharted : session.Charted itinerary)
    (hlasts : Lasts session after) (hstewards : after.stewards = [changed])
    (hserved : ∀ connection ∈ changed.stage.served? after.reader, connection ∈ session.served?)
    (hcourted : ∀ connection ∈ changed.stage.courted?, connection ∈ session.courted? ∨
      session.Unread connection) : after.Charted itinerary := by
  apply hcharted.keep hlasts
  · rwa [served?_of_single hstewards]
  · rwa [courted?_of_single hstewards]

/-- The welcome is confirmed where it was sought. -/
theorem Charted.welcome {connection : ConnectionId} (hcharted : session.Charted itinerary)
    (hlasts : Lasts session after) (hcourted : session.courted? = some connection)
    (hread : connection ∈ session.readers.map Reader.connection)
    (hserves : after.served? = some connection) (hcourts : after.courted? = none) :
    after.Charted (itinerary.welcome connection) := by
  have hnew : connection ∉ itinerary.welcomed := hcharted.courts connection hcourted
  have hlost : connection ∉ itinerary.lost := fun hmem =>
    hnew (hcharted.known connection (List.mem_append_left _ hmem))
  refine ⟨?_, ?_, ?_, ?_, ?_, ?_, fun other hmem =>
    hlasts.exits other .closed (hcharted.closed other hmem), hcharted.losses⟩
  · intro other hmem
    rw [hserves] at hmem
    exact hmem
  · simp [hcourts]
  · exact List.nodup_append.mpr ⟨hcharted.distinct, List.nodup_singleton _, by
      intro other hother last hlast hequal
      rw [hequal, List.mem_singleton.mp hlast] at hother
      exact hnew hother⟩
  · refine List.nodup_append.mpr ⟨(List.nodup_append.mp hcharted.once).1,
      List.nodup_singleton _, ?_⟩
    intro other hother last hlast hequal
    rw [hequal, List.mem_singleton.mp hlast] at hother
    exact hlost hother
  · intro other hmem
    rcases List.mem_append.mp hmem with hold | hlast
    · exact List.mem_append_left _ (hcharted.known other (List.mem_append_left _ hold))
    · exact List.mem_append_right _ hlast
  · intro other hmem
    rcases List.mem_append.mp hmem with hold | hlast
    · exact hlasts.connections other (hcharted.read other hold)
    · rw [List.mem_singleton.mp hlast]
      exact hlasts.connections connection hread

/-- The loss is reported where it had to be. -/
theorem Charted.lose {connection : ConnectionId} (hcharted : session.Charted itinerary)
    (hlasts : Lasts session after) (hserved : session.served? = some connection)
    (hexit : session.exit? connection = some .closed) (hserves : after.served? = none)
    (hcourts : after.courted? = none) : after.Charted itinerary.lose := by
  have hcurrent : itinerary.current = some connection := hcharted.serves connection hserved
  have hlost : itinerary.lose.lost = itinerary.lost ++ itinerary.current.toList := rfl
  refine ⟨?_, ?_, hcharted.distinct, ?_, ?_, fun other hmem =>
    hlasts.connections other (hcharted.read other hmem), ?_, ?_⟩
  · simp [hserves]
  · simp [hcourts]
  · rw [hlost]
    exact (List.append_nil _).symm ▸ hcharted.once
  · intro other hmem
    rw [hlost] at hmem
    exact hcharted.known other ((List.append_nil (_ ++ _)) ▸ hmem)
  · intro other hmem
    rw [hlost, hcurrent] at hmem
    apply hlasts.exits
    rcases List.mem_append.mp hmem with hold | hlast
    · exact hcharted.closed other hold
    · rw [List.mem_singleton.mp hlast]
      exact hexit
  · rw [hlost, hcurrent, List.length_append, ← hcharted.losses]
    rfl

section Stages

variable {connection : ConnectionId}

theorem Charted.attach (hcharted : session.Charted itinerary)
    (hsingle : session.stewards = [steward])
    (hlasts : Lasts session (session.attach steward connection).1) :
    (session.attach steward connection).1.Charted
      (itinerary.advance (session.attach steward connection).2) := by
  apply Charted.routine _ (routine_hangUps _)
  apply hcharted.keep_of_single hlasts (stewards_attach hsingle _)
  · simp [Stage.served?]
  · simp [Stage.courted?]

/-- A steward seeks the welcome on a connection that has not been read from. -/
theorem Charted.listen (hcharted : session.Charted itinerary)
    (hsingle : session.stewards = [steward]) (hunread : session.Unread connection)
    (hlasts : Lasts session (session.listen steward connection).1) :
    (session.listen steward connection).1.Charted itinerary := by
  apply hcharted.keep_of_single hlasts (stewards_listen hsingle _)
  · simp [Stage.served?]
  · rintro other ⟨⟩
    exact .inr hunread

/-- A greeting that fails leaves no steward. -/
theorem Charted.failGreeting {next : Session} {failure : ClientError}
    (hcharted : session.Charted itinerary) (hsingle : next.stewards = [steward])
    (hlasts : Lasts session (next.failGreeting steward connection failure).1) :
    (next.failGreeting steward connection failure).1.Charted
      (itinerary.advance (next.failGreeting steward connection failure).2) := by
  apply Charted.routine _ (routine_failGreeting _ _ _)
  exact hcharted.keep_of_none hlasts (stewards_failGreeting hsingle _ _)

/-- A steward greets the server on the connection on which it seeks the welcome. -/
theorem Charted.greet {request : RequestId} {deadline : Nat} {params : Json} {effect : Effect}
    (hcharted : session.Charted itinerary) (hsingle : session.enrolled.stewards = [steward])
    (hcourted : session.courted? = some connection)
    (hsend : session.sendRequest around greetingMethod params = .ok effect)
    (hlasts : Lasts session (session.enrolled.setSteward { steward with
      stage := .greeting connection request deadline })) :
    (session.enrolled.setSteward { steward with
      stage := .greeting connection request deadline }).Charted (itinerary.advance [effect]) := by
  obtain ⟨sent, -, rfl⟩ := send_eq_ok hsend
  apply hcharted.keep_of_single hlasts (stewards_setSteward hsingle rfl)
  · simp [Stage.served?]
  · rintro other ⟨⟩
    exact .inl hcourted

/-- Who served a connection has to report its loss. -/
theorem Charted.concludeServing {exit : ReaderExit} (hcharted : session.Charted itinerary)
    (hsingle : session.stewards = [steward]) (hserved : session.served? = session.reader)
    (hlasts : Lasts session (session.concludeServing steward exit).1) :
    (session.concludeServing steward exit).1.Charted
      (itinerary.advance (session.concludeServing steward exit).2) := by
  apply Charted.routine _ (routine_hangUps _)
  apply hcharted.keep_of_single hlasts (stewards_concludeServing hsingle exit)
  · exact fun other hmem => hserved ▸ hmem
  · simp [Stage.courted?]

/-- The loss is reported by the turn after which nobody has to report it any more. -/
theorem Charted.lose_of_bereft (hcharted : session.Charted itinerary) (hcourse : session.Course)
    (hsingle : session.stewards = [steward]) (hstage : steward.stage = .bereft .closed)
    (hlasts : Lasts session after) (hserves : after.served? = none)
    (hcourts : after.courted? = none) : after.Charted itinerary.lose := by
  have hupkeep := hcourse.guided.upkeep_of_single hsingle
  rw [hstage] at hupkeep
  obtain ⟨-, connection, hreader, hexit⟩ := hupkeep
  have hserved : session.served? = some connection := by
    rw [served?_of_single hsingle, hstage]
    exact hreader
  exact hcharted.lose hlasts hserved hexit hserves hcourts

end Stages

theorem StewardTurn.charted (hturn : StewardTurn around session steward outcome)
    (hsingle : session.stewards = [steward]) (hcourse : session.Course)
    (hcharted : session.Charted itinerary) :
    outcome.1.Charted (itinerary.advance outcome.2) := by
  have hlasts := hturn.lasts
  have hupkeep := hcourse.guided.upkeep_of_single hsingle
  have hcourts := courted?_of_single hsingle
  have hserves := served?_of_single hsingle
  cases hturn with
  | attach => exact hcharted.attach hsingle hlasts
  | listen hstage =>
      rw [hstage] at hupkeep
      exact hcharted.listen hsingle hupkeep.2 hlasts
  | unfit => exact hcharted.failGreeting hsingle hlasts
  | unsent =>
      have hcounted : session.counted.stewards = [steward] := hsingle
      exact hcharted.failGreeting hcounted hlasts
  | greet hstage hprofile hsend =>
      rw [hstage] at hcourts
      have henrolled : session.enrolled.stewards = [steward] := hsingle
      exact hcharted.greet henrolled hcourts hsend hlasts
  | refused hstage hpoll =>
      exact hcharted.failGreeting ((poll_frame hpoll).2.trans hsingle) hlasts
  | @welcomed connection request deadline next answer welcome effect lines hstage hpoll hconfirm =>
      obtain ⟨-, hnotify⟩ := confirm_eq_ok hconfirm
      have hstewards := stewards_welcome hsingle hpoll connection
      obtain ⟨pending, settled, rfl, -⟩ := poll_eq hpoll
      rw [hstage] at hupkeep hcourts
      rw [advance_welcome hupkeep.1.writer hnotify]
      exact hcharted.welcome hlasts hcourts hupkeep.2.2 (served?_of_single hstewards)
        (courted?_of_single hstewards)
  | lose hstage =>
      rw [hstage] at hupkeep hserves
      exact hcharted.concludeServing hsingle (hserves.trans hupkeep.2.1.symm) hlasts
  | retire =>
      apply Charted.routine _ (routine_logs _)
      exact hcharted.keep_of_none hlasts (stewards_dropSteward hsingle)
  | resign hstage | exhaust hstage =>
      have hnone := stewards_dropSteward hsingle
      exact hcharted.lose_of_bereft hcourse hsingle hstage hlasts (served?_of_none hnone)
        (courted?_of_none hnone)
  | reconnect hstage =>
      have hstewards : (session.setSteward { steward with
          stage := .reconnecting, restarts := steward.restarts + 1 }).stewards =
          [{ steward with stage := .reconnecting, restarts := steward.restarts + 1 }] :=
        stewards_setSteward hsingle rfl
      exact hcharted.lose_of_bereft hcourse hsingle hstage hlasts (served?_of_single hstewards)
        (courted?_of_single hstewards)

theorem CallTurn.charted (hturn : CallTurn around session outcome) (hcourse : session.Course)
    (hcharted : session.Charted itinerary) : outcome.1.Charted itinerary := by
  have hlasts := hturn.lasts
  cases hturn with
  | started => exact hcharted.keep_of_eq hlasts rfl rfl
  | failed | orphaned =>
      exact hcharted.keep_of_none hlasts (Sole.abandonTasks_stewards hcourse.guided.sole)
  | refused hcall hpoll | agreed hcall hpoll =>
      exact hcharted.keep_of_none hlasts
        (Sole.abandonTasks_stewards (hcourse.guided.poll hpoll).guided.sole)

/-- Every move but another start keeps session and itinerary in agreement. -/
theorem Passage.charted (hpassage : Passage session move outcome) (hother : move ≠ .start)
    (hcourse : session.Course) (hcharted : session.Charted itinerary) :
    outcome.1.Charted (itinerary.advance outcome.2) := by
  have hlasts := hpassage.lasts
  cases hpassage with
  | start => exact absurd rfl hother
  | stopDead | stopUnsent =>
      refine Charted.routine ?_ (routine_concludeStop _)
      exact hcharted.keep_of_none hlasts (Sole.abandonTasks_stewards hcourse.guided.sole)
  | stop hidle halive hsend =>
      obtain ⟨sent, -, rfl⟩ := send_eq_ok hsend
      exact hcharted.keep_of_eq hlasts rfl rfl
  | abandon =>
      refine Charted.routine ?_ (routine_hangUps _)
      exact hcharted.keep_of_none hlasts (Sole.abandonTasks_stewards hcourse.guided.sole)
  | openDocument heffects => exact hcharted.routine (routine_openDocument heffects)
  | steward hsteward hturn =>
      exact hturn.charted (hcourse.guided.stewards_eq hsteward) hcourse hcharted
  | reader hreader hexit hconnection hturn =>
      refine Charted.routine ?_ hturn.routine
      obtain ⟨pending, settled, hafter, -⟩ := hturn.frame hexit
      apply hcharted.keep_of_eq hlasts
      · rw [hafter]
        rfl
      · rw [hafter]
        rfl
  | call hturn => exact (hturn.charted hcourse hcharted).routine hturn.routine
  | @supplyStart connection hcall hnew =>
      obtain ⟨hnone, -, -⟩ := hcourse.awaited hcall
      have hunread : session.Unread connection := unread_of_isNew hnew
      have hstewards : (session.supplyStart (.ok connection)).1.stewards =
          [⟨session.nextSteward, .connected connection, 0, false⟩] := by
        show session.stewards ++ [⟨session.nextSteward, .connected connection, 0, false⟩] = _
        rw [hnone]
        rfl
      refine Charted.routine ?_ routine_nil
      apply hcharted.keep_of_single hlasts hstewards <;> simp [Stage.served?, Stage.courted?]
  | refuseStart => exact hcharted.keep_of_eq hlasts rfl rfl
  | @resupply id steward connection hsteward hstage hnew =>
      have hstewards :
          (session.setSteward { steward with stage := .connected connection }).stewards =
            [{ steward with stage := .connected connection }] :=
        stewards_setSteward (hcourse.guided.stewards_eq hsteward) rfl
      refine Charted.routine ?_ routine_nil
      apply hcharted.keep_of_single hlasts hstewards <;> simp [Stage.served?, Stage.courted?]
  | @refuse id steward causes line hsteward hstage =>
      obtain ⟨-, rfl⟩ := steward?_eq_some hsteward
      exact hcharted.keep_of_none hlasts
        (stewards_dropSteward (hcourse.guided.stewards_eq hsteward))

end Charting

/-! Every loss is reported unless a stop comes in between. -/

section Reporting

/-- No stop has begun. -/
structure Unhalted (session : Session) : Prop where
  stopping : session.stopping = false
  call : ∀ request deadline, session.call ≠ .stopping request deadline

/-- A welcomed connection is reported lost, or it was the error handler that ended it, or its loss
is still to be reported. -/
def Reported (session : Session) (itinerary : Itinerary) : Prop :=
  ∀ connection ∈ itinerary.welcomed, connection ∈ itinerary.lost ∨
    session.exit? connection = some .aborted ∨ session.served? = some connection

variable {session after : Session} {around : Surroundings} {steward : Steward} {id : StewardId}
  {outcome : Session × List Effect} {move : Move} {itinerary : Itinerary}

/-- No move but a stop and the owner's forgetting ends the session. -/
def Move.IsEnd : Move → Prop
  | .stop _ | .abandon => True
  | _ => False

theorem Reported.keep (hreported : session.Reported itinerary) (hlasts : Lasts session after)
    (hserved : ∀ connection, session.served? = some connection →
      session.exit? connection = some .aborted ∨ after.served? = some connection) :
    after.Reported itinerary := by
  intro connection hmem
  rcases hreported connection hmem with hlost | haborted | hserves
  · exact .inl hlost
  · exact .inr (.inl (hlasts.exits connection .aborted haborted))
  · rcases hserved connection hserves with haborted | hstill
    · exact .inr (.inl (hlasts.exits connection .aborted haborted))
    · exact .inr (.inr hstill)

theorem Reported.keep_of_none (hreported : session.Reported itinerary)
    (hlasts : Lasts session after) (hnone : session.served? = none) :
    after.Reported itinerary :=
  hreported.keep hlasts fun connection hserved => absurd (hnone.symm.trans hserved) (by simp)

theorem Reported.keep_of_eq (hreported : session.Reported itinerary)
    (hlasts : Lasts session after) (hserved : after.served? = session.served?) :
    after.Reported itinerary :=
  hreported.keep hlasts fun _ hserves => .inr (hserved.trans hserves)

theorem Reported.routine {effects : List Effect} (hreported : session.Reported itinerary)
    (hroutine : Routine effects) : session.Reported (itinerary.advance effects) := by
  rwa [advance_of_routine hroutine]

/-- The loss that was still to be reported is the one that is reported. -/
theorem Reported.lose {connection : ConnectionId} (hreported : session.Reported itinerary)
    (hlasts : Lasts session after) (hcharted : session.Charted itinerary)
    (hserved : session.served? = some connection) : after.Reported itinerary.lose := by
  have hcurrent : itinerary.current = some connection := hcharted.serves connection hserved
  have hlost : itinerary.lose.lost = itinerary.lost ++ [connection] := by
    rw [Itinerary.lose, hcurrent]
    rfl
  intro other hmem
  rw [hlost]
  rcases hreported other hmem with hold | haborted | hserves
  · exact .inl (List.mem_append_left _ hold)
  · exact .inr (.inl (hlasts.exits other .aborted haborted))
  · rw [hserved] at hserves
    exact .inl (List.mem_append_right _ (List.mem_singleton.mpr (Option.some.inj hserves).symm))

theorem StewardTurn.reported (hturn : StewardTurn around session steward outcome)
    (hsingle : session.stewards = [steward]) (hcourse : session.Course)
    (hcharted : session.Charted itinerary) (hstopping : session.stopping = false)
    (hreported : session.Reported itinerary) :
    outcome.1.Reported (itinerary.advance outcome.2) := by
  have hlasts := hturn.lasts
  have hupkeep := hcourse.guided.upkeep_of_single hsingle
  have hserves := served?_of_single hsingle
  cases hturn with
  | attach hstage =>
      rw [hstage] at hserves
      exact (hreported.keep_of_none hlasts hserves).routine (routine_hangUps _)
  | listen hstage =>
      rw [hstage] at hserves
      exact hreported.keep_of_none hlasts hserves
  | unfit hstage | unsent hstage | refused hstage =>
      rw [hstage] at hserves
      exact (hreported.keep_of_none hlasts hserves).routine (routine_failGreeting _ _ _)
  | greet hstage hprofile hsend =>
      obtain ⟨sent, -, rfl⟩ := send_eq_ok hsend
      rw [hstage] at hserves
      exact hreported.keep_of_none hlasts hserves
  | @welcomed connection request deadline next answer welcome effect lines hstage hpoll hconfirm =>
      obtain ⟨-, hnotify⟩ := confirm_eq_ok hconfirm
      have hstewards := stewards_welcome hsingle hpoll connection
      obtain ⟨pending, settled, rfl, -⟩ := poll_eq hpoll
      rw [hstage] at hupkeep hserves
      rw [advance_welcome hupkeep.1.writer hnotify]
      intro other hmem
      rcases List.mem_append.mp hmem with hold | hlast
      · exact hreported.keep_of_none hlasts hserves other hold
      · rw [List.mem_singleton.mp hlast]
        exact .inr (.inr (served?_of_single hstewards))
  | @lose connection exit hstage hexit =>
      rw [hstage] at hupkeep hserves
      refine Reported.routine ?_ (routine_hangUps _)
      apply hreported.keep_of_eq hlasts
      calc
        (session.concludeServing steward exit).1.served? = session.reader :=
          served?_of_single (stewards_concludeServing hsingle exit)
        _ = some connection := hupkeep.2.1
        _ = session.served? := hserves.symm
  | @retire exit lines hstage hwhy =>
      rw [hstage] at hupkeep hserves
      obtain rfl : exit = .aborted := hwhy.resolve_left (by simp [hstopping])
      obtain ⟨-, connection, hreader, hexit⟩ := hupkeep
      refine Reported.routine ?_ (routine_logs _)
      apply hreported.keep hlasts
      intro other hserved
      obtain rfl : connection = other :=
        Option.some.inj (hreader.symm.trans (hserves.symm.trans hserved))
      exact .inl hexit
  | resign hstage | exhaust hstage | reconnect hstage =>
      rw [hstage] at hupkeep hserves
      obtain ⟨-, connection, hreader, -⟩ := hupkeep
      exact hreported.lose hlasts hcharted (hserves.trans hreader)

theorem CallTurn.reported (hturn : CallTurn around session outcome) (hcourse : session.Course)
    (hunhalted : session.Unhalted) (hreported : session.Reported itinerary) :
    outcome.1.Reported itinerary := by
  have hlasts := hturn.lasts
  cases hturn with
  | started => exact hreported.keep_of_eq hlasts rfl
  | failed hcall hready =>
      exact hreported.keep_of_none hlasts
        (served?_of_none (hcourse.ready _ _ (Ledger.mem_of_lookup hready)))
  | orphaned hcall hready hgone =>
      exact hreported.keep_of_none hlasts
        (served?_of_none (hcourse.leaderless_of_gone hcall hgone))
  | refused hcall | agreed hcall => exact absurd hcall (hunhalted.call _ _)

/-- As long as the session is not ended, every loss is reported or still to be reported. -/
theorem Passage.reported (hpassage : Passage session move outcome) (hother : move ≠ .start)
    (hend : ¬move.IsEnd) (hcourse : session.Course) (hcharted : session.Charted itinerary)
    (hunhalted : session.Unhalted) (hreported : session.Reported itinerary) :
    outcome.1.Reported (itinerary.advance outcome.2) := by
  have hlasts := hpassage.lasts
  cases hpassage with
  | start => exact absurd rfl hother
  | stopDead | stopUnsent | stop | abandon => exact absurd trivial hend
  | openDocument heffects => exact hreported.routine (routine_openDocument heffects)
  | steward hsteward hturn =>
      exact hturn.reported (hcourse.guided.stewards_eq hsteward) hcourse hcharted hunhalted.stopping
        hreported
  | reader hreader hexit hconnection hturn =>
      refine Reported.routine ?_ hturn.routine
      obtain ⟨pending, settled, hafter, -⟩ := hturn.frame hexit
      apply hreported.keep_of_eq hlasts
      rw [hafter]
      rfl
  | call hturn => exact (hturn.reported hcourse hunhalted hreported).routine hturn.routine
  | supplyStart hcall =>
      exact hreported.keep_of_none hlasts (served?_of_none (hcourse.awaited hcall).1)
  | refuseStart hcall =>
      exact hreported.keep_of_none hlasts (served?_of_none (hcourse.awaited hcall).1)
  | resupply hsteward hstage | refuse hsteward hstage =>
      have hserves := served?_of_single (hcourse.guided.stewards_eq hsteward)
      rw [hstage] at hserves
      exact hreported.keep_of_none hlasts hserves

theorem CallTurn.stopping (hturn : CallTurn around session outcome) :
    outcome.1.stopping = session.stopping := by
  cases hturn with
  | started => rfl
  | failed | orphaned =>
      rw [abandonTasks_eq]
      rfl
  | refused hcall hpoll | agreed hcall hpoll =>
      obtain ⟨pending, settled, rfl, -⟩ := poll_eq hpoll
      simp only [concludeStop, close, abandonTasks_eq]

/-- Only the beginning of a stop changes whether one has begun. -/
theorem Passage.stopping (hpassage : Passage session move outcome)
    (hother : ∀ around, move ≠ .stop around) : outcome.1.stopping = session.stopping := by
  cases hpassage with
  | stopDead | stopUnsent | stop => exact absurd rfl (hother _)
  | abandon => simp only [Session.abandon, close, abandonTasks_eq]
  | steward hsteward hturn => exact hturn.frame.2
  | reader hreader hexit hconnection hturn =>
      obtain ⟨pending, settled, hafter, -⟩ := hturn.frame hexit
      rw [hafter]
      rfl
  | call hturn => exact hturn.stopping
  | _ => rfl

theorem Passage.unhalted (hpassage : Passage session move outcome) (hend : ¬move.IsEnd)
    (hunhalted : session.Unhalted) : outcome.1.Unhalted := by
  have hother : ∀ around, move ≠ .stop around := fun _ hstop => hend (hstop ▸ trivial)
  refine ⟨(hpassage.stopping hother).trans hunhalted.stopping, ?_⟩
  cases hpassage with
  | stopDead | stopUnsent | stop => exact absurd rfl (hother _)
  | abandon => exact absurd trivial hend
  | steward hsteward hturn => exact hturn.frame.1 ▸ hunhalted.call
  | reader hreader hexit hconnection hturn =>
      obtain ⟨pending, settled, hafter, -⟩ := hturn.frame hexit
      rw [hafter]
      exact hunhalted.call
  | call hturn =>
      cases hturn with
      | started => simp
      | failed | orphaned => simp [failStart]
      | refused hcall | agreed hcall => exact absurd hcall (hunhalted.call _ _)
  | start => simp [beginStart]
  | supplyStart => simp [Session.supplyStart]
  | refuseStart => simp
  | _ => exact hunhalted.call

end Reporting

end NplLifecycle.Session
