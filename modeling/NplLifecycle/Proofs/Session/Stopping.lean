import NplLifecycle.Proofs.Session.Courtesy
import NplLifecycle.Proofs.Session.Reconnection

/-!
# What a stop leaves behind

In whatever state a session is when its owner stops it, and whatever the server does meanwhile: when
the stop returns, the session is not alive and holds nothing, and neither during the stop nor later
is a loss reported or a connection asked for, unless the owner starts the client again.  A stop ends
with an error exactly if the session was alive and its request to shut down, or the farewell after
it, came to nothing.  Where no start began beside a steward, nothing at all is left of the session,
and all that it still says is that a further stop went well.
-/

namespace NplLifecycle.Session

/-- Why a stop that waits for the server ends with an error. -/
inductive Fault (session : Session) (around : Surroundings) (id : RequestId) (deadline : Nat) :
    ClientError → Prop
  /-- The server does not agree. -/
  | refused {response : Response} {refusal : Refusal}
      (hsettled : session.settled.lookup id = some (some response))
      (hrefusal : response.refusal = some refusal) :
      Fault session around id deadline (.server refusal.code refusal.message)
  /-- The connection was closed before a response came. -/
  | closed (hsettled : session.settled.lookup id = some none) :
      Fault session around id deadline .connectionClosed
  | overdue (hsettled : session.settled.lookup id = none) (htime : deadline ≤ around.now) :
      Fault session around id deadline (.requestTimeout shutdownMethod (shutdownTimeout * 1000))
  /-- The server agrees, and then the farewell cannot be written. -/
  | unwritten {response : Response} {failure : ClientError}
      (hsettled : session.settled.lookup id = some (some response))
      (hagreed : response.refusal = none)
      (hsend : session.notify around "exit" .null = .error failure) :
      Fault session around id deadline failure

/-- A stop that begins in a session and ends with the last of the moves after it: then, and not
before, its owner is told the result. -/
structure Returns (begun : Session) (around : Surroundings) (waited : List Move)
    (result : Except ClientError Unit) (after : Session) (trace : List Effect) : Prop where
  run : Run.follow next? begun (.stop around :: waited) = some (after, trace)
  told : .stopped result ∈ trace
  first : ∀ front middle early, front <+: waited → front ≠ waited →
    Run.follow next? begun (.stop around :: front) = some (middle, early) →
      ∀ effect ∈ early, effect.isVerdict = false

/-- The turn in which a stop that had to wait returns finds the session so. -/
def Finds (begun : Session) (around : Surroundings) (waited : List Move) (later : Surroundings)
    (middle : Session) : Prop :=
  ∃ front early, waited = front ++ [.task later .call] ∧
    Run.follow next? begun (.stop around :: front) = some (middle, early)

/-- What is true of a session when its stop returns, and from then on. -/
structure Stopped (profile : ClientProfile) (moves : List Move) (begun : Session)
    (around : Surroundings) (waited : List Move) (result : Except ClientError Unit)
    (after : Session) (trace : List Effect) : Prop where
  alive : after.alive = false
  writer : after.writer = none
  pending : after.pending = []
  steward : after.steward = none
  /-- The stop does not outlast the first turn of its owner's call after its time is up. -/
  timely : ∀ front later rest, waited = front ++ .task later .call :: rest →
    around.now + shutdownTimeout ≤ later.now → rest = []
  /-- While the stop lasts no loss is reported and no connection is asked for. -/
  quiet : ∀ effect ∈ trace, effect.IsQuiet
  /-- Nor is that so later, until the owner starts the client again. -/
  still : ∀ later final more, .start ∉ later → Run.follow next? after later = some (final, more) →
    ∀ effect ∈ more, effect.IsQuiet
  /-- The stop fails exactly if the session was alive and the request to shut down could not be
  written or came to nothing, or the farewell did. -/
  failed : ∀ failure, result = .error failure ↔ begun.alive = true ∧
    (begun.sendRequest around shutdownMethod .null = .error failure ∨
      ∃ later middle, Finds begun around waited later middle ∧
        middle.Fault later (.number begun.nextRequest) (around.now + shutdownTimeout) failure)
  /-- A second stop sends nothing and succeeds. -/
  again : ∀ other, ∃ final, after.next? (.stop other) = some (final, [.stopped (.ok ())])
  /-- If no start began beside a steward, then nothing is left of the session, and all that happens
  until the owner starts the client again is that further stops succeed. -/
  alone : Run.tally next? overlaps (fresh profile) moves = 0 → after.Over ∧
    ∀ later final more, .start ∉ later → Run.follow next? after later = some (final, more) →
      final.Over ∧ ∀ effect ∈ more, effect = .stopped (.ok ())

section Faults

variable {session next : Session} {around : Surroundings} {id : RequestId} {deadline : Nat}
  {answer : Except ClientError Response} {failure : ClientError}

theorem takeLeave_of_refusal {response : Response} {refusal : Refusal}
    (hrefusal : response.refusal = some refusal) :
    session.takeLeave around (.ok response) =
      .error (.server refusal.code refusal.message) := by
  simp [takeLeave, Except.bind, resultOf, hrefusal]

theorem takeLeave_of_agreed {response : Response} (hagreed : response.refusal = none) :
    session.takeLeave around (.ok response) = session.notify around "exit" .null := by
  simp [takeLeave, Except.bind, resultOf, hagreed]

/-- What a stop makes of the answer that it finds. -/
theorem fault_iff (hpoll : session.poll around shutdownMethod id deadline shutdownTimeout =
      some (next, answer)) :
    Fault session around id deadline failure ↔ next.takeLeave around answer = .error failure := by
  rcases poll_cases hpoll with ⟨found, hlookup, rfl, rfl⟩ | ⟨hlookup, htime, rfl, rfl⟩
  · have hfound {other : Option Response} (hother : session.settled.lookup id = some other) :
        found = other := Option.some.inj (hlookup.symm.trans hother)
    constructor
    · intro hfault
      cases hfault with
      | refused hsettled hrefusal =>
          rw [hfound hsettled]
          exact takeLeave_of_refusal hrefusal
      | closed hsettled =>
          rw [hfound hsettled]
          rfl
      | overdue hsettled => exact absurd (hlookup.symm.trans hsettled) (by simp)
      | unwritten hsettled hagreed hsend =>
          rw [hfound hsettled]
          exact (takeLeave_of_agreed hagreed).trans hsend
    · intro hleave
      cases found with
      | none =>
          rw [← Except.error.inj hleave]
          exact .closed hlookup
      | some response =>
          cases hrefusal : response.refusal with
          | some refusal =>
              rw [← Except.error.inj ((takeLeave_of_refusal hrefusal).symm.trans hleave)]
              exact .refused hlookup hrefusal
          | none =>
              exact .unwritten hlookup hrefusal ((takeLeave_of_agreed hrefusal).symm.trans hleave)
  · constructor
    · intro hfault
      cases hfault with
      | overdue => rfl
      | refused hsettled | closed hsettled | unwritten hsettled =>
          exact absurd (hlookup.symm.trans hsettled) (by simp)
    · intro hleave
      rw [← Except.error.inj hleave]
      exact .overdue hlookup htime

theorem stopped_of_concludeStop {result verdict : Except ClientError Unit}
    (hmem : .stopped result ∈ (session.concludeStop verdict).2) : result = verdict := by
  rcases List.mem_append.mp hmem with hclose | hlast
  · obtain ⟨connection, -, hhangUp⟩ := Option.map_eq_some_iff.mp (Option.mem_toList.mp hclose)
    exact absurd hhangUp (by simp)
  · exact Effect.stopped.inj (List.mem_singleton.mp hlast)

/-- The result of a stop that waited is what became of the leave that it took. -/
theorem stopped_of_concludeShutdown {result : Except ClientError Unit}
    (hmem : .stopped result ∈ (session.concludeShutdown around answer).2) :
    result = (session.takeLeave around answer).map fun _ => () := by
  cases hleave : session.takeLeave around answer with
  | error failure =>
      rw [concludeShutdown_of_error hleave] at hmem
      exact stopped_of_concludeStop hmem
  | ok effect =>
      rw [concludeShutdown_of_ok hleave] at hmem
      obtain ⟨-, -, hnotify⟩ := takeLeave_eq_ok hleave
      obtain ⟨connection, -, rfl⟩ := send_eq_ok hnotify
      rcases List.mem_cons.mp hmem with hwrite | hstopped
      · exact absurd hwrite (by simp)
      · exact stopped_of_concludeStop hstopped

end Faults

section Waiting

variable {session begun middle after : Session} {around : Surroundings} {move : Move}
  {front waited : List Move} {early trace : List Effect} {outcome : Session × List Effect}
  {result : Except ClientError Unit} {id : RequestId} {deadline : Nat}

theorem stopped_mem_concludeStop (result : Except ClientError Unit) :
    .stopped result ∈ (session.concludeStop result).2 :=
  List.mem_append_right _ (List.mem_singleton_self _)

/-- A stop that waited leaves the session like any other stop, and says how it went. -/
theorem exists_concludeStop (answer : Except ClientError Response) :
    ∃ verdict, (session.concludeShutdown around answer).1 = (session.concludeStop verdict).1 ∧
      .stopped verdict ∈ (session.concludeShutdown around answer).2 := by
  cases hleave : session.takeLeave around answer with
  | error failure =>
      rw [concludeShutdown_of_error hleave]
      exact ⟨_, rfl, stopped_mem_concludeStop _⟩
  | ok effect =>
      rw [concludeShutdown_of_ok hleave]
      exact ⟨_, rfl, List.mem_cons_of_mem _ (stopped_mem_concludeStop _)⟩

/-- While a stop waits, its owner is told nothing, until the turn in which the stop returns. -/
theorem waits_or_returns (hnext : session.next? move = some outcome)
    (hcall : session.call = .stopping id deadline) :
    (outcome.1.call = session.call ∧ ∀ effect ∈ outcome.2, effect.isVerdict = false) ∨
      ∃ later next answer, move = .task later .call ∧
        session.poll later shutdownMethod id deadline shutdownTimeout = some (next, answer) ∧
        outcome = next.concludeShutdown later answer := by
  cases next?_passage hnext with
  | start hidle | stopDead hidle | stopUnsent hidle | stop hidle =>
      exact absurd (hcall.symm.trans hidle) (by simp)
  | supplyStart hconnecting | refuseStart hconnecting =>
      exact absurd (hcall.symm.trans hconnecting) (by simp)
  | abandon =>
      refine .inl ⟨abandonTasks_call session, fun effect hmem => ?_⟩
      exact (Works.close.effects effect hmem).1
  | openDocument heffects =>
      refine .inl ⟨rfl, fun effect hmem => ?_⟩
      obtain ⟨connection, params, rfl⟩ := heffects effect hmem
      rfl
  | steward =>
      have hworks := (works_stepSteward hnext).1
      exact .inl ⟨hworks.tame.call, fun effect hmem => (hworks.effects effect hmem).1⟩
  | reader =>
      have hworks := works_stepReader hnext
      exact .inl ⟨hworks.tame.call, fun effect hmem => (hworks.effects effect hmem).1⟩
  | @call later outcome hturn =>
      right
      cases hturn with
      | started hstarting | failed hstarting | orphaned hstarting =>
          exact absurd (hcall.symm.trans hstarting) (by simp)
      | refused hstopping hpoll hleave =>
          obtain ⟨rfl, rfl⟩ := Call.stopping.inj (hcall.symm.trans hstopping)
          exact ⟨later, _, _, rfl, hpoll, (concludeShutdown_of_error hleave).symm⟩
      | agreed hstopping hpoll hleave =>
          obtain ⟨rfl, rfl⟩ := Call.stopping.inj (hcall.symm.trans hstopping)
          exact ⟨later, _, _, rfl, hpoll, (concludeShutdown_of_ok hleave).symm⟩
  | resupply => exact .inl ⟨rfl, fun effect hmem => absurd hmem List.not_mem_nil⟩
  | refuse =>
      refine .inl ⟨rfl, fun effect hmem => ?_⟩
      rw [List.mem_singleton.mp hmem]
      rfl

theorem overlaps_eq_false (hother : move ≠ .start) : session.overlaps move = false := by
  cases move with
  | start => exact absurd rfl hother
  | _ => rfl

/-- A stop that has told its owner nothing yet has sent the request to shut down and waits. -/
theorem lingers_of_run
    (hrun : Run.follow next? begun (.stop around :: front) = some (middle, early))
    (hsilent : ∀ effect ∈ early, effect.isVerdict = false) :
    (begun.alive = true ∧ ∃ effect, begun.sendRequest around shutdownMethod .null = .ok effect) ∧
      middle.call = .stopping (.number begun.nextRequest) (around.now + shutdownTimeout) ∧
      (begun.Tenure → middle.Tenure) := by
  obtain ⟨first, effects, more, hfirst, hrest, rfl⟩ := Run.follow_cons_eq_some.mp hrun
  obtain ⟨hearly, hlate⟩ := List.forall_mem_append.mp hsilent
  have htenure (hbegun : begun.Tenure) : first.Tenure :=
    (next?_passage hfirst).tenure hbegun rfl
  cases next?_passage hfirst with
  | stopDead | stopUnsent =>
      exact absurd (hearly _ (stopped_mem_concludeStop _)) (by simp [Effect.isVerdict])
  | stop hidle halive hsend =>
      refine ⟨⟨halive, _, hsend⟩, ?_⟩
      refine Run.follow_induction (fun session past =>
        (∀ effect ∈ past, effect.isVerdict = false) →
          session.call = .stopping (.number begun.nextRequest) (around.now + shutdownTimeout) ∧
            (begun.Tenure → session.Tenure)) ?_ ?_ hrest hlate
      · exact fun _ => ⟨rfl, htenure⟩
      · intro before past move after effects _ hbefore hmove hsilent
        obtain ⟨hpast, hnow⟩ := List.forall_mem_append.mp hsilent
        obtain ⟨hcall, hkept⟩ := hbefore hpast
        rcases waits_or_returns hmove hcall with
          ⟨hsame, -⟩ | ⟨later, next, answer, -, -, hconcluded⟩
        · refine ⟨hsame.trans hcall, fun hbegun => ?_⟩
          refine (next?_passage hmove).tenure (hkept hbegun) (overlaps_eq_false ?_)
          rintro rfl
          have hidle := (Option.ite_none_right_eq_some.mp hmove).1
          exact absurd (hcall.symm.trans hidle) (by simp)
        · obtain ⟨verdict, -, htold⟩ := @exists_concludeStop next later answer
          rw [← hconcluded] at htold
          exact absurd (hnow _ htold) (by simp [Effect.isVerdict])

/-- How a stop comes to its end: at once, because the session is not alive or the request to shut
down cannot be written, or in the owner's turn that finds the request settled or overdue. -/
inductive Farewell (begun : Session) (around : Surroundings) (waited : List Move)
    (result : Except ClientError Unit) (after : Session) : Prop
  | dead (hwaited : waited = []) (hdead : begun.alive = false) (hresult : result = .ok ())
      (hafter : after = (begun.halting.concludeStop (.ok ())).1)
  | unsent {failure : ClientError} (hwaited : waited = []) (halive : begun.alive = true)
      (hsend : begun.sendRequest around shutdownMethod .null = .error failure)
      (hresult : result = .error failure)
      (hafter : after = (begun.halting.counted.concludeStop (.error failure)).1)
  | sent {effect : Effect} {later : Surroundings} {middle next : Session}
      {answer : Except ClientError Response} (halive : begun.alive = true)
      (hsend : begun.sendRequest around shutdownMethod .null = .ok effect)
      (hfinds : Finds begun around waited later middle) (htenure : begun.Tenure → middle.Tenure)
      (hpoll : middle.poll later shutdownMethod (.number begun.nextRequest)
        (around.now + shutdownTimeout) shutdownTimeout = some (next, answer))
      (hresult : result = (next.takeLeave later answer).map fun _ => ())
      (hafter : after = (next.concludeShutdown later answer).1)

theorem Passage.farewell (hpassage : Passage begun (.stop around) outcome)
    (htold : .stopped result ∈ outcome.2) : Farewell begun around [] result outcome.1 := by
  cases hpassage with
  | stopDead hidle hdead => exact .dead rfl hdead (stopped_of_concludeStop htold) rfl
  | stopUnsent hidle halive hsend =>
      exact .unsent rfl halive hsend (stopped_of_concludeStop htold) rfl
  | stop hidle halive hsend =>
      obtain ⟨connection, -, rfl⟩ := send_eq_ok hsend
      exact absurd (List.mem_singleton.mp htold) (by simp)

theorem Returns.farewell (hreturns : Returns begun around waited result after trace) :
    Farewell begun around waited result after := by
  rcases List.eq_nil_or_concat waited with rfl | ⟨front, move, rfl⟩
  · obtain ⟨first, effects, more, hfirst, hrest, htrace⟩ := Run.follow_cons_eq_some.mp hreturns.run
    obtain ⟨rfl, rfl⟩ := Prod.mk.inj (Option.some.inj hrest)
    have htold := hreturns.told
    rw [htrace, List.append_nil] at htold
    exact (next?_passage hfirst).farewell htold
  · rw [List.concat_eq_append] at hreturns ⊢
    have hrun := hreturns.run
    rw [← List.cons_append] at hrun
    obtain ⟨middle, early, late, hfront, hlast, rfl⟩ := Run.follow_append_eq_some.mp hrun
    have hsilent := hreturns.first front middle early (List.prefix_append _ _) (by simp) hfront
    obtain ⟨⟨halive, effect, hsend⟩, hcall, htenure⟩ := lingers_of_run hfront hsilent
    obtain ⟨final, effects, more, hmove, hnone, rfl⟩ := Run.follow_cons_eq_some.mp hlast
    obtain ⟨rfl, rfl⟩ := Prod.mk.inj (Option.some.inj hnone)
    have htold : .stopped result ∈ effects := by
      have htold := hreturns.told
      rw [List.append_nil] at htold
      refine (List.mem_append.mp htold).resolve_left fun hmem => ?_
      exact absurd (hsilent _ hmem) (by simp [Effect.isVerdict])
    rcases waits_or_returns hmove hcall with
      ⟨-, hnothing⟩ | ⟨later, next, answer, rfl, hpoll, hdone⟩
    · exact absurd (hnothing _ htold) (by simp [Effect.isVerdict])
    · obtain ⟨rfl, rfl⟩ := Prod.mk.inj hdone
      exact .sent halive hsend ⟨front, early, rfl, hfront⟩ htenure hpoll
        (stopped_of_concludeShutdown htold) rfl

/-- A stop returns with the first turn of its owner's call that tells the owner something. -/
theorem returns_of_silent {late : List Effect}
    (hfront : Run.follow next? begun (.stop around :: front) = some (middle, early))
    (hsilent : ∀ effect ∈ early, effect.isVerdict = false)
    (hnext : middle.next? move = some (after, late)) (htold : .stopped result ∈ late) :
    Returns begun around (front ++ [move]) result after (early ++ late) where
  run := by
    rw [← List.cons_append]
    exact Run.follow_append_eq_some.mpr
      ⟨middle, early, late, hfront, Run.follow_singleton hnext, rfl⟩
  told := List.mem_append_right _ htold
  first := by
    intro part found before hpart hproper hrun effect hmem
    obtain ⟨rest, rfl⟩ := (List.prefix_concat_iff.mp hpart).resolve_left hproper
    rw [← List.cons_append] at hfront
    obtain ⟨reached, sooner, more, hsooner, -, rfl⟩ := Run.follow_append_eq_some.mp hfront
    obtain ⟨-, rfl⟩ := Prod.mk.inj (Option.some.inj (hrun.symm.trans hsooner))
    exact hsilent effect (List.mem_append_left _ hmem)

/-- A stop does not wait for ever: it returns in every turn of its owner's call once its time is
up. -/
theorem returns_of_due {later : Surroundings}
    (hfront : Run.follow next? begun (.stop around :: front) = some (middle, early))
    (hsilent : ∀ effect ∈ early, effect.isVerdict = false)
    (htime : around.now + shutdownTimeout ≤ later.now) : ∃ result after late,
      Returns begun around (front ++ [.task later .call]) result after (early ++ late) := by
  obtain ⟨-, hcall, -⟩ := lingers_of_run hfront hsilent
  obtain ⟨answered, hpoll⟩ : ∃ answered, middle.poll later shutdownMethod
      (.number begun.nextRequest) (around.now + shutdownTimeout) shutdownTimeout =
        some answered := by
    simp only [poll, if_pos htime]
    split
    · exact ⟨_, rfl⟩
    · exact ⟨_, rfl⟩
    · exact ⟨_, rfl⟩
  have hnext : middle.next? (.task later .call) =
      some (answered.1.concludeShutdown later answered.2) := by
    show middle.stepCall later = _
    simp only [stepCall, hcall, hpoll, Option.map_some]
  obtain ⟨verdict, -, htold⟩ := @exists_concludeStop answered.1 later answered.2
  exact ⟨verdict, _, _, returns_of_silent hfront hsilent hnext htold⟩

end Waiting

section Returning

variable {session begun middle found after : Session} {around later other : Surroundings}
  {waited : List Move} {trace : List Effect} {result : Except ClientError Unit}

/-- No start begins while a stop lasts. -/
theorem Returns.start_not_mem (hreturns : Returns begun around waited result after trace) :
    .start ∉ waited := by
  intro hmem
  obtain ⟨front, back, rfl⟩ := List.append_of_mem hmem
  have hrun := hreturns.run
  rw [← List.cons_append] at hrun
  obtain ⟨middle, early, late, hfront, hback, -⟩ := Run.follow_append_eq_some.mp hrun
  have hsilent := hreturns.first front middle early (List.prefix_append _ _) (by simp) hfront
  obtain ⟨-, hcall, -⟩ := lingers_of_run hfront hsilent
  obtain ⟨next, effects, more, hstart, -⟩ := Run.follow_cons_eq_some.mp hback
  have hidle := (Option.ite_none_right_eq_some.mp hstart).1
  exact absurd (hcall.symm.trans hidle) (by simp)

/-- A stop that returns has done so with the first turn of its owner's call after its time is up. -/
theorem Returns.timely (hreturns : Returns begun around waited result after trace)
    {front rest : List Move} (hwaited : waited = front ++ .task later .call :: rest)
    (htime : around.now + shutdownTimeout ≤ later.now) : rest = [] := by
  by_contra hlonger
  have hrun := hreturns.run
  rw [hwaited, ← List.cons_append] at hrun
  obtain ⟨middle, early, late, hfront, -⟩ := Run.follow_append_eq_some.mp hrun
  have hsilent := hreturns.first front middle early (hwaited ▸ List.prefix_append _ _)
    (by simp [hwaited]) hfront
  -- Its owner is told the result in that turn, so no move comes after it.
  obtain ⟨verdict, found, final, hdue⟩ := returns_of_due hfront hsilent htime
  have hpart : front ++ [.task later .call] <+: waited := ⟨rest, by simp [hwaited]⟩
  have hverdict := hreturns.first _ found _ hpart (by simpa [hwaited] using Ne.symm hlonger)
    hdue.run _ hdue.told
  exact absurd hverdict (by simp [Effect.isVerdict])

theorem Finds.unique (hfinds : Finds begun around waited later middle)
    (hother : Finds begun around waited other found) : later = other ∧ middle = found := by
  obtain ⟨front, early, hwaited, hrun⟩ := hfinds
  obtain ⟨front', early', hwaited', hrun'⟩ := hother
  obtain ⟨rfl, hlast⟩ := List.append_inj' (hwaited.symm.trans hwaited') rfl
  have hsame := Option.some.inj (hrun.symm.trans hrun')
  simp only [List.cons.injEq, Move.task.injEq, and_true] at hlast
  exact ⟨hlast, (Prod.mk.inj hsame).1⟩

/-- A stop that returns has ended whatever worked on the session. -/
theorem Farewell.concluded (hfarewell : Farewell begun around waited result after) :
    ∃ last verdict, after = (concludeStop last verdict).1 ∧
      (begun.Tenure → last.Sole ∧ last.Led) := by
  cases hfarewell with
  | dead _ _ _ hafter =>
      exact ⟨_, _, hafter, fun hbegun => ⟨hbegun.sole, hbegun.upkeep.led⟩⟩
  | unsent _ _ _ _ hafter =>
      exact ⟨_, _, hafter, fun hbegun => ⟨hbegun.sole, hbegun.upkeep.led⟩⟩
  | @sent _ later _ next answer _ _ _ htenure hpoll _ hafter =>
      obtain ⟨verdict, hconcluded, -⟩ := @exists_concludeStop next later answer
      refine ⟨next, verdict, hafter.trans hconcluded, fun hbegun => ?_⟩
      have hmiddle := htenure hbegun
      exact ⟨(tame_poll hpoll).sole hmiddle.sole, (fewer_poll hpoll).led hmiddle.upkeep.led⟩

theorem Farewell.failed_iff (hfarewell : Farewell begun around waited result after)
    (failure : ClientError) : result = .error failure ↔ begun.alive = true ∧
      (begun.sendRequest around shutdownMethod .null = .error failure ∨
        ∃ later middle, Finds begun around waited later middle ∧
          middle.Fault later (.number begun.nextRequest) (around.now + shutdownTimeout)
            failure) := by
  cases hfarewell with
  | dead _ hdead hresult =>
      rw [hresult, hdead]
      simp
  | unsent hwaited halive hsend hresult =>
      rw [hresult, hsend]
      constructor
      · intro hsame
        exact ⟨halive, .inl (congrArg Except.error (Except.error.inj hsame))⟩
      · rintro ⟨-, hsame | ⟨later, middle, ⟨front, early, hsome, -⟩, -⟩⟩
        · exact congrArg Except.error (Except.error.inj hsame)
        · exact absurd (hwaited.symm.trans hsome) (by simp)
  | @sent effect later middle next answer halive hsend hfinds _ hpoll hresult =>
      constructor
      · intro hfailed
        refine ⟨halive, .inr ⟨later, middle, hfinds, (fault_iff hpoll).mpr ?_⟩⟩
        rw [hresult] at hfailed
        cases hleave : next.takeLeave later answer with
        | ok effect =>
            rw [hleave] at hfailed
            exact absurd hfailed (by simp [Except.map])
        | error refusal =>
            rw [hleave] at hfailed
            exact congrArg Except.error (Except.error.inj hfailed)
      · rintro ⟨-, hunsent | ⟨other, found, hfound, hfault⟩⟩
        · exact absurd (hsend.symm.trans hunsent) (by simp)
        · obtain ⟨rfl, rfl⟩ := hfinds.unique hfound
          rw [hresult, (fault_iff hpoll).mp hfault]
          rfl

end Returning

section Runs

variable {profile : ClientProfile} {session last begun after : Session} {around : Surroundings}
  {moves waited : List Move} {past trace : List Effect} {result : Except ClientError Unit}
  {move : Move} {outcome : Session × List Effect}

/-- Once a stop has begun, no loss is reported and no connection is asked for, until the owner
starts the client again. -/
theorem quiet_of_stopping (hstopping : session.stopping = true) (hother : .start ∉ moves)
    (hrun : Run.follow next? session moves = some (last, trace)) :
    last.stopping = true ∧ ∀ effect ∈ trace, effect.IsQuiet := by
  refine Run.follow_induction (fun session past =>
    session.stopping = true ∧ ∀ effect ∈ past, effect.IsQuiet) ?_ ?_ hrun
  · exact ⟨hstopping, fun _ hmem => absurd hmem List.not_mem_nil⟩
  · rintro before past move after effects hmem ⟨hbefore, hpast⟩ hmove
    have hpassage := next?_passage hmove
    refine ⟨?_, List.forall_mem_append.mpr ⟨hpast, ?_⟩⟩
    · by_cases hstop : ∃ around, move = .stop around
      · obtain ⟨around, rfl⟩ := hstop
        exact hpassage.halting
      · rw [hpassage.stopping fun around hsame => hstop ⟨around, hsame⟩]
        exact hbefore
    · refine (hpassage.quiet fun hsame => hother (hsame ▸ hmem)).resolve_right ?_
      rintro ⟨around, steward, -, -, -, -, hrunning⟩
      exact absurd (hbefore.symm.trans hrunning) (by simp)

/-- A session that has nothing to send on is left without a word but that of the result. -/
theorem concludeStop_effects (hwriter : session.writer = none) :
    (session.concludeStop result).2 = [.stopped result] := by
  have hnone : session.abandonTasks.writer = none := by
    rw [abandonTasks_eq]
    exact hwriter
  simp [concludeStop, close, hnone]

/-- Whatever happens to a session that is over, but for another start, nothing is left of it, and
its owner is told at most that a stop went well. -/
theorem Over.next? (hover : session.Over) (hother : move ≠ .start)
    (hnext : session.next? move = some outcome) :
    outcome.1.Over ∧ ∀ effect ∈ outcome.2, effect = .stopped (.ok ()) := by
  have hsole : session.Sole := sole_of_nil hover.stewards
  have hidle {outcome : Session × List Effect} (hevolves : Evolves session outcome) :
      outcome.1.Over ∧ ∀ effect ∈ outcome.2, effect = .stopped (.ok ()) := by
    obtain ⟨hafter, hnone⟩ := hevolves.over hover
    rw [hnone]
    exact ⟨hafter, fun _ hmem => absurd hmem List.not_mem_nil⟩
  cases move with
  | start => exact absurd rfl hother
  | stop around =>
      obtain ⟨-, hbegins⟩ := Option.ite_none_right_eq_some.mp hnext
      rw [← Option.some.inj hbegins, beginStop_of_dead hover.alive]
      have hhalting : session.halting.Sole ∧ session.halting.Led := ⟨hsole, hover.led⟩
      have hwriter : session.halting.writer = none := hover.writer
      refine ⟨over_concludeStop hhalting.1 hhalting.2 _, fun effect hmem => ?_⟩
      rw [concludeStop_effects hwriter] at hmem
      exact List.mem_singleton.mp hmem
  | abandon =>
      rw [← Option.some.inj hnext]
      refine ⟨over_abandon hsole hover.led hover.call, fun effect hmem => ?_⟩
      have hnone : session.abandonTasks.writer = none := by
        rw [abandonTasks_eq]
        exact hover.writer
      simp [abandon, close, hnone] at hmem
  | openDocument around address language text =>
      obtain ⟨hsame, hnone | ⟨connection, params, hwriter, -⟩⟩ := next?_openDocument hnext
      · rw [hsame, hnone]
        exact ⟨hover, fun _ hmem => absurd hmem List.not_mem_nil⟩
      · exact absurd (hwriter.symm.trans hover.writer) (by simp)
  | task around task => exact hidle (.inl ⟨around, task, hnext⟩)
  | supply asker connection =>
      obtain ⟨htakes, hsupply⟩ := Option.ite_none_right_eq_some.mp hnext
      exact hidle (.inr ⟨asker, connection, htakes.1, Option.some.inj hsupply⟩)

theorem Over.run (hover : session.Over) (hother : .start ∉ moves)
    (hrun : Run.follow Session.next? session moves = some (last, trace)) :
    last.Over ∧ ∀ effect ∈ trace, effect = .stopped (.ok ()) := by
  refine Run.follow_induction (fun session past =>
    session.Over ∧ ∀ effect ∈ past, effect = .stopped (.ok ())) ?_ ?_ hrun
  · exact ⟨hover, fun _ hmem => absurd hmem List.not_mem_nil⟩
  · rintro before past move after effects hmem ⟨hbefore, hpast⟩ hmove
    obtain ⟨hafter, heffects⟩ := hbefore.next? (fun hsame => hother (hsame ▸ hmem)) hmove
    exact ⟨hafter, List.forall_mem_append.mpr ⟨hpast, heffects⟩⟩

theorem tenure_of_run (hrun : Run.follow next? (fresh profile) moves = some (last, trace))
    (hseparate : Run.tally next? overlaps (fresh profile) moves = 0) : last.Tenure := by
  refine Run.follow_without_induction (fun session _ => Tenure session) (tenure_fresh profile) ?_
    hrun hseparate
  intro before past move after effects _ hapart hbefore hmove
  exact (next?_passage hmove).tenure hbefore hapart

/-- Whatever a session was doing when its owner stopped it, and whatever the server did meanwhile:
the stop leaves nothing that the client holds, and fails exactly if the server could not be asked,
did not agree, or could not be told. -/
theorem stopped_of_run (hrun : Run.follow next? (fresh profile) moves = some (begun, past))
    (hreturns : Returns begun around waited result after trace) :
    Stopped profile moves begun around waited result after trace := by
  obtain ⟨first, effects, more, hstop, hrest, htrace⟩ := Run.follow_cons_eq_some.mp hreturns.run
  have hpassage := next?_passage hstop
  obtain ⟨hstopping, hmore⟩ := quiet_of_stopping hpassage.halting hreturns.start_not_mem hrest
  have hfarewell := hreturns.farewell
  obtain ⟨ended, verdict, hafter, hled⟩ := hfarewell.concluded
  refine ⟨?_, ?_, ?_, ?_, fun _ _ _ => hreturns.timely, ?_, ?_, hfarewell.failed_iff, ?_, ?_⟩
  · rw [hafter]
    rfl
  · rw [hafter]
    rfl
  · rw [hafter]
    rfl
  · rw [hafter, concludeStop, abandonTasks_eq]
    rfl
  · rw [htrace]
    refine List.forall_mem_append.mpr ⟨?_, hmore⟩
    refine (hpassage.quiet (by simp)).resolve_right ?_
    rintro ⟨_, _, hsteward, -⟩
    exact absurd hsteward (by simp)
  · intro later final more hother hlater
    exact (quiet_of_stopping hstopping hother hlater).2
  · intro other
    have hdead : after.alive = false := by rw [hafter]; rfl
    have hwriter : after.halting.writer = none := by rw [hafter]; rfl
    have hidle : after.call = .idle := by rw [hafter]; rfl
    refine ⟨(after.halting.concludeStop (.ok ())).1, ?_⟩
    show (if after.call = .idle then some (after.beginStop other) else none) = _
    rw [if_pos hidle, beginStop_of_dead hdead, ← concludeStop_effects hwriter]
  · intro hseparate
    obtain ⟨hsole, hleads⟩ := hled (tenure_of_run hrun hseparate)
    have hover : after.Over := hafter ▸ over_concludeStop hsole hleads verdict
    exact ⟨hover, fun later final more hother hlater => hover.run hother hlater⟩

/-- The server agrees to shut down and goes away at once, before the owner has a turn. -/
def practiceDeparture : List Move :=
  practiceAnswers 1 ["2"] ++ [.task (practiceSurroundings 0 (some .finish) .proceed) (.reader 1),
    practiceTurn (.steward 0)]

def Effect.fault? : Effect → Option ClientError
  | .stopped (.error failure) => some failure
  | _ => none

set_option maxRecDepth 100000 in
theorem practiceDeparture_outcome :
    (Run.follow next? (fresh (practiceProfile 3)) practiceStart).map (fun begun =>
      (begun.1.alive, (Run.follow next? begun.1
        (.stop (practiceSurroundings 0 none .proceed) :: practiceDeparture)).map fun middle =>
          (middle.2.all fun effect => ! effect.isVerdict,
            (middle.1.next? (practiceTurn .call)).map fun after =>
              after.2.filterMap Effect.fault?))) =
      some (true, some (true, some [.connectionClosed])) := by
  decide +kernel

/-- The farewell to a server that has gone away cannot be written, and the stop says so. -/
theorem stopped_of_practiceDeparture : ∃ begun past after trace,
    Run.follow next? (fresh (practiceProfile 3)) practiceStart = some (begun, past) ∧
      begun.alive = true ∧
      Returns begun (practiceSurroundings 0 none .proceed)
        (practiceDeparture ++ [practiceTurn .call]) (.error .connectionClosed) after trace ∧
      Stopped (practiceProfile 3) practiceStart begun (practiceSurroundings 0 none .proceed)
        (practiceDeparture ++ [practiceTurn .call]) (.error .connectionClosed) after trace := by
  obtain ⟨⟨begun, past⟩, hrun, hfound⟩ := Option.map_eq_some_iff.mp practiceDeparture_outcome
  obtain ⟨halive, hstops⟩ := Prod.mk.inj hfound
  obtain ⟨⟨middle, early⟩, hfront, hends⟩ := Option.map_eq_some_iff.mp hstops
  obtain ⟨hsilent, hreturn⟩ := Prod.mk.inj hends
  obtain ⟨⟨after, late⟩, hnext, hfault⟩ := Option.map_eq_some_iff.mp hreturn
  have htold : .stopped (.error .connectionClosed) ∈ late := by
    have hmem : .connectionClosed ∈ late.filterMap Effect.fault? := by simp [hfault]
    obtain ⟨effect, heffect, hsays⟩ := List.mem_filterMap.mp hmem
    cases effect with
    | stopped result =>
        cases result with
        | ok done => exact absurd hsays (by simp [Effect.fault?])
        | error failure => exact Option.some.inj hsays ▸ heffect
    | _ => exact absurd hsays (by simp [Effect.fault?])
  have hreturns := returns_of_silent hfront
    (fun effect hmem => by simpa using List.all_eq_true.mp hsilent effect hmem) hnext htold
  exact ⟨begun, past, after, _, hrun, halive, hreturns, stopped_of_run hrun hreturns⟩

end Runs

end NplLifecycle.Session
