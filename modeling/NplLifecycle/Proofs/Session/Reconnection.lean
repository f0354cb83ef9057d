import NplLifecycle.Proofs.Session.Correlation
import NplLifecycle.Proofs.Session.Ending

/-!
# Reconnecting

A client that is started once asks for a connection then, and for another one only right after the
error handler wanted to go on after a loss, as long as the limit of its configuration allows it and
no stop has begun.  Every loss of a connection whose welcome was confirmed is put before the error
handler once, unless the handler or the owner ended the session before.  Once the handler or a
failure has ended it, nothing of that happens any more.
-/

namespace NplLifecycle.Session

def Move.around? : Move → Option Surroundings
  | .stop around | .openDocument around _ _ _ | .task around _ => some around
  | .start | .abandon | .supply _ _ => none

/-- What a run says of the connections of a client that was started once. -/
structure Reconnects (profile : ClientProfile) (moves : List Move) (last : Session)
    (trace : List Effect) : Prop where
  /-- The client asks for one connection when it starts, and then for no more than it may restart.
  -/
  bounded : (askersIn trace).length ≤ 1 + profile.configuration.maxRestarts
  /-- It asks for another one only right after the error handler wanted to go on after a loss, when
  it has not yet asked for as many as it may, and if no stop has begun. -/
  asked : ∀ move after effects asker, move ≠ .start → last.next? move = some (after, effects) →
    .connect asker ∈ effects →
      (∃ line, effects = [.consult .closed .proceed, .log line, .connect asker]) ∧
        (askersIn trace).length < 1 + profile.configuration.maxRestarts ∧
        ∀ around, .stop around ∉ moves
  /-- Every loss that is reported is that of a connection whose welcome was confirmed and whose
  reader ended otherwise than by the error handler, and no connection is reported lost twice. -/
  losses : (Itinerary.ofTrace trace).losses = (Itinerary.ofTrace trace).lost.length
  once : (Itinerary.ofTrace trace).lost.Nodup
  lost : ∀ connection ∈ (Itinerary.ofTrace trace).lost,
    connection ∈ (Itinerary.ofTrace trace).welcomed ∧ last.exit? connection = some .closed
  /-- Unless the owner ends the session, every such connection is reported lost exactly once, except
  for one that the steward still has to report. -/
  reported : (∀ move ∈ moves, ¬move.IsEnd) → ∀ connection ∈ (Itinerary.ofTrace trace).welcomed,
    last.exit? connection = some .closed →
      (Itinerary.ofTrace trace).lost.count connection =
        if last.served? = some connection then 0 else 1
  /-- One or two turns of the steward are enough for that, whatever it finds in the world. -/
  due : (∀ move ∈ moves, ¬move.IsEnd) → ∀ connection, last.served? = some connection →
    last.exit? connection = some .closed → ∀ around, ∃ turns ≤ 2, ∃ final more,
      Run.follow next? last (List.replicate turns (.task around (.steward 0))) =
        some (final, more) ∧ connection ∈ (Itinerary.ofTrace (trace ++ more)).lost
  /-- After a move that ends the session no connection is asked for, and no loss is reported. -/
  final : ∀ move after effects, move ≠ .start → last.next? move = some (after, effects) →
    Ending last move (after, effects) → askersIn effects = [] ∧
      ∀ later final more, .start ∉ later → Run.follow next? after later = some (final, more) →
        ∀ effect ∈ more, effect.IsQuiet
  /-- A client without a steward holds no connection and waits for no response. -/
  gone : last.stewards = [] → last.alive = false ∧ last.writer = none ∧ last.pending = []
  /-- The standard error handler makes a client ask for one connection and no more. -/
  standard : (∀ move ∈ moves, ∀ around ∈ move.around?,
    around.decide = ErrorHandler.standard.decide) → askersIn trace = [.start]

section Runs

variable {profile : ClientProfile} {moves : List Move} {session last : Session}
  {trace : List Effect} {around : Surroundings} {steward : Steward} {connection : ConnectionId}
  {outcome : Session × List Effect}

/-- What every move of a client that was started once keeps. -/
structure Orderly (profile : ClientProfile) (session : Session) (trace : List Effect) : Prop where
  course : session.Course
  budget : Budget profile session (askersIn trace).length
  charted : session.Charted (Itinerary.ofTrace trace)

theorem orderly_beginStart (profile : ClientProfile) :
    Orderly profile (fresh profile).beginStart.1 [.connect .start] where
  course := course_beginStart profile
  budget := ⟨rfl, Nat.le_add_right 1 _, by simp [beginStart, fresh], fun _ => rfl⟩
  charted := by
    refine ⟨?_, ?_, List.nodup_nil, List.nodup_nil, ?_, ?_, ?_, rfl⟩ <;>
      simp [Itinerary.ofTrace, Itinerary.advance, Itinerary.enter, served?, courted?, stage?,
        beginStart, fresh]

theorem Orderly.step {before after : Session} {past effects : List Effect} {move : Move}
    (horderly : Orderly profile before past) (hother : move ≠ .start)
    (hmove : before.next? move = some (after, effects)) :
    Orderly profile after (past ++ effects) := by
  have hpassage := next?_passage hmove
  refine ⟨hpassage.course horderly.course hother, ?_, ?_⟩
  · rw [askersIn_append, List.length_append]
    exact horderly.budget.spend horderly.course (hpassage.spending hother)
  · rw [ofTrace_append]
    exact hpassage.charted hother horderly.course horderly.charted

theorem orderly_of_run
    (hrun : Run.follow next? (fresh profile) (.start :: moves) = some (last, trace))
    (honce : .start ∉ moves) : Orderly profile last trace := by
  obtain ⟨more, hrest, rfl⟩ := follow_start hrun
  refine Run.follow_induction
    (fun session past => Orderly profile session (.connect .start :: past))
    (orderly_beginStart profile) ?_ hrest
  intro before past move after effects hmem horderly hmove
  exact horderly.step (fun hsame => honce (hsame ▸ hmem)) hmove

/-- As long as the owner does not end the session, every loss is reported or still to be. -/
theorem reported_of_run
    (hrun : Run.follow next? (fresh profile) (.start :: moves) = some (last, trace))
    (honce : .start ∉ moves) (hends : ∀ move ∈ moves, ¬move.IsEnd) :
    last.Unhalted ∧ last.Reported (Itinerary.ofTrace trace) := by
  obtain ⟨more, hrest, rfl⟩ := follow_start hrun
  have hall : Orderly profile last (.connect .start :: more) ∧ last.Unhalted ∧
      last.Reported (Itinerary.ofTrace (.connect .start :: more)) := by
    refine Run.follow_induction (fun session past =>
      Orderly profile session (.connect .start :: past) ∧ session.Unhalted ∧
        session.Reported (Itinerary.ofTrace (.connect .start :: past))) ?_ ?_ hrest
    · refine ⟨orderly_beginStart profile, ⟨rfl, by simp [beginStart]⟩, ?_⟩
      simp [Reported, Itinerary.ofTrace, Itinerary.advance, Itinerary.enter]
    · rintro before past move after effects hmem ⟨horderly, hunhalted, hreported⟩ hmove
      have hother : move ≠ .start := fun hsame => honce (hsame ▸ hmem)
      have hpassage := next?_passage hmove
      refine ⟨horderly.step hother hmove, hpassage.unhalted (hends move hmem) hunhalted, ?_⟩
      rw [← List.cons_append, ofTrace_append]
      exact hpassage.reported hother (hends move hmem) horderly.course horderly.charted hunhalted
        hreported
  exact hall.2

theorem Passage.halting (hpassage : Passage session (.stop around) outcome) :
    outcome.1.stopping = true := by
  cases hpassage with
  | stopDead | stopUnsent =>
      simp only [concludeStop, close, abandonTasks_eq]
      rfl
  | stop => rfl

/-- A stop that has begun is not forgotten. -/
theorem stopping_of_run
    (hrun : Run.follow next? (fresh profile) moves = some (last, trace))
    (hstop : .stop around ∈ moves) : last.stopping = true := by
  refine Run.follow_history_induction (fun done session _ =>
    (∃ around, .stop around ∈ done) → session.stopping = true) ?_ ?_ hrun ⟨around, hstop⟩
  · rintro ⟨_, hmem⟩
    exact absurd hmem List.not_mem_nil
  · rintro done before past move after effects - hhalted hmove ⟨found, hmem⟩
    have hpassage := next?_passage hmove
    by_cases hmovestop : ∃ other, move = .stop other
    · obtain ⟨other, rfl⟩ := hmovestop
      exact hpassage.halting
    · rw [hpassage.stopping fun other hequal => hmovestop ⟨other, hequal⟩]
      rcases List.mem_append.mp hmem with hold | hnew
      · exact hhalted ⟨found, hold⟩
      · exact absurd ⟨found, (List.mem_singleton.mp hnew).symm⟩ hmovestop

theorem Orderly.asked {after : Session} {effects : List Effect} {move : Move} {asker : Asker}
    (horderly : Orderly profile session trace) (hother : move ≠ .start)
    (hmove : session.next? move = some (after, effects)) (hmem : .connect asker ∈ effects) :
    (∃ line, effects = [.consult .closed .proceed, .log line, .connect asker]) ∧
      (askersIn trace).length < 1 + profile.configuration.maxRestarts ∧
      session.stopping = false := by
  have hasker : asker ∈ askersIn effects := List.mem_filterMap.mpr ⟨_, hmem, rfl⟩
  cases (next?_passage hmove).spending hother with
  | spare hnone | first hnone =>
      rw [hnone] at hasker
      exact absurd hasker List.not_mem_nil
  | @renew around steward line hmovesteward hsteward hstopping hdecision hlimit houtcome =>
      obtain ⟨-, rfl⟩ := Prod.mk.inj houtcome
      obtain rfl : asker = .steward steward.id := List.mem_singleton.mp hasker
      refine ⟨⟨line, rfl⟩, ?_, hstopping⟩
      rw [horderly.budget.counted steward hsteward, ← horderly.budget.kept]
      exact Nat.add_lt_add_left hlimit 1

/-- A loss is reported once, or not yet. -/
theorem Orderly.count_lost (horderly : Orderly profile session trace)
    (hreported : session.Reported (Itinerary.ofTrace trace))
    (hwelcomed : connection ∈ (Itinerary.ofTrace trace).welcomed)
    (hexit : session.exit? connection = some .closed) :
    (Itinerary.ofTrace trace).lost.count connection =
      if session.served? = some connection then 0 else 1 := by
  have honce := horderly.charted.once
  by_cases hserved : session.served? = some connection
  · have hcurrent := horderly.charted.serves connection hserved
    rw [hcurrent] at honce
    rw [if_pos hserved, List.count_eq_zero]
    exact fun hmem => (List.nodup_append.mp honce).2.2 connection hmem connection
      (List.mem_singleton_self connection) rfl
  · have hlost : connection ∈ (Itinerary.ofTrace trace).lost := by
      rcases hreported connection hwelcomed with hlost | haborted | hserves
      · exact hlost
      · exact absurd (hexit.symm.trans haborted) (by simp)
      · exact absurd hserves hserved
    rw [if_neg hserved]
    exact List.count_eq_one_of_mem (List.nodup_append.mp honce).1 hlost

theorem next?_of_bereft {exit : ReaderExit} (hsteward : session.steward? 0 = some steward)
    (hstage : steward.stage = .bereft exit) (around : Surroundings) :
    session.next? (.task around (.steward 0)) =
      some (session.concludeLoss around steward exit) := by
  show (session.steward? 0).bind _ = _
  rw [hsteward, Option.bind_some, hstage]

/-- Where the owner has not ended the session, a steward that has to decide about a loss reports
it. -/
theorem StewardTurn.advance_lose {itinerary : Itinerary}
    (hturn : StewardTurn around session steward outcome)
    (hstage : steward.stage = .bereft .closed) (hstopping : session.stopping = false) :
    itinerary.advance outcome.2 = itinerary.lose := by
  cases hturn with
  | resign | exhaust | reconnect => rfl
  | retire hexit hwhy => simp_all
  | _ => simp_all

theorem Orderly.lost_of_bereft (horderly : Orderly profile session trace)
    (hsingle : session.stewards = [steward]) (hstage : steward.stage = .bereft .closed)
    (hserved : session.served? = some connection) (hstopping : session.stopping = false)
    (around : Surroundings) : ∃ final more,
      session.next? (.task around (.steward 0)) = some (final, more) ∧
        connection ∈ (Itinerary.ofTrace (trace ++ more)).lost := by
  have hmove := next?_of_bereft (horderly.course.steward?_zero hsingle) hstage around
  refine ⟨(session.concludeLoss around steward .closed).1,
    (session.concludeLoss around steward .closed).2, hmove, ?_⟩
  have hcurrent := horderly.charted.serves connection hserved
  rw [ofTrace_append, (stewardTurn_concludeLoss hstage).advance_lose hstage hstopping,
    Itinerary.lose, hcurrent]
  exact List.mem_append_right _ (List.mem_singleton_self connection)

theorem Orderly.due (horderly : Orderly profile session trace)
    (hstopping : session.stopping = false) (hserved : session.served? = some connection)
    (hexit : session.exit? connection = some .closed) (around : Surroundings) :
    ∃ turns ≤ 2, ∃ final more,
      Run.follow next? session (List.replicate turns (.task around (.steward 0))) =
        some (final, more) ∧ connection ∈ (Itinerary.ofTrace (trace ++ more)).lost := by
  have hcourse := horderly.course
  obtain ⟨steward, hsingle⟩ := hcourse.guided.none_or_single.resolve_left fun hnone =>
    absurd ((served?_of_none hnone).symm.trans hserved) (by simp)
  have hupkeep := hcourse.guided.upkeep_of_single hsingle
  have hserves := hserved
  rw [served?_of_single hsingle] at hserves
  cases hstage : steward.stage with
  | connected | attached | listening | greeting | reconnecting =>
      rw [hstage] at hserves
      exact absurd hserves (by simp [Stage.served?])
  | bereft exit =>
      rw [hstage] at hserves hupkeep
      obtain ⟨-, reader, hreader, hended⟩ := hupkeep
      obtain rfl : reader = connection := Option.some.inj (hreader.symm.trans hserves)
      obtain rfl : exit = .closed := Option.some.inj (hended.symm.trans hexit)
      obtain ⟨final, more, hmove, hlost⟩ :=
        horderly.lost_of_bereft hsingle hstage hserved hstopping around
      exact ⟨1, by simp, final, more, Run.follow_singleton hmove, hlost⟩
  | serving served =>
      rw [hstage] at hserves hupkeep
      obtain rfl : served = connection := Option.some.inj hserves
      have hmove := next?_of_serving (hcourse.steward?_zero hsingle) hstage hexit around
      have hnext := horderly.step (by simp) hmove
      have hstewards := stewards_concludeServing hsingle .closed
      have hstill : (session.concludeServing steward .closed).1.served? = some served :=
        (served?_of_single hstewards).trans hupkeep.2.1
      obtain ⟨final, more, hlast, hlost⟩ :=
        hnext.lost_of_bereft hstewards rfl hstill hstopping around
      refine ⟨2, Nat.le_refl 2, final, _, Run.follow_cons_eq_some.mpr
        ⟨_, _, _, hmove, Run.follow_singleton hlast, rfl⟩, ?_⟩
      rwa [← List.append_assoc]

theorem Doomed.quiet_of_run {later : List Move} {final : Session} {more : List Effect}
    (hdoomed : session.Doomed) (hcourse : session.Course) (hlater : .start ∉ later)
    (hrun : Run.follow next? session later = some (final, more)) :
    ∀ effect ∈ more, effect.IsQuiet := by
  have hall : (final.Doomed ∧ final.Course) ∧ ∀ effect ∈ more, effect.IsQuiet := by
    refine Run.follow_induction (fun session past =>
      (session.Doomed ∧ session.Course) ∧ ∀ effect ∈ past, effect.IsQuiet) ?_ ?_ hrun
    · exact ⟨⟨hdoomed, hcourse⟩, fun _ hmem => absurd hmem List.not_mem_nil⟩
    · rintro before past move after effects hmem ⟨⟨hbefore, hcourse⟩, hpast⟩ hmove
      have hother : move ≠ .start := fun hsame => hlater (hsame ▸ hmem)
      have hpassage := next?_passage hmove
      obtain ⟨hafter, hquiet⟩ := hpassage.doomed hother hcourse hbefore
      exact ⟨⟨hafter, hpassage.course hcourse hother⟩, List.forall_mem_append.mpr ⟨hpast, hquiet⟩⟩
  exact hall.2

theorem askersIn_of_standard
    (hrun : Run.follow next? (fresh profile) (.start :: moves) = some (last, trace))
    (honce : .start ∉ moves) (hstandard : ∀ move ∈ moves, ∀ around ∈ move.around?,
      around.decide = ErrorHandler.standard.decide) : askersIn trace = [.start] := by
  obtain ⟨more, hrest, rfl⟩ := follow_start hrun
  have hnone : askersIn more = [] := by
    refine Run.follow_induction (fun _ past => askersIn past = []) rfl ?_ hrest
    intro before past move after effects hmem hpast hmove
    rw [askersIn_append, hpast, List.nil_append]
    cases (next?_passage hmove).spending (fun hsame => honce (hsame ▸ hmem)) with
    | spare hnone | first hnone => exact hnone
    | renew hmovesteward hsteward hstopping hdecision =>
        rw [hstandard move hmem _ (by rw [hmovesteward]; rfl)] at hdecision
        exact absurd hdecision (by simp [ErrorHandler.decide])
  calc
    askersIn (.connect .start :: more) = .start :: askersIn more := rfl
    _ = [.start] := by rw [hnone]

/-- Whatever error handler, server and supplier of connections a client meets, from its start on: it
reconnects as its error handler and its configuration want. -/
theorem reconnects_of_run
    (hrun : Run.follow next? (fresh profile) (.start :: moves) = some (last, trace))
    (honce : .start ∉ moves) : Reconnects profile moves last trace := by
  have horderly := orderly_of_run hrun honce
  refine ⟨horderly.budget.bounded, ?_, horderly.charted.losses,
    (List.nodup_append.mp horderly.charted.once).1, ?_, ?_, ?_, ?_, ?_,
    askersIn_of_standard hrun honce⟩
  · intro move after effects asker hother hmove hmem
    obtain ⟨hshape, hlimit, hstopping⟩ := horderly.asked hother hmove hmem
    refine ⟨hshape, hlimit, ?_⟩
    intro around hstop
    have hhalted := stopping_of_run hrun (List.mem_cons_of_mem _ hstop)
    exact absurd (hhalted.symm.trans hstopping) (by simp)
  · intro connection hmem
    exact ⟨horderly.charted.known connection (List.mem_append_left _ hmem),
      horderly.charted.closed connection hmem⟩
  · intro hends connection hwelcomed hexit
    exact horderly.count_lost (reported_of_run hrun honce hends).2 hwelcomed hexit
  · intro hends connection hserved hexit around
    exact horderly.due (reported_of_run hrun honce hends).1.stopping hserved hexit around
  · intro move after effects hother hmove hending
    have hpassage := next?_passage hmove
    obtain ⟨hdoomed, hnone⟩ := hending.doomed hother horderly.course hpassage
    exact ⟨hnone, fun later final more hlater hmore =>
      hdoomed.quiet_of_run (hpassage.course horderly.course hother) hlater hmore⟩
  · intro hnone
    have hoffline := horderly.course.offline_of_none hnone
    exact ⟨hoffline.alive, hoffline.writer, hoffline.pending⟩

/-- The first connection is lost after its welcome, and so is the second one. -/
def practiceReconnection : List Move :=
  practiceGreeting .start 1 ++ practiceAnswers 1 ["1"] ++
    [practiceTurn (.steward 0), practiceTurn .call] ++ practiceLoss 1 .proceed ++
    practiceGreeting (.steward 0) 2 ++ practiceAnswers 2 ["2"] ++ [practiceTurn (.steward 0)] ++
    practiceLoss 2 .proceed

theorem start_not_mem_practiceReconnection : .start ∉ practiceReconnection := by
  simp [practiceReconnection, practiceGreeting, practiceAnswers, practiceTurn, practiceLoss]

set_option maxRecDepth 100000 in
theorem practiceReconnection_itinerary :
    (Run.follow next? (fresh (practiceProfile 1)) (.start :: practiceReconnection)).map
        (fun result => (askersIn result.2, Itinerary.ofTrace result.2)) =
      some ([.start, .steward 0], ⟨none, [1, 2], [1, 2], 2⟩) := by
  decide +kernel

/-- A client that may restart once asks for two connections, and both are reported lost. -/
theorem reconnects_of_practiceReconnection : ∃ last trace,
    Run.follow next? (fresh (practiceProfile 1)) (.start :: practiceReconnection) =
        some (last, trace) ∧
      askersIn trace = [.start, .steward 0] ∧ (Itinerary.ofTrace trace).lost = [1, 2] ∧
      Reconnects (practiceProfile 1) practiceReconnection last trace := by
  obtain ⟨⟨last, trace⟩, hrun, hfound⟩ := Option.map_eq_some_iff.mp practiceReconnection_itinerary
  obtain ⟨haskers, hitinerary⟩ := Prod.mk.inj hfound
  exact ⟨last, trace, hrun, haskers, congrArg Itinerary.lost hitinerary,
    reconnects_of_run hrun start_not_mem_practiceReconnection⟩

end Runs

end NplLifecycle.Session
