import NplLifecycle.Proofs.Session.Budget
import NplLifecycle.Proofs.Session.Itinerary

/-!
# What ends reconnecting

After the error handler has ended the session or did not want to go on, and after no connection
could be had or no welcome was given, a client that is started once neither asks for a connection
nor reports a loss any more.  Where the error handler ends the session over a fault, the steward
still goes on until it sees how the reader ended.
-/

namespace NplLifecycle.Session

/-- At this stage the steward only goes on until it sees that the error handler ended the session.
-/
def Stage.IsDoomed (session : Session) : Stage → Prop
  | .listening connection | .greeting connection _ _ | .serving connection =>
    session.exit? connection = some .aborted
  | .bereft exit => exit = .aborted
  | .connected _ | .attached _ | .reconnecting => False

/-- No connection is asked for any more, and no loss is reported. -/
structure Doomed (session : Session) : Prop where
  call : session.call ≠ .connecting
  stewards : ∀ steward ∈ session.stewards, steward.stage.IsDoomed session

/-- A move after which a client does not reconnect. -/
inductive Ending (session : Session) : Move → Session × List Effect → Prop
  /-- The error handler ends the session over a fault that a reader reports. -/
  | fault {around : Surroundings} {connection : ConnectionId} {outcome : Session × List Effect}
      {chain : List String} {body : Option String} {count : Nat}
      (hmem : .consult (.fault chain body count) .abort ∈ outcome.2) :
      Ending session (.task around (.reader connection)) outcome
  /-- The error handler does not go on after a loss. -/
  | loss {move : Move} {outcome : Session × List Effect}
      (hmem : .consult .closed .abort ∈ outcome.2) : Ending session move outcome
  /-- No connection can be had. -/
  | unsupplied {asker : Asker} {causes : List String} {outcome : Session × List Effect} :
      Ending session (.supply asker (.error causes)) outcome
  /-- The steward seeks a welcome on a connection and gives up. -/
  | unwelcome {around : Surroundings} {id : StewardId} {connection : ConnectionId}
      {outcome : Session × List Effect} (hcourted : session.courted? = some connection)
      (hgone : outcome.1.stewards = []) : Ending session (.task around (.steward id)) outcome

section Ends

variable {session after : Session} {around : Surroundings} {steward : Steward} {id : StewardId}
  {outcome : Session × List Effect} {move : Move}

theorem Stage.IsDoomed.mono {stage : Stage} (hdoomed : stage.IsDoomed session)
    (hlasts : Lasts session after) : stage.IsDoomed after := by
  cases stage with
  | listening connection | greeting connection _ _ | serving connection =>
      exact hlasts.exits connection .aborted hdoomed
  | bereft exit => exact hdoomed
  | connected | attached | reconnecting => exact hdoomed

theorem doomed_of_none (hcall : after.call ≠ .connecting) (hnone : after.stewards = []) :
    after.Doomed :=
  ⟨hcall, by simp [hnone]⟩

theorem Doomed.keep (hdoomed : session.Doomed) (hlasts : Lasts session after)
    (hcall : after.call ≠ .connecting) (hstewards : after.stewards = session.stewards) :
    after.Doomed := by
  refine ⟨hcall, ?_⟩
  intro steward hmem
  exact (hdoomed.stewards steward (hstewards ▸ hmem)).mono hlasts

theorem doomed_of_single (hcall : after.call ≠ .connecting) (hsingle : after.stewards = [steward])
    (hstage : steward.stage.IsDoomed after) : after.Doomed := by
  refine ⟨hcall, ?_⟩
  intro other hmem
  rw [hsingle, List.mem_singleton] at hmem
  exact hmem ▸ hstage

/-- A doomed steward goes on to a stage at which it is doomed too. -/
theorem Stage.IsDoomed.next {stage next : Stage} (hdoomed : stage.IsDoomed session)
    (hnext : stage.Next session next) : next.IsDoomed session := by
  cases hnext with
  | attach | listen | reconnect => simp [IsDoomed] at hdoomed
  | greet | welcome => exact hdoomed
  | lose hexit => exact Option.some.inj (hexit.symm.trans hdoomed)

theorem StewardTurn.doomed (hturn : StewardTurn around session steward outcome)
    (hsingle : session.stewards = [steward]) (hdoomed : session.Doomed) : outcome.1.Doomed := by
  have hstage := hdoomed.stewards steward (hsingle ▸ List.mem_singleton_self steward)
  have hcall : outcome.1.call ≠ .connecting := hturn.frame.1 ▸ hdoomed.call
  rcases hturn.succession hsingle with hnone | ⟨changed, hchanged, hnext⟩
  · exact doomed_of_none hcall hnone
  · exact doomed_of_single hcall hchanged ((hstage.next hnext).mono hturn.lasts)

theorem CallTurn.doomed (hturn : CallTurn around session outcome) (hcourse : session.Course)
    (hdoomed : session.Doomed) : outcome.1.Doomed := by
  have hlasts := hturn.lasts
  have hcall : outcome.1.call ≠ .connecting := fun hconnecting =>
    hdoomed.call (hturn.spares.call hconnecting)
  cases hturn with
  | started => exact hdoomed.keep hlasts hcall rfl
  | failed | orphaned => exact doomed_of_none hcall (Sole.abandonTasks_stewards hcourse.guided.sole)
  | refused hcall' hpoll | agreed hcall' hpoll =>
      exact doomed_of_none hcall
        (Sole.abandonTasks_stewards (hcourse.guided.poll hpoll).guided.sole)

/-- What is doomed stays so, and every move but another start is quiet. -/
theorem Passage.doomed (hpassage : Passage session move outcome) (hother : move ≠ .start)
    (hcourse : session.Course) (hdoomed : session.Doomed) :
    outcome.1.Doomed ∧ ∀ effect ∈ outcome.2, effect.IsQuiet := by
  have hquiet : ∀ effect ∈ outcome.2, effect.IsQuiet := by
    refine (hpassage.quiet hother).resolve_right ?_
    rintro ⟨around, steward, -, hmem, -, hstage, -⟩
    have hstages := hdoomed.stewards steward hmem
    rw [hstage] at hstages
    exact absurd hstages (by simp [Stage.IsDoomed])
  refine ⟨?_, hquiet⟩
  have hlasts := hpassage.lasts
  cases hpassage with
  | start => exact absurd rfl hother
  | stopDead | stopUnsent =>
      exact doomed_of_none (by simp [concludeStop]) (Sole.abandonTasks_stewards hcourse.guided.sole)
  | stop => exact hdoomed.keep hlasts (by simp) rfl
  | abandon =>
      have hcall : session.abandon.1.call = session.call := abandonTasks_call session
      exact doomed_of_none (hcall ▸ hdoomed.call) (Sole.abandonTasks_stewards hcourse.guided.sole)
  | openDocument => exact hdoomed
  | steward hsteward hturn => exact hturn.doomed (hcourse.guided.stewards_eq hsteward) hdoomed
  | reader hreader hexit hconnection hturn =>
      obtain ⟨pending, settled, hafter, -⟩ := hturn.frame hexit
      apply hdoomed.keep hlasts
      · rw [hafter]
        exact hdoomed.call
      · rw [hafter]
        rfl
  | call hturn => exact hturn.doomed hcourse hdoomed
  | supplyStart hcall | refuseStart hcall => exact absurd hcall hdoomed.call
  | resupply hsteward hstage | refuse hsteward hstage =>
      have hstages := hdoomed.stewards _ (steward?_eq_some hsteward).1
      rw [hstage] at hstages
      exact hstages.elim

/-- Whatever reads, the steward is at its connection. -/
theorem Upkeep.isDoomed {reader : Reader} {stage : Stage} (hupkeep : session.Upkeep (some stage))
    (hmem : reader ∈ session.readers) (hreads : reader.IsReading)
    (hexit : after.exit? reader.connection = some .aborted) : stage.IsDoomed after := by
  cases stage with
  | connected connection => exact absurd hreads (hupkeep.1.readers reader hmem)
  | attached connection =>
      have hsame := hupkeep.1.readers reader hmem hreads
      exact absurd (hsame ▸ List.mem_map_of_mem hmem) hupkeep.2
  | listening connection | greeting connection _ _ | serving connection =>
      have hsame := hupkeep.1.readers reader hmem hreads
      exact hsame ▸ hexit
  | bereft exit => exact absurd hreads (hupkeep.1.readers reader hmem)
  | reconnecting => exact absurd hreads (hupkeep.readers reader hmem)

/-- To dispatch a message writes to the log, or sends a response. -/
theorem effect_of_dispatch {message : Message} {effect : Effect}
    (hmem : effect ∈ (session.dispatch around message).2) :
    (∃ line, effect = .log line) ∨ ∃ connection reply, effect = .write connection reply := by
  cases message with
  | notification notification => exact absurd hmem List.not_mem_nil
  | response response =>
      simp only [dispatch, handleResponse] at hmem
      split at hmem
      · exact .inl ⟨_, List.mem_singleton.mp hmem⟩
      · split at hmem
        · exact absurd hmem List.not_mem_nil
        · exact .inl ⟨_, List.mem_singleton.mp hmem⟩
  | request request =>
      simp only [dispatch, handleRequest] at hmem
      rcases List.mem_append.mp hmem with hline | hanswer
      · obtain ⟨line, -, rfl⟩ := List.mem_map.mp hline
        exact .inl ⟨line, rfl⟩
      · split at hanswer
        · rename_i sent hsend
          obtain ⟨connection, -, rfl⟩ := send_eq_ok hsend
          exact .inr ⟨connection, _, List.mem_singleton.mp hanswer⟩
        · exact .inl ⟨_, List.mem_singleton.mp hanswer⟩

theorem not_consult_of_dispatch {message : Message} {event : ConnectionEvent}
    {decision : Decision} : .consult event decision ∉ (session.dispatch around message).2 := by
  intro hmem
  rcases effect_of_dispatch hmem with ⟨line, hlog⟩ | ⟨connection, reply, hwrite⟩
  · exact absurd hlog (by simp)
  · exact absurd hwrite (by simp)

/-- A reader whose fault makes the error handler end the session ends, and knows why. -/
theorem ReaderTurn.exit_of_fault {reader changed : Reader} {reading : Reading}
    {chain : List String} {body : Option String} {count : Nat}
    (hturn : ReaderTurn around session reader reading changed outcome)
    (hmem : reader ∈ session.readers) (hexit : reader.exit = none)
    (hfault : .consult (.fault chain body count) .abort ∈ outcome.2) :
    reader.IsReading ∧ outcome.1.exit? reader.connection = some .aborted := by
  have hfound : reader.connection ∈ session.readers.map Reader.connection :=
    List.mem_map_of_mem hmem
  cases hturn with
  | cancelled => exact absurd hfault List.not_mem_nil
  | message => exact absurd hfault not_consult_of_dispatch
  | bytes | finish => simp at hfault
  | fault hreads hframe =>
      simp only [List.mem_singleton, Effect.consult.injEq] at hfault
      refine ⟨⟨hreads, hexit⟩, (exit?_setReader (by rfl) hfound).trans ?_⟩
      exact congrArg exitAfter hfault.2.symm
  | failure hreads hframe harrival =>
      simp only [List.mem_cons, reduceCtorEq, List.not_mem_nil, Effect.consult.injEq, or_false,
        false_or] at hfault
      refine ⟨⟨hreads, hexit⟩, (exit?_setReader (by rfl) hfound).trans ?_⟩
      rw [← hfault.2]
      rfl

/-- After such a move all is quiet, and the move itself asks for no connection. -/
theorem Ending.doomed (hending : Ending session move outcome) (hother : move ≠ .start)
    (hcourse : session.Course) (hpassage : Passage session move outcome) :
    outcome.1.Doomed ∧ askersIn outcome.2 = [] := by
  cases hending with
  | fault hfault =>
      cases hpassage with
      | reader hreader hexit hconnection hturn =>
          obtain ⟨hmem, -⟩ := reader?_eq_some hreader
          obtain ⟨hreads, haborted⟩ := hturn.exit_of_fault hmem hexit hfault
          obtain ⟨pending, settled, hafter, -⟩ := hturn.frame hexit
          have hcall : outcome.1.call = session.call := by rw [hafter]; rfl
          have hstewards : outcome.1.stewards = session.stewards := by rw [hafter]; rfl
          refine ⟨⟨?_, ?_⟩, askersIn_of_routine hturn.routine⟩
          · intro hconnecting
            have hnone := (hcourse.awaited (hcall ▸ hconnecting)).1
            exact (hcourse.offline_of_none hnone).readers _ hmem hreads
          · intro steward hsteward
            have hsingle := hcourse.single steward (hstewards ▸ hsteward)
            exact (hcourse.guided.upkeep_of_single hsingle).isDoomed hmem hreads haborted
  | loss hloss =>
      rcases hpassage.quiet hother with hquiet | ⟨around, steward, rfl, hmem, hturn, hstage, -⟩
      · exact (hquiet _ hloss).elim
      · have hsingle := hcourse.single steward hmem
        have hcall : outcome.1.call ≠ .connecting :=
          hturn.frame.1 ▸ hcourse.guided.not_connecting hsingle
        cases hturn with
        | resign => exact ⟨doomed_of_none hcall (stewards_dropSteward hsingle), rfl⟩
        | exhaust | reconnect => simp at hloss
        | retire => exact absurd hloss (by simp)
        | _ => simp_all
  | unsupplied =>
      cases hpassage with
      | refuseStart hcall =>
          exact ⟨doomed_of_none (by simp) (hcourse.awaited hcall).1, rfl⟩
      | refuse hsteward =>
          obtain ⟨-, rfl⟩ := steward?_eq_some hsteward
          have hsingle := hcourse.guided.stewards_eq hsteward
          exact ⟨doomed_of_none (hcourse.guided.not_connecting hsingle)
            (stewards_dropSteward hsingle), rfl⟩
  | unwelcome hcourted hgone =>
      cases hpassage with
      | steward hsteward hturn =>
          have hsingle := hcourse.guided.stewards_eq hsteward
          have hcall := hturn.frame.1 ▸ hcourse.guided.not_connecting hsingle
          refine ⟨doomed_of_none hcall hgone, ?_⟩
          rcases hturn.quiet with hquiet | ⟨hstage, -⟩
          · exact askersIn_eq_nil hquiet
          · rw [courted?_of_single hsingle, hstage] at hcourted
            exact absurd hcourted (by simp [Stage.courted?])

end Ends

end NplLifecycle.Session
