import NplLifecycle.Proofs.Session.Quiet

/-!
# Sessions that are over

At most one connection of a session is read from, and it is the one that a stop ends.  So a stop
leaves nothing behind: no steward, no reader that reads, and nothing to send on.  Such a session
does nothing more, whatever else happens to it.
-/

namespace NplLifecycle.Session

/-- A reader was not told to end, and has not ended. -/
def Reader.IsReading (reader : Reader) : Prop :=
  reader.isCancelled = false ∧ reader.exit = none

/-- Whatever still reads is what a stop ends. -/
def Led (session : Session) : Prop :=
  ∀ reader ∈ session.readers, reader.IsReading → session.reader = some reader.connection

/-- Nothing is left of a session: it is not alive, it has no connection to send on, nobody keeps it
connected or reads from it, and its owner waits for nothing. -/
structure Over (session : Session) : Prop where
  alive : session.alive = false
  writer : session.writer = none
  stewards : session.stewards = []
  readers : ∀ reader ∈ session.readers, ¬reader.IsReading
  call : session.call = .idle

/-- Nobody reads who did not read before, and a stop ends the same reader. -/
structure Fewer (before after : Session) : Prop where
  reader : after.reader = before.reader
  readers : ∀ reader ∈ after.readers, reader.IsReading →
    ∃ old ∈ before.readers, old.IsReading ∧ old.connection = reader.connection

section Fewer

variable {before middle after session : Session} {around : Surroundings}

theorem Fewer.refl (session : Session) : Fewer session session :=
  ⟨rfl, fun reader hmem hreads => ⟨reader, hmem, hreads, rfl⟩⟩

theorem Fewer.trans (hfirst : Fewer before middle) (hsecond : Fewer middle after) :
    Fewer before after where
  reader := hsecond.reader.trans hfirst.reader
  readers := by
    intro reader hmem hreads
    obtain ⟨old, hold, hread, hid⟩ := hsecond.readers reader hmem hreads
    obtain ⟨older, holder, hread', hid'⟩ := hfirst.readers old hold hread
    exact ⟨older, holder, hread', hid'.trans hid⟩

theorem Fewer.led (hfewer : Fewer before after) (hled : before.Led) : after.Led := by
  intro reader hmem hreads
  obtain ⟨old, hold, hread, hid⟩ := hfewer.readers reader hmem hreads
  rw [hfewer.reader, ← hid]
  exact hled old hold hread

theorem fewer_of_eq (hreader : after.reader = before.reader)
    (hreaders : after.readers = before.readers) : Fewer before after :=
  ⟨hreader, fun reader hmem hreads => ⟨reader, hreaders ▸ hmem, hreads, rfl⟩⟩

/-- Another reader may take the place of one of the same connection, if it reads only where that one
did. -/
theorem fewer_setReader {old reader : Reader} (hold : old ∈ session.readers)
    (hid : old.connection = reader.connection) (hreads : reader.IsReading → old.IsReading) :
    Fewer session (session.setReader reader) := by
  refine ⟨rfl, ?_⟩
  intro changed hmem hreading
  obtain ⟨other, hother, rfl⟩ := List.mem_map.mp hmem
  split at hreading
  · rename_i hsame
    rw [if_pos hsame]
    exact ⟨old, hold, hreads hreading, hid⟩
  · rename_i hne
    rw [if_neg hne]
    exact ⟨other, hother, hreading, rfl⟩

theorem isReading_of_cancelReader {connection : ConnectionId} {reader : Reader}
    (hmem : reader ∈ (session.cancelReader connection).readers) (hreads : reader.IsReading) :
    reader ∈ session.readers ∧ reader.connection ≠ connection := by
  obtain ⟨old, hold, rfl⟩ := List.mem_map.mp hmem
  split at hreads
  · exact absurd hreads.1 (by simp)
  · rename_i hne
    rw [if_neg hne]
    exact ⟨hold, hne⟩

theorem fewer_cancelReader (connection : ConnectionId) :
    Fewer session (session.cancelReader connection) :=
  ⟨rfl, fun reader hmem hreads =>
    ⟨reader, (isReading_of_cancelReader hmem hreads).1, hreads, rfl⟩⟩

theorem fewer_request (method : String) (params : Json) :
    Fewer session (session.request around method params).1 := by
  simp only [request]
  split
  · exact fewer_of_eq rfl rfl
  · exact fewer_of_eq rfl rfl

theorem fewer_poll {method : String} {id : RequestId} {deadline timeout : Nat}
    {answered : Session × Except ClientError Response}
    (hpoll : session.poll around method id deadline timeout = some answered) :
    Fewer session answered.1 := by
  simp only [poll] at hpoll
  split at hpoll
  · rw [← Option.some.inj hpoll]
    exact fewer_of_eq rfl rfl
  · rw [← Option.some.inj hpoll]
    exact fewer_of_eq rfl rfl
  · obtain ⟨-, hpoll⟩ := Option.ite_none_right_eq_some.mp hpoll
    rw [← Option.some.inj hpoll]
    exact fewer_of_eq rfl rfl

end Fewer

section Leading

variable {session : Session} {around : Surroundings} {outcome : Session × List Effect}

theorem led_of_not_isReading (hnone : ∀ reader ∈ session.readers, ¬reader.IsReading) :
    session.Led :=
  fun reader hmem hreads => absurd hreads (hnone reader hmem)

theorem abandonTasks_readers (session : Session) :
    session.abandonTasks.readers =
      (session.reader.elim session fun connection => session.cancelReader connection).readers := by
  cases hsteward : session.steward with
  | none =>
      cases hreader : session.reader with
      | none => simp [Session.abandonTasks, hsteward, hreader]
      | some connection => simp [Session.abandonTasks, hsteward, hreader]
  | some id =>
      cases hreader : session.reader with
      | none => simp [Session.abandonTasks, hsteward, hreader, dropSteward]
      | some connection =>
          simp [Session.abandonTasks, hsteward, hreader, dropSteward, cancelReader]

/-- Where the reader that a stop ends is told to end, nobody reads any more. -/
theorem Led.abandonTasks (hled : session.Led) :
    ∀ reader ∈ session.abandonTasks.readers, ¬reader.IsReading := by
  intro reader hmem hreads
  rw [abandonTasks_readers] at hmem
  cases hlast : session.reader with
  | none =>
      rw [hlast] at hmem
      exact absurd (hlast.symm.trans (hled reader hmem hreads)) (by simp)
  | some connection =>
      rw [hlast] at hmem
      obtain ⟨hold, hne⟩ := isReading_of_cancelReader hmem hreads
      exact hne (Option.some.inj ((hled reader hold hreads).symm.trans hlast))

theorem fewer_dispatch (message : Message) :
    Fewer session (session.dispatch around message).1 := by
  cases message with
  | response response =>
      simp only [dispatch, handleResponse]
      split
      · exact .refl session
      · split
        · exact fewer_of_eq rfl rfl
        · exact .refl session
  | request request => exact .refl session
  | notification notification => exact .refl session

theorem fewer_readFrame {reader : Reader} (hmem : reader ∈ session.readers)
    (hreads : reader.IsReading) (found : Frame.Outcome) (rest : List UInt8) :
    Fewer session (session.readFrame around reader found rest).1 := by
  cases found with
  | error fault => exact fewer_setReader hmem rfl fun _ => hreads
  | ok body =>
      simp only [readFrame]
      cases Message.decode body with
      | error error => exact fewer_setReader hmem rfl fun _ => hreads
      | ok message =>
          have hread : Fewer session (session.setReader { reader with buffer := rest }) :=
            fewer_setReader hmem rfl fun _ => hreads
          exact hread.trans (fewer_dispatch message)

theorem fewer_readArrival {reader : Reader} (hmem : reader ∈ session.readers)
    (hreads : reader.IsReading) (arrival : Arrival) :
    Fewer session (session.readArrival around reader arrival).1 := by
  cases arrival with
  | bytes chunk => exact fewer_setReader hmem rfl fun _ => hreads
  | finish => exact fewer_setReader hmem rfl fun _ => hreads
  | failure cause => exact fewer_setReader hmem rfl fun _ => hreads

/-- A reader that was told to end does only that; any other one reads on, or ends. -/
theorem stepReader_cases {connection : ConnectionId}
    (hstep : session.stepReader around connection = some outcome) :
    ∃ reader ∈ session.readers,
      (reader.isCancelled = true ∧
        outcome = (session.setReader { reader with exit := some .closed }, [])) ∨
      (reader.IsReading ∧ Fewer session outcome.1) := by
  obtain ⟨reader, reading, hreading, rfl⟩ := stepReader_eq_some.mp hstep
  obtain ⟨hreader, hexit, hfits⟩ := reading?_eq_some.mp hreading
  have hmem : reader ∈ session.readers := List.mem_of_find?_eq_some hreader
  refine ⟨reader, hmem, ?_⟩
  cases reading with
  | quit => exact Or.inl ⟨hfits, rfl⟩
  | handle found rest =>
      have hreads : reader.IsReading := ⟨hfits.1, hexit⟩
      exact Or.inr ⟨hreads, fewer_readFrame hmem hreads found rest⟩
  | take arrival =>
      have hreads : reader.IsReading := ⟨hfits.1, hexit⟩
      exact Or.inr ⟨hreads, fewer_readArrival hmem hreads arrival⟩

theorem fewer_stepReader {connection : ConnectionId}
    (hstep : session.stepReader around connection = some outcome) :
    Fewer session outcome.1 := by
  obtain ⟨reader, hmem, hends | hreads⟩ := stepReader_cases hstep
  · rw [hends.2]
    exact fewer_setReader hmem rfl fun hreads => absurd hreads.2 (by simp)
  · exact hreads.2

theorem fewer_failGreeting (steward : Steward) (connection : ConnectionId)
    (failure : ClientError) :
    Fewer session (session.failGreeting steward connection failure).1 := by
  simp only [failGreeting]
  split
  · exact .trans (fewer_cancelReader connection) (fewer_of_eq rfl rfl)
  · exact .trans (fewer_cancelReader connection) (fewer_of_eq rfl rfl)

/-- A new reader is the one that a stop ends, and the one before it was told to end. -/
theorem Led.listen (hled : session.Led) (steward : Steward) (connection : ConnectionId) :
    (session.listen steward connection).1.Led := by
  intro reader hmem hreads
  simp only [Session.listen, setSteward] at hmem ⊢
  rw [List.mem_append, List.mem_singleton] at hmem
  cases hmem with
  | inl hold =>
      cases hlast : session.reader with
      | none =>
          simp only [hlast] at hold
          exact absurd (hlast.symm.trans (hled reader hold hreads)) (by simp)
      | some previous =>
          simp only [hlast] at hold
          obtain ⟨hold, hne⟩ := isReading_of_cancelReader hold hreads
          exact absurd (Option.some.inj ((hled reader hold hreads).symm.trans hlast)) hne
  | inr hnew => rw [hnew]

theorem fewer_greet (steward : Steward) (connection : ConnectionId) :
    Fewer session (session.greet around steward connection).1 := by
  simp only [greet]
  split
  · exact fewer_failGreeting steward connection _
  · rename_i params _
    have hrequest : Fewer session (session.request around greetingMethod params).1 :=
      fewer_request greetingMethod params
    split
    · rename_i next failure hnext
      rw [hnext] at hrequest
      exact hrequest.trans (fewer_failGreeting steward connection failure)
    · rename_i next id effect hnext
      rw [hnext] at hrequest
      exact hrequest.trans (fewer_of_eq rfl rfl)

theorem fewer_concludeGreeting (steward : Steward) (connection : ConnectionId)
    (answer : Except ClientError Response) :
    Fewer session (session.concludeGreeting around steward connection answer).1 := by
  simp only [concludeGreeting]
  split
  · exact fewer_failGreeting steward connection _
  · split
    · exact fewer_of_eq rfl rfl
    · exact fewer_of_eq rfl rfl

theorem fewer_concludeLoss (steward : Steward) (exit : ReaderExit) :
    Fewer session (session.concludeLoss around steward exit).1 := by
  simp only [concludeLoss]
  split
  · exact fewer_of_eq rfl rfl
  · cases exit with
    | aborted => exact fewer_of_eq rfl rfl
    | closed =>
        cases around.decide .closed with
        | abort => exact fewer_of_eq rfl rfl
        | proceed =>
            simp only [reconnect]
            split
            · exact fewer_of_eq rfl rfl
            · exact fewer_of_eq rfl rfl

theorem Led.stepSteward (hled : session.Led) {id : StewardId}
    (hstep : session.stepSteward around id = some outcome) : outcome.1.Led := by
  obtain ⟨steward, -, hstep⟩ := Option.bind_eq_some_iff.mp hstep
  cases hstage : steward.stage with
  | connected connection =>
      simp only [hstage, Option.some.injEq] at hstep
      rw [← hstep]
      exact (fewer_of_eq rfl rfl).led hled
  | attached connection =>
      simp only [hstage, Option.some.injEq] at hstep
      rw [← hstep]
      exact hled.listen steward connection
  | listening connection =>
      simp only [hstage, Option.some.injEq] at hstep
      rw [← hstep]
      exact (fewer_greet steward connection).led hled
  | greeting connection request deadline =>
      simp only [hstage, Option.map_eq_some_iff] at hstep
      obtain ⟨answered, hpoll, hstep⟩ := hstep
      rw [← hstep]
      exact ((fewer_poll hpoll).trans (fewer_concludeGreeting steward connection _)).led hled
  | serving connection =>
      simp only [hstage, Option.map_eq_some_iff] at hstep
      obtain ⟨exit, -, hstep⟩ := hstep
      rw [← hstep]
      exact (fewer_of_eq rfl rfl).led hled
  | bereft exit =>
      simp only [hstage, Option.some.injEq] at hstep
      rw [← hstep]
      exact (fewer_concludeLoss steward exit).led hled
  | reconnecting => simp [hstage] at hstep

theorem fewer_supply (asker : Asker) (result : Except (List String) ConnectionId) :
    Fewer session (session.supply asker result).1 := by
  cases asker with
  | start =>
      cases result with
      | error causes => exact fewer_of_eq rfl rfl
      | ok connection => exact fewer_of_eq rfl rfl
  | steward id =>
      simp only [supply, supplySteward]
      split
      · exact fewer_of_eq rfl rfl
      · exact fewer_of_eq rfl rfl

end Leading

section Ending

variable {session : Session} {around : Surroundings} {outcome : Session × List Effect}

/-- To forget a session whose owner waits for nothing leaves nothing of it. -/
theorem over_abandon (hsole : session.Sole) (hled : session.Led) (hidle : session.call = .idle) :
    session.abandon.1.Over where
  alive := rfl
  writer := rfl
  stewards := hsole.abandon
  readers := hled.abandonTasks
  call := session.abandonTasks_call.trans hidle

/-- A stop that ends leaves nothing of the session. -/
theorem over_concludeStop (hsole : session.Sole) (hled : session.Led)
    (result : Except ClientError Unit) : (session.concludeStop result).1.Over where
  alive := rfl
  writer := rfl
  stewards := hsole.abandonTasks_stewards
  readers := hled.abandonTasks
  call := rfl

theorem over_concludeShutdown (hsole : session.Sole) (hled : session.Led)
    (answer : Except ClientError Response) :
    (session.concludeShutdown around answer).1.Over := by
  simp only [concludeShutdown]
  split
  · exact over_concludeStop hsole hled _
  · exact over_concludeStop hsole hled (.ok ())

theorem Over.led (hover : session.Over) : session.Led :=
  led_of_not_isReading hover.readers

/-- What happens to a session leaves its readers led, and nothing of it if a stop has ended. -/
structure Parts (outcome : Session × List Effect) : Prop where
  led : outcome.1.Led
  ended : ∀ result, .stopped result ∈ outcome.2 → outcome.1.Over

theorem parts_of_over (hover : outcome.1.Over) : Parts outcome :=
  ⟨hover.led, fun _ _ => hover⟩

theorem parts_of_works (hworks : Works session outcome) (hled : outcome.1.Led) :
    Parts outcome := by
  refine ⟨hled, ?_⟩
  intro result hmem
  exact absurd (hworks.effects _ hmem).1 (by simp [Effect.isVerdict])

theorem parts_concludeStart (hled : session.Led) (result : Except ClientError Welcome) :
    Parts (session.concludeStart result) := by
  cases result with
  | error failure =>
      exact ⟨led_of_not_isReading hled.abandonTasks, by simp [concludeStart, failStart]⟩
  | ok welcome => exact ⟨(fewer_of_eq rfl rfl).led hled, by simp [concludeStart]⟩

theorem parts_stepCall (hsole : session.Sole) (hled : session.Led)
    (hstep : session.stepCall around = some outcome) : Parts outcome := by
  cases hcall : session.call with
  | idle => simp [stepCall, hcall] at hstep
  | connecting => simp [stepCall, hcall] at hstep
  | starting id =>
      simp only [stepCall, hcall] at hstep
      split at hstep
      · have hread : Led { session with ready := session.ready.filter (·.1 ≠ id) } := hled
        rw [hcall] at hread
        rw [← Option.some.inj hstep]
        exact parts_concludeStart hread _
      · obtain ⟨-, hstep⟩ := Option.ite_none_right_eq_some.mp hstep
        rw [← Option.some.inj hstep]
        exact parts_concludeStart hled _
  | stopping id deadline =>
      simp only [stepCall, hcall, Option.map_eq_some_iff] at hstep
      obtain ⟨answered, hpoll, hstep⟩ := hstep
      rw [← hstep]
      exact parts_of_over (over_concludeShutdown ((tame_poll hpoll).sole hsole)
        ((fewer_poll hpoll).led hled) answered.2)

/-- Whatever a session does by itself leaves at most one of its connections read from. -/
theorem Evolves.parts (hevolves : Evolves session outcome) (hsole : session.Sole)
    (hled : session.Led) : Parts outcome := by
  rcases hevolves with ⟨around, task, hstep⟩ | ⟨asker, result, hawaits, rfl⟩
  · cases task with
    | call => exact parts_stepCall hsole hled hstep
    | steward id => exact parts_of_works (works_stepSteward hstep).1 (hled.stepSteward hstep)
    | reader connection =>
        exact parts_of_works (works_stepReader hstep) ((fewer_stepReader hstep).led hled)
  · refine ⟨(fewer_supply asker result).led hled, ?_⟩
    intro verdict hmem
    cases asker with
    | start =>
        cases result with
        | error causes =>
            cases List.mem_cons.mp hmem with
            | inl hline => exact absurd hline (by simp)
            | inr hfailed => exact absurd (List.mem_singleton.mp hfailed) (by simp)
        | ok connection => exact absurd hmem List.not_mem_nil
    | steward id => cases result <;> simp [supply] at hmem

theorem parts_beginStop (hsole : session.Sole) (hled : session.Led) :
    Parts (session.beginStop around) := by
  have hsole' : Sole { session with stopping := true } := hsole
  have hled' : Led { session with stopping := true } := hled
  simp only [beginStop]
  split
  · have htame : Tame { session with stopping := true }
        (Session.request around { session with stopping := true } shutdownMethod .null).1 :=
      tame_request shutdownMethod .null
    have hfewer : Fewer { session with stopping := true }
        (Session.request around { session with stopping := true } shutdownMethod .null).1 :=
      fewer_request shutdownMethod .null
    split
    · rename_i next failure hnext
      rw [hnext] at htame hfewer
      exact parts_of_over (over_concludeStop (htame.sole hsole') (hfewer.led hled') _)
    · rename_i next id effect hnext
      rw [hnext] at hfewer
      refine ⟨hfewer.led hled', ?_⟩
      intro result hmem
      have hplain := (request_plain hnext).1
      rw [← List.mem_singleton.mp hmem] at hplain
      exact absurd hplain (by simp [Effect.isVerdict])
  · exact parts_of_over (over_concludeStop hsole' hled' (.ok ()))

theorem close_plain {effect : Effect} (hmem : effect ∈ session.close.2) :
    effect.isConnect = false := by
  simp only [close, Option.mem_toList, Option.map_eq_some_iff] at hmem
  obtain ⟨connection, -, rfl⟩ := hmem
  rfl

theorem concludeStop_plain {result : Except ClientError Unit} {effect : Effect}
    (hmem : effect ∈ (session.concludeStop result).2) : effect.isConnect = false := by
  cases List.mem_append.mp hmem with
  | inl hclose => exact close_plain hclose
  | inr hstopped =>
      rw [List.mem_singleton.mp hstopped]
      rfl

/-- To begin a stop is not to ask for a connection. -/
theorem beginStop_plain {effect : Effect} (hmem : effect ∈ (session.beginStop around).2) :
    effect.isConnect = false := by
  simp only [beginStop] at hmem
  split at hmem
  · split at hmem
    · exact concludeStop_plain hmem
    · rename_i next id sent hnext
      rw [List.mem_singleton.mp hmem]
      exact (request_plain hnext).2
  · exact concludeStop_plain hmem

end Ending

section Lasting

variable {session : Session} {around : Surroundings} {outcome : Session × List Effect}

/-- What is over does nothing more; a reader that was told to end may still do so. -/
theorem Evolves.over (hevolves : Evolves session outcome) (hover : session.Over) :
    outcome.1.Over ∧ outcome.2 = [] := by
  rcases hevolves with ⟨around, task, hstep⟩ | ⟨asker, result, hawaits, -⟩
  · cases task with
    | call => simp [step, stepCall, hover.call] at hstep
    | steward id => simp [step, stepSteward, steward?, hover.stewards] at hstep
    | reader connection =>
        obtain ⟨reader, hmem, ⟨hcancelled, rfl⟩ | ⟨hreads, -⟩⟩ := stepReader_cases hstep
        · refine ⟨⟨hover.alive, hover.writer, hover.stewards, ?_, hover.call⟩, rfl⟩
          have hfewer : Fewer session
              (session.setReader { reader with exit := some .closed }) :=
            fewer_setReader hmem rfl fun hreads => absurd hreads.2 (by simp)
          intro changed hchanged hreads
          obtain ⟨old, hold, hread, -⟩ := hfewer.readers changed hchanged hreads
          exact hover.readers old hold hread
        · exact absurd hreads (hover.readers reader hmem)
  · cases asker with
    | start => simp [awaits, hover.call] at hawaits
    | steward id => simp [awaits, steward?, hover.stewards] at hawaits

/-- Nothing can be sent by what is over. -/
theorem Over.send (hover : session.Over) (message : Message) :
    session.send around message = .error .connectionClosed := by
  rw [Session.send, hover.writer]

end Lasting

end NplLifecycle.Session
